import CubeQuery.Cellset.Basic
import CubeQuery.Cellset.Codec
import CubeQuery.Cellset.Counts
import CubeQuery.Cellset.Decode
import CubeQuery.CommandLine.Arguments
import CubeQuery.CommandLine.Invocation
import CubeQuery.CommandLine.Run
import CubeQuery.Decimal.Numeral
import CubeQuery.Decimal.Shortest
import CubeQuery.Error
import CubeQuery.Json.Basic
import CubeQuery.Json.Printer
import CubeQuery.Json.Reader
import CubeQuery.Json.Record
import CubeQuery.Main
import CubeQuery.Mdx.Expr
import CubeQuery.Mdx.Kind
import CubeQuery.Mdx.Level
import CubeQuery.Mdx.Operator
import CubeQuery.Mdx.Scalar
import CubeQuery.Mdx.Set
import CubeQuery.Mdx.Statement
import CubeQuery.Plan.Dimension
import CubeQuery.Plan.FilterSplit
import CubeQuery.Plan.Grain
import CubeQuery.Plan.Table
import CubeQuery.Proofs.Report.RunningCells
import CubeQuery.Proofs.Cellset.Density
import CubeQuery.Proofs.Outcome
import CubeQuery.Proofs.Plan.Assignment
import CubeQuery.Proofs.Plan.Checks
import CubeQuery.Proofs.Plan.DimensionStatement
import CubeQuery.Proofs.Plan.SetForms
import CubeQuery.Proofs.Plan.SortGrain
import CubeQuery.Report.Chart
import CubeQuery.Report.Dimension
import CubeQuery.Report.Layout
import CubeQuery.Report.PropertyMap
import CubeQuery.Report.Row
import CubeQuery.Report.Table
import CubeQuery.Request.Codec
import CubeQuery.Request.Filter
import CubeQuery.Request.Options
import CubeQuery.Request.Query
import CubeQuery.Request.Shorthand
import CubeQuery.Request.SortKey
import CubeQuery.Session.Cube
import CubeQuery.Session.Transport
import CubeQuery.Text.Blank
import CubeQuery.Text.Hex
import CubeQuery.Text.Word
import CubeQuery.Value
import CubeQuery.Xml.Char
import CubeQuery.Xml.Document
import CubeQuery.Xml.Node
import CubeQuery.Xml.Reference
import CubeQuery.Xml.Token
import CubeQuery.Xmla.Connection
import CubeQuery.Xmla.Envelope
import CubeQuery.Xmla.Fault
import CubeQuery.Xmla.Reply
import CubeQuery.Proofs.Plan.DimensionAcceptance
import CubeQuery.Proofs.Plan.TableStatement
import CubeQuery.Proofs.Plan.TableAcceptance
import CubeQuery.Proofs.Mdx.Hierarchies
import CubeQuery.Proofs.Plan.FilterAxes
import CubeQuery.Proofs.Mdx.Reading
import CubeQuery.Proofs.Plan.RowHierarchies
import CubeQuery.Proofs.Plan.SortedTuples
import CubeQuery.Proofs.Report.Faults
import CubeQuery.Proofs.Session.Calls
import CubeQuery.Proofs.Plan.ColumnHierarchies
import CubeQuery.Proofs.Mdx.Server
import CubeQuery.Proofs.Plan.DimensionCount
import CubeQuery.Proofs.Plan.Pages
import CubeQuery.Proofs.Plan.TableCount
import CubeQuery.Proofs.Plan.AddedCount
import CubeQuery.Proofs.Plan.FilterReading
import CubeQuery.Proofs.Mdx.Mentions
import CubeQuery.Proofs.Plan.PlannedNames
import CubeQuery.Proofs.Plan.CountedColumns
import CubeQuery.Proofs.Plan.BoundStatements
import CubeQuery.Proofs.Plan.ReservedNames
import CubeQuery.Proofs.Cellset.SparseCells
import CubeQuery.Proofs.Plan.ListedColumns
import CubeQuery.Proofs.Report.RowCount
import CubeQuery.Proofs.Report.RowLevels
import CubeQuery.Proofs.Session.DimensionLayout
import CubeQuery.Proofs.Session.Records
import CubeQuery.Proofs.Session.ChartMeasures
import CubeQuery.Proofs.Cellset.Ordinals
import CubeQuery.Proofs.Mdx.StableSort
import CubeQuery.Proofs.Mdx.Arrangement
import CubeQuery.Proofs.Report.TableRows
import CubeQuery.Proofs.Report.GrandTotal
import CubeQuery.Proofs.EqualValues
import CubeQuery.Proofs.Report.ChartAxis
import CubeQuery.Proofs.Report.ChartSeries
import CubeQuery.Proofs.Report.ChartAlignment
import CubeQuery.Proofs.Report.ChartSelection
import CubeQuery.Proofs.Report.LayoutFilling
import CubeQuery.Proofs.Text.Ends
import CubeQuery.Proofs.Text.Separators
import CubeQuery.Proofs.Request.FilterParts
import CubeQuery.Proofs.Request.FilterText
import CubeQuery.Proofs.Mdx.Selections
import CubeQuery.Proofs.Request.MemberKeys
import CubeQuery.Proofs.Xmla.Enclosure
import CubeQuery.Proofs.Session.LayerStack
import CubeQuery.Proofs.Report.RecordFields
import CubeQuery.Proofs.Mdx.StatementCalls
import CubeQuery.Proofs.Json.Fields
import CubeQuery.Proofs.Json.Models
import CubeQuery.Proofs.Xml.Addresses
import CubeQuery.Proofs.Xmla.ReplyFaults
import CubeQuery.Proofs.Cellset.PassedOver
