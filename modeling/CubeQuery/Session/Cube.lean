import CubeQuery.Plan.Table
import CubeQuery.Report.Chart
import CubeQuery.Report.Dimension
import CubeQuery.Report.Layout
import CubeQuery.Report.PropertyMap
import CubeQuery.Report.Table
import CubeQuery.Session.Transport

set_option autoImplicit false

/-!
# Cubes behind a transport

Querying one cube: a query is put into a statement, the statement is sent, and the cellset that
comes back is turned into a report. A query that has no statement is not sent.
-/

namespace CubeQuery.Session

open Mdx (Level)
open Report (Row PropertyMap Layout FilledRow Chart)
open Request (Filter Options DimensionOptions DimensionQuery TableQuery ChartConfig)

/-- A cube and the transport to its server. -/
structure Cube (m : Type → Type) where
  name : String
  transport : Transport m

namespace Cube

variable {m : Type → Type} [Monad m]

/-- Sends a statement if there is one, and reads the cellset that comes back. -/
def ask {α : Type} (cube : Cube m) (statement? : Except Error String)
    (read : Cellset → Except Error α) : m (Except Error α) :=
  match statement? with
  | .error e => pure (.error e)
  | .ok statement => do
    let outcome ← cube.transport statement
    pure (outcome.bind read)

/-- The rows of a dimension. -/
def dimension (cube : Cube m) (attributes : List Level) (options : DimensionOptions) :
    m (Except Error (Report.Dimension Row)) :=
  let query := options.query attributes
  cube.ask (Plan.dimensionText? cube.name query) fun c =>
    Report.dimensionRows? c query.options.requestsTotalCount

/-- The rows of a dimension as records. -/
def dimensionRecords {α : Type} (cube : Cube m) (map : PropertyMap) (read? : Json → Option α)
    (options : DimensionOptions) : m (Except Error (Report.Dimension α)) := do
  let outcome ← cube.dimension (map.expressions.map Level.mk) options
  pure (outcome.bind fun report => report.mapM? (map.record? read?))

/-- The rows of a table of measures by row attributes. -/
def table (cube : Cube m) (measures rows : List Level) (options : Options) :
    m (Except Error (Report.Table Row)) :=
  cube.ask (Plan.tableText? cube.name ⟨[], measures, rows, options⟩) fun c =>
    Report.tableRows? c options.requestsTotals options.requestsTotalCount

/-- The rows of a table as records. The measures of a map are measured; other levels are rows. -/
def tableRecords {α : Type} (cube : Cube m) (map : PropertyMap) (read? : Json → Option α)
    (options : Options) : m (Except Error (Report.Table α)) := do
  let (measures, rows) := (map.expressions.map Level.mk).partition (·.isMeasure)
  let outcome ← cube.table measures rows options
  pure (outcome.bind fun report => report.mapM? (map.record? read?))

/-- A chart. -/
def chart (cube : Cube m) (config : ChartConfig) (options : Options) :
    m (Except Error Chart) :=
  cube.ask (Plan.tableText? cube.name (config.query options)) Report.chart?

/-- The table query for the measures of a layout under filters. -/
def layoutQuery {α ε : Type} (layout : Layout α ε) (filters : List Filter) : TableQuery :=
  ⟨[], layout.measures.map Level.mk, [], { Options.none with filters := filters }⟩

/-- A laid out table. -/
def layout {α ε : Type} (cube : Cube m) (layout : Layout α ε) (filters : List Filter) :
    m (Except Error (List (FilledRow α ε))) :=
  cube.ask (Plan.tableText? cube.name (layoutQuery layout filters)) layout.fill?

end Cube

end CubeQuery.Session
