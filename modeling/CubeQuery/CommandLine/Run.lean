import CubeQuery.CommandLine.Invocation
import CubeQuery.Json.Printer
import CubeQuery.Request.Shorthand
import CubeQuery.Session.Cube
import CubeQuery.Xmla.Connection

set_option autoImplicit false

/-!
# Running commands

What an invocation prints and the code it exits with. A command either prints the statement of a
query or runs the query and prints its report in JSON; an error is printed in words and exits with
code 1, and arguments that are not accepted exit with code 2.
-/

namespace CubeQuery.CommandLine

open Mdx (Level)
open Request (Options DimensionOptions MemberSelection TableQuery ChartConfig)

/-- What a run prints, and its exit code. -/
structure Outcome where
  code : UInt32
  stdout : String
  stderr : String
deriving DecidableEq, Repr, Inhabited

/-- The outcome of printing a line. -/
def Outcome.line (text : String) : Outcome :=
  ⟨0, text ++ "\n", ""⟩

/-- The outcome of an error. -/
def Outcome.error (text : String) : Outcome :=
  ⟨1, "", "Error: " ++ text ++ "\n"⟩

/-- The outcome of arguments that are not accepted. -/
def Outcome.usage : Outcome :=
  ⟨2, "", "usage: mdx [OPTIONS] --cube <CUBE> <COMMAND>\n"⟩

/-- The outcome of a printed text or an error. -/
def Outcome.ofResult : Except String String → Outcome
  | .ok text => .line text
  | .error text => .error text

/-- Levels by their names. -/
def levels (names : List String) : List Level :=
  names.map Level.mk

/-- The options that arguments ask for; sort keys are read before filters. -/
def QueryArguments.options? (a : QueryArguments) : Except Error Options := do
  let orderBy ← a.orderBy.mapM Request.parseSortKey
  let filters ← Request.parseFilters a.filters
  .ok ⟨filters, orderBy, a.skip, a.top, a.totalCount⟩

/-- The options of a dimension query that arguments ask for; its type is read first. -/
def dimensionOptions? (measures : List String) (type : Option String) (a : QueryArguments) :
    Except Error DimensionOptions := do
  let selection ← type.mapM MemberSelection.parse
  .ok ⟨levels measures, selection, ← a.options?⟩

namespace Invocation

/-- The connection to the server of an invocation. -/
def connect? (i : Invocation) : Except String Xmla.Connection := do
  let url ← i.url.elim (.error "--url or MDX_URL is required") .ok
  let catalog ← i.catalog.elim (.error "--catalog or MDX_CATALOG is required") .ok
  let settings := ((Xmla.Settings.ofUrl url).withCatalog catalog).withTimeout i.timeoutMillis
  let settings :=
    match i.username with
    | some username => settings.withCredentials username (i.password.getD "")
    | none => settings
  (Xmla.Connection.ofSettings? settings).mapError (·.message)

variable {m : Type → Type} [Monad m]

/-- Asks the cube of an invocation a question that depends on options, and prints the answer. -/
def ask {ω α : Type} (i : Invocation) (exchange : Xmla.Exchange m) (options? : Except Error ω)
    (question : Session.Cube m → ω → m (Except Error α)) (write : α → Json) : m Outcome :=
  match i.connect?, options? with
  | .error text, _ => pure (.error text)
  | .ok _, .error e => pure (.error e.message)
  | .ok connection, .ok options => do
    let answer ← question ⟨i.cube, connection.transport exchange⟩ options
    pure (.ofResult ((answer.map fun report => (write report).pretty).mapError (·.message)))

/-- Runs an invocation, with an exchange for its requests. -/
def run (i : Invocation) (exchange : Xmla.Exchange m) : m Outcome :=
  match i.command with
  | .compileDimension attributes measures type query =>
    let text := do
      let options ← dimensionOptions? measures type query
      Plan.dimensionText? i.cube (options.query (levels attributes))
    pure (.ofResult (text.mapError (·.message)))
  | .compileTable measures rows columns query =>
    let text := do
      let options ← query.options?
      Plan.tableText? i.cube ⟨levels columns, levels measures, levels rows, options⟩
    pure (.ofResult (text.mapError (·.message)))
  | .dimension attributes measures type query =>
    i.ask exchange (dimensionOptions? measures type query)
      (fun cube options => cube.dimension (levels attributes) options)
      (Report.Dimension.toJson Report.Row.toJson)
  | .table measures rows columns query =>
    if !columns.isEmpty then pure (.error "--column is only supported by compile-table")
    else
      i.ask exchange query.options?
        (fun cube options => cube.table (levels measures) (levels rows) options)
        (Report.Table.toJson Report.Row.toJson)
  | .chart measures xAxis groupBy query =>
    i.ask exchange query.options?
      (fun cube options => cube.chart ⟨levels measures, ⟨xAxis⟩, groupBy.map Level.mk⟩ options)
      Report.Chart.toJson

end Invocation

/-- Runs the program on arguments and variables of the environment. -/
def run {m : Type → Type} [Monad m] (environment : String → Option String)
    (exchange : Xmla.Exchange m) (arguments : List String) : m Outcome :=
  match Invocation.ofArguments? environment arguments with
  | some invocation => invocation.run exchange
  | none => pure .usage

end CubeQuery.CommandLine
