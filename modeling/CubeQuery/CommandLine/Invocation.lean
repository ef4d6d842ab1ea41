import CubeQuery.CommandLine.Arguments
import CubeQuery.Request.Query
import CubeQuery.Text.Blank

set_option autoImplicit false

/-!
# Invocations

The commands of the program and what each is given. Options about the server and the cube stand
before the command, or come from the environment, where an argument wins over a variable.
-/

namespace CubeQuery.CommandLine

/-- What the sorting, filtering and paging options say, not yet put into a query. -/
structure QueryArguments where
  filters : List String
  orderBy : List String
  skip : Option UInt64
  top : Option UInt64
  totalCount : Bool
deriving DecidableEq, Repr, Inhabited

/-- A command with its arguments. -/
inductive Command where
  | compileDimension (attributes measures : List String) (type : Option String)
    (query : QueryArguments)
  | compileTable (measures rows columns : List String) (query : QueryArguments)
  | dimension (attributes measures : List String) (type : Option String)
    (query : QueryArguments)
  | table (measures rows columns : List String) (query : QueryArguments)
  | chart (measures : List String) (xAxis : String) (groupBy : Option String)
    (query : QueryArguments)
deriving DecidableEq, Repr, Inhabited

/-- A command for a cube, and what is known about the server. -/
structure Invocation where
  cube : String
  url : Option String
  catalog : Option String
  username : Option String
  password : Option String
  timeoutMillis : UInt64
  command : Command
deriving DecidableEq, Repr, Inhabited

/-- The options in front of the command. -/
def serverOptions : List OptionSpec :=
  [⟨"url", .single⟩, ⟨"catalog", .single⟩, ⟨"cube", .single⟩, ⟨"username", .single⟩,
    ⟨"password", .single⟩, ⟨"timeout-ms", .single⟩]

/-- The options that every command takes. -/
def queryOptions : List OptionSpec :=
  [⟨"filter", .repeated⟩, ⟨"order-by", .repeated⟩, ⟨"skip", .single⟩, ⟨"top", .single⟩,
    ⟨"total-count", .switch⟩]

/-- A value that must be a counting numeral if it is given. -/
def countOption? (given : Given) (name : String) : Option (Option UInt64) :=
  match given.value? name with
  | none => some none
  | some value => (Decimal.count64? value.toList).map some

/-- The options that every command takes, as given. -/
def queryArguments? (given : Given) : Option QueryArguments := do
  let skip ← countOption? given "skip"
  let top ← countOption? given "top"
  some ⟨given.values "filter", given.values "order-by", skip, top, given.has "total-count"⟩

/-- The command with a name and the given arguments, if they are accepted. -/
def command? (name : String) (arguments : List String) : Option Command :=
  let read (specs : List OptionSpec) : Option Given :=
    readArguments? (specs ++ queryOptions) Given.empty arguments
  let measure : OptionSpec := ⟨"measure", .repeated⟩
  let dimension (make : List String → List String → Option String → QueryArguments → Command) :
      Option Command := do
    let given ← read [measure, ⟨"type", .single⟩]
    if given.positional.isEmpty then none
    some (make given.positional (given.values "measure") (given.value? "type")
      (← queryArguments? given))
  let table (make : List String → List String → List String → QueryArguments → Command) :
      Option Command := do
    let given ← read [measure, ⟨"row", .repeated⟩, ⟨"column", .repeated⟩]
    if !given.positional.isEmpty then none
    some (make (given.values "measure") (given.values "row") (given.values "column")
      (← queryArguments? given))
  match name with
  | "compile-dimension" => dimension .compileDimension
  | "compile-table" => table .compileTable
  | "dimension" => dimension .dimension
  | "table" => table .table
  | "chart" => do
    let given ← read [measure, ⟨"x-axis", .single⟩, ⟨"group-by", .single⟩]
    if !given.positional.isEmpty || !given.has "measure" then none
    some (.chart (given.values "measure") (← given.value? "x-axis") (given.value? "group-by")
      (← queryArguments? given))
  | _ => none

/-- The invocation that arguments and variables of the environment make, if it is accepted. -/
def Invocation.ofArguments? (environment : String → Option String) (arguments : List String) :
    Option Invocation := do
  let (given, name, rest) ← readCommand? serverOptions Given.empty arguments
  let timeout ← countOption? given "timeout-ms"
  let command ← command? name rest
  let value (option environmentName : String) : Option String :=
    (given.value? option).or (environment environmentName)
  some {
    cube := ← value "cube" "MDX_CUBE"
    url := value "url" "MDX_URL"
    catalog := value "catalog" "MDX_CATALOG"
    username := value "username" "MDX_USERNAME"
    password := value "password" "MDX_PASSWORD"
    timeoutMillis := timeout.getD 30000
    command := command
  }

end CubeQuery.CommandLine
