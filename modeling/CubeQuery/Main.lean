import CubeQuery.CommandLine.Run

set_option autoImplicit false

/-!
# The program

The command line `mdx`. It compiles queries; running them needs an exchange with a server, which
this build does not have, so the commands that run a query report that no connection can be made.
-/

namespace CubeQuery.CommandLine

/-- The variables of the environment that the program reads. -/
def environmentVariables : List String :=
  ["MDX_URL", "MDX_CATALOG", "MDX_CUBE", "MDX_USERNAME", "MDX_PASSWORD"]

/-- The exchange of a build without network. -/
def noExchange : Xmla.Exchange IO := fun request =>
  pure (.error (.connection ("HTTP request failed: no connection to " ++ request.url)))

end CubeQuery.CommandLine

open CubeQuery.CommandLine in
/-- Runs the program. -/
def main (arguments : List String) : IO UInt32 := do
  let values ← environmentVariables.mapM fun name => do
    return (name, ← IO.getEnv name)
  let environment (name : String) : Option String :=
    (values.find? fun entry => entry.1 == name).bind Prod.snd
  let outcome ← CubeQuery.CommandLine.run environment noExchange arguments
  IO.print outcome.stdout
  IO.eprint outcome.stderr
  return outcome.code
