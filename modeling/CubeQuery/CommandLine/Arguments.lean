import CubeQuery.Decimal.Numeral

set_option autoImplicit false

/-!
# Arguments

Reading a list of arguments against a list of accepted options. An option is written with two
dashes and takes its value from the next argument, or after an equals sign from the same one; a
switch takes no value. Where an option takes the next argument as its value, that argument may not
begin with a dash, a single dash excepted. Everything that is no option is a positional argument,
and so is everything after two dashes alone.
-/

namespace CubeQuery.CommandLine

/-- How often an option may be given, and whether it takes a value. -/
inductive OptionShape where
  | switch
  | single
  | repeated
deriving DecidableEq, Repr

/-- An accepted option. -/
structure OptionSpec where
  name : String
  shape : OptionShape
deriving DecidableEq, Repr

/-- Arguments as they were given: options with their values, and positional arguments. -/
structure Given where
  options : List (String × String)
  positional : List String
  /-- Whether two dashes alone were read. -/
  escaped : Bool
deriving DecidableEq, Repr, Inhabited

namespace Given

/-- No arguments. -/
def empty : Given :=
  ⟨[], [], false⟩

/-- All values of an option, in order. -/
def values (given : Given) (name : String) : List String :=
  (given.options.filter fun entry => entry.1 == name).map Prod.snd

/-- The value of an option that is given at most once. -/
def value? (given : Given) (name : String) : Option String :=
  (given.values name).head?

/-- Whether a switch is given. -/
def has (given : Given) (name : String) : Bool :=
  (given.value? name).isSome

/-- The arguments with one more option, unless it is given already and may not be repeated. -/
def addOption? (given : Given) (spec : OptionSpec) (value : String) : Option Given :=
  if spec.shape != .repeated && given.has spec.name then none
  else some { given with options := given.options ++ [(spec.name, value)] }

/-- The arguments with one more positional one. -/
def addPositional (given : Given) (argument : String) : Given :=
  { given with positional := given.positional ++ [argument] }

end Given

/-- Whether an argument can be the value of an option or a positional argument. -/
def isPlain (argument : String) : Bool :=
  match argument.toList with
  | '-' :: _ :: _ => false
  | _ => true

/-- The option that an argument with two dashes names, and the value attached to it. -/
def namedOption? (specs : List OptionSpec) (argument : String) :
    Option (OptionSpec × Option String) :=
  match argument.toList with
  | '-' :: '-' :: cs =>
    let name := String.ofList (cs.takeWhile (· != '='))
    let attached :=
      match cs.dropWhile (· != '=') with
      | [] => none
      | _ :: value => some (String.ofList value)
    (specs.find? fun spec => spec.name == name).map fun spec => (spec, attached)
  | _ => none

/--
Reads the option that an argument names, with its value from the argument itself or from the next
one; tells whether the next one was taken.
-/
def readOption? (specs : List OptionSpec) (given : Given) (argument : String)
    (next : Option String) : Option (Given × Bool) := do
  let (spec, attached) ← namedOption? specs argument
  match spec.shape, attached, next with
  | .switch, none, _ => (given.addOption? spec "").map fun given => (given, false)
  | .switch, some _, _ => none
  | _, some value, _ => (given.addOption? spec value).map fun given => (given, false)
  | _, none, some value =>
    if isPlain value then (given.addOption? spec value).map fun given => (given, true) else none
  | _, none, none => none

/-- Reads arguments, added to those given already; none if they are not accepted. -/
def readArguments? (specs : List OptionSpec) (given : Given) : List String → Option Given
  | [] => some given
  | argument :: rest =>
    if given.escaped || isPlain argument then
      readArguments? specs (given.addPositional argument) rest
    else if argument = "--" then readArguments? specs { given with escaped := true } rest
    else
      match readOption? specs given argument rest.head?, rest with
      | some (given, false), rest => readArguments? specs given rest
      | some (given, true), _ :: rest => readArguments? specs given rest
      | _, _ => none

/--
Reads arguments up to the first positional one, which names a command; returns the options before
it, the command, and the arguments after it.
-/
def readCommand? (specs : List OptionSpec) (given : Given) :
    List String → Option (Given × String × List String)
  | [] => none
  | argument :: rest =>
    if isPlain argument then some (given, argument, rest)
    else
      match readOption? specs given argument rest.head?, rest with
      | some (given, false), rest => readCommand? specs given rest
      | some (given, true), _ :: rest => readCommand? specs given rest
      | _, _ => none

end CubeQuery.CommandLine
