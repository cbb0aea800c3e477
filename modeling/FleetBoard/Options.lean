import FleetBoard.Path

/-!
# Options

What can be said on the command line: a file of settings, and a tool to use
instead of the one that is set. An option is followed by its value, or, if it is
a long one, by an equals sign and its value.

## Main definitions

* `Options`: What was said on the command line.
* `OptionsError`: What cannot be said there.
* `Options.parse`: The options in the arguments.
-/

namespace FleetBoard

/-- What was said on the command line. -/
structure Options where
  /-- A file of settings. -/
  config : Option Path := none
  /-- The orchestration tool. -/
  tool : Option String := none
  deriving DecidableEq, Repr

/-- What cannot be said on the command line. -/
inductive OptionsError
  | unknown (argument : String)
  | missingValue (option : String)
  | repeated (option : String)
  deriving DecidableEq, Repr

/-- What the user is told of an error. -/
def OptionsError.message : OptionsError → String
  | .unknown argument => "unexpected argument \x27" ++ argument ++ "\x27 found"
  | .missingValue option => "a value is required for \x27" ++ option ++ "\x27 but none was supplied"
  | .repeated option => "the argument \x27" ++ option ++ "\x27 cannot be used multiple times"

namespace Options

/-- The options with one more value. An option may be given once. -/
def put (o : Options) (option value : String) : Except OptionsError Options :=
  if option = "--config" ∨ option = "-c" then
    if o.config.isSome then .error (.repeated "--config") else .ok { o with config := some ⟨value⟩ }
  else if option = "--tool" ∨ option = "-t" then
    if o.tool.isSome then .error (.repeated "--tool") else .ok { o with tool := some value }
  else .error (.unknown option)

/-- Whether an argument is an option that its value follows. -/
def takesValue (argument : String) : Bool :=
  ["--config", "-c", "--tool", "-t"].contains argument

/-- The options with the one that an argument holds together with its value. -/
def attached (o : Options) (argument : String) : Except OptionsError Options :=
  let cs := argument.toList
  let option := String.ofList (cs.takeWhile fun c => c ≠ '=')
  match cs.dropWhile fun c => c ≠ '=' with
  | [] => .error (.unknown argument)
  | _ :: value => o.put option (String.ofList value)

/-- The options in some arguments, after others were read. -/
def parseFrom (o : Options) : List String → Except OptionsError Options
  | [] => .ok o
  | [argument] =>
    if takesValue argument then .error (.missingValue argument) else attached o argument
  | argument :: value :: rest =>
    if takesValue argument then
      match o.put argument value with
      | .ok o => parseFrom o rest
      | .error e => .error e
    else
      match attached o argument with
      | .ok o => parseFrom o (value :: rest)
      | .error e => .error e

/-- The options in the arguments. -/
def parse (arguments : List String) : Except OptionsError Options :=
  parseFrom {} arguments

end Options

end FleetBoard
