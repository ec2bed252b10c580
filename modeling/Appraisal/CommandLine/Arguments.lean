/-
The arguments of the command line.

There are four commands, and the first of them, to serve, is meant when none is named. Each command has
options of its own: flags, which stand alone, and options with a value, which is the next argument or stands
behind an equals sign. Arguments are read from the left and the first one that cannot stand decides. So a
request for help counts only if everything in front of it was in order.

An option is given at most once. A value that is the next argument may not start with a hyphen, except for
the hyphen alone. Behind a double hyphen there are no options any more, and no command takes anything else.
-/
import Appraisal.Text.Number
import Appraisal.Timestamp

set_option autoImplicit false

namespace Appraisal.CommandLine

/-! ## Commands -/

/-- What the program is told to do. -/
inductive Command where
  | serve (host : Option String) (port : Option Nat)
  | evaluate (path : String) (timestamp : Option String) (asJson : Bool)
  | rules (asJson : Bool)
  | demo (timestamp : Option String) (withTrace : Bool)
  | help (topic : Option String)
  | version
  deriving DecidableEq

/-- The names of the commands, in the order in which they are listed. -/
def commandNames : List String :=
  ["serve", "evaluate", "rules", "demo"]

/-! ## Options -/

/-- An option of a command. -/
structure OptionSpec where
  name : String
  takesValue : Bool
  deriving DecidableEq

/-- The options of a command. -/
def optionsOf : String → List OptionSpec
  | "serve" => [⟨"host", true⟩, ⟨"port", true⟩]
  | "evaluate" => [⟨"input", true⟩, ⟨"timestamp", true⟩, ⟨"json", false⟩]
  | "rules" => [⟨"json", false⟩]
  | "demo" => [⟨"timestamp", true⟩, ⟨"trace", false⟩]
  | _ => []

/-- A port. -/
def portOf? (text : String) : Option Nat :=
  (Text.integer? text).bind fun n => if 0 ≤ n ∧ n < UInt16.size then some n.toNat else none

/-- The value of an option as it is kept, if it is one: a port is a number of sixteen bits, a path is not
empty, and a timestamp is kept without the blanks around it. -/
def acceptValue? (name value : String) : Option String :=
  match name with
  | "port" => (portOf? value).map toString
  | "input" => if value.isEmpty then none else some value
  | "timestamp" => (Timestamp.parse value).toOption
  | _ => some value

/-- An argument split at its first equals sign. -/
def splitAtEquals (argument : List Char) : List Char × Option (List Char) :=
  let name := argument.takeWhile (· ≠ '=')
  (name, if name.length < argument.length then some (argument.drop (name.length + 1)) else none)

/-- What was given so far: options by name with their values, a flag with an empty one. -/
abbrev Given := List (String × String)

/-- Where reading the options of a command ends. -/
inductive Reading where
  | options (given : Given)
  | help
  | wrong

/-- Adds an option, unless it was given before or its value is none. -/
def add? (given : Given) (name value : String) : Option Given := do
  if given.any (·.1 = name) then none
  let value ← acceptValue? name value
  return given ++ [(name, value)]

/-- May this argument be the value of the option in front of it? -/
def isValue (argument : String) : Bool :=
  match argument.toList with
  | '-' :: _ :: _ => false
  | _ => true

/-- Reads the options of a command. -/
def readOptions (specs : List OptionSpec) (given : Given) : List String → Reading
  | [] => .options given
  | argument :: rest =>
    match argument.toList with
    | ['-', '-'] => if rest.isEmpty then .options given else .wrong
    | '-' :: '-' :: chars =>
      let (name, attached) := splitAtEquals chars
      let name := String.ofList name
      if name = "help" && attached.isNone then .help
      else
        match specs.find? (·.name = name), attached with
        | some ⟨_, true⟩, some value =>
          match add? given name (String.ofList value) with
          | some given => readOptions specs given rest
          | none => .wrong
        | some ⟨_, true⟩, none =>
          match rest with
          | [] => .wrong
          | value :: rest =>
            if !isValue value then .wrong
            else
              match add? given name value with
              | some given => readOptions specs given rest
              | none => .wrong
        | some ⟨_, false⟩, none =>
          match add? given name "" with
          | some given => readOptions specs given rest
          | none => .wrong
        | _, _ => .wrong
    | '-' :: 'h' :: _ => .help
    | _ => .wrong

/-! ## The command line -/

/-- The command with the given options. -/
def Command.of? (name : String) (given : Given) : Option Command :=
  let value? (option : String) : Option String := given.lookup option
  let isGiven (option : String) : Bool := (value? option).isSome
  match name with
  | "serve" => some (.serve (value? "host") ((value? "port").bind Text.natural?))
  | "evaluate" => (value? "input").map (.evaluate · (value? "timestamp") (isGiven "json"))
  | "rules" => some (.rules (isGiven "json"))
  | "demo" => some (.demo (value? "timestamp") (isGiven "trace"))
  | _ => none

/-- A command with its options. -/
def readCommand (name : String) (arguments : List String) : Option Command :=
  match readOptions (optionsOf name) [] arguments with
  | .options given => Command.of? name given
  | .help => some (.help (some name))
  | .wrong => none

/-- A request for help, on a command or on all of them. -/
def readHelp : List String → Option Command
  | [] => some (.help none)
  | [topic] =>
    if topic = "help" then some (.help none)
    else if topic ∈ commandNames then some (.help (some topic))
    else none
  | _ => none

/-- The command that the arguments ask for, if they make sense. -/
def read : List String → Option Command
  | [] => some (.serve none none)
  | ["--"] => some (.serve none none)
  | argument :: rest =>
    match argument.toList with
    | '-' :: 'h' :: _ => some (.help none)
    | '-' :: 'V' :: _ => some .version
    | _ =>
      if argument = "--help" then some (.help none)
      else if argument = "--version" then some .version
      else if argument = "help" then readHelp rest
      else if argument ∈ commandNames then readCommand argument rest
      else none

end Appraisal.CommandLine
