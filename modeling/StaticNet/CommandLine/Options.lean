import StaticNet.Text.Quoted

/-! # Command line options

An option starts with one or two dashes. Its value follows an equals sign or is the next argument;
a switch needs none. Options end at the first other argument or behind a lone pair of dashes.
-/

namespace StaticNet.CommandLine

/-- The options of the command. -/
structure Options where
  input : String := ""
  config : String := ""
  out : String := ""
  name : String := ""
  version : Bool := false
deriving DecidableEq

/-- Why arguments are not options. -/
inductive OptionError where
  | help
  | badSyntax (argument : String)
  | undefined (name : String)
  | needsValue (name : String)
  | badSwitch (name value : String)
deriving DecidableEq

/-- The wording of an option error; asking for help is none. -/
def OptionError.message : OptionError → Option String
  | .help => none
  | .badSyntax argument => some ("bad flag syntax: " ++ argument)
  | .undefined name => some ("flag provided but not defined: -" ++ name)
  | .needsValue name => some ("flag needs an argument: -" ++ name)
  | .badSwitch name value =>
      some ("invalid boolean value " ++ Text.quote value ++ " for -" ++ name ++ ": parse error")

/-- How the command is used. -/
def usage : String :=
  "Usage of picogen:\n" ++
    "  -config string\n    \tYAML configuration file\n" ++
    "  -input string\n    \tPath to the model.onnx input file\n" ++
    "  -name string\n    \tModel name (default: input file name)\n" ++
    "  -out string\n    \tOutput root directory (overrides output_dir)\n" ++
    "  -version\n    \tShow version\n"

/-- The truth value of a text. -/
def switchValue? (s : String) : Option Bool :=
  if ["1", "t", "T", "TRUE", "true", "True"].contains s then some true
  else if ["0", "f", "F", "FALSE", "false", "False"].contains s then some false
  else none

/-- How an argument reads. -/
inductive Argument where
  | plain
  | terminator
  | malformed
  | option (name : String) (value : Option String)
deriving DecidableEq

/-- The name of an option, and its value behind an equals sign. -/
def splitValue (cs : List Char) : Argument :=
  let name := cs.takeWhile (· ≠ '=')
  match cs.drop name.length with
  | [] => .option (String.ofList name) none
  | _ :: value => .option (String.ofList name) (some (String.ofList value))

/-- Read an argument. -/
def readArgument (argument : String) : Argument :=
  match argument.toList with
  | ['-', '-'] => .terminator
  | '-' :: first :: rest =>
      let name := if first = '-' then rest else first :: rest
      match name with
      | [] => .malformed
      | c :: _ => if c = '-' ∨ c = '=' then .malformed else splitValue name
  | _ => .plain

namespace Options

/-- Set an option that takes a value. -/
def set? (options : Options) (name : String) (value : String) : Option Options :=
  match name with
  | "input" => some { options with input := value }
  | "config" => some { options with config := value }
  | "out" => some { options with out := value }
  | "name" => some { options with name := value }
  | _ => none

/-- Read options on top of those read before. -/
def parseFrom (options : Options) : List String → Except OptionError Options
  | [] => .ok options
  | argument :: rest =>
      match readArgument argument with
      | .plain => .ok options
      | .terminator => .ok options
      | .malformed => .error (.badSyntax argument)
      | .option "version" value =>
          match switchValue? (value.getD "true") with
          | some version => parseFrom { options with version } rest
          | none => .error (.badSwitch "version" (value.getD ""))
      | .option name value =>
          if (options.set? name "").isNone then
            if name = "help" ∨ name = "h" then .error .help else .error (.undefined name)
          else
            match value, rest with
            | some value, rest => parseFrom ((options.set? name value).getD options) rest
            | none, value :: rest => parseFrom ((options.set? name value).getD options) rest
            | none, [] => .error (.needsValue name)

/-- Read options. -/
def parse (arguments : List String) : Except OptionError Options := parseFrom {} arguments

end Options

end StaticNet.CommandLine
