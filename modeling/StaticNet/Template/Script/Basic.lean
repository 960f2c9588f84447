import StaticNet.Template.Script.Literal

/-! # Scripts

A script is a template that its user wrote: pieces of text and actions. An action computes a value
by a pipeline of commands, each of which is a value or a function with its arguments; the value of a
command is the last argument of the next. Conditions, loops and scopes hold pieces of their own, and
a script may define parts that it calls by name.
-/

namespace StaticNet.Template.Script

/-- A term of an action at its place. The name of a variable starts with a dollar sign. A pipeline
may declare variables for its value, or assign it to those that are there. -/
inductive Term where
  | dot (place : Place)
  | nil (place : Place)
  | flag (place : Place) (value : Bool)
  | number (place : Place) (literal : NumberLiteral)
  | text (place : Place) (written value : String)
  | function (place : Place) (name : String)
  | field (place : Place) (names : List String)
  | variable (place : Place) (name : String) (fields : List String)
  | chain (place : Place) (base : Term) (fields : List String)
  | pipeline (place : Place) (declared : List String) (assigns : Bool)
      (commands : List (List Term))

/-- A piece of a script. -/
inductive Piece where
  | text (s : String)
  | action (place : Place) (pipeline : Term)
  | branch (test : Term) (yes no : List Piece)
  | scope (subject : Term) (inner otherwise : List Piece)
  | loop (place : Place) (items : Term) (body otherwise : List Piece)
  | call (place : Place) (name : String) (argument : Option Term)
  | stop
  | next

namespace Term

/-- The place of a term. -/
def place : Term → Place
  | .dot place | .nil place | .flag place _ | .number place _ | .text place _ _
  | .function place _ | .field place _ | .variable place _ _ | .chain place _ _
  | .pipeline place _ _ _ => place

/-- The variables that a pipeline declares or assigns, and whether it assigns them. -/
def declarations : Term → List String × Bool
  | .pipeline _ declared assigns _ => (declared, assigns)
  | _ => ([], false)

/-- Names that are read one from the other. -/
def fieldsWritten (names : List String) : String := String.join (names.map ("." ++ ·))

mutual

/-- A term as messages show it. As an argument, a pipeline stands in parentheses. -/
def written (isArgument : Bool) : Term → String
  | .dot _ => "."
  | .nil _ => "nil"
  | .flag _ value => if value then "true" else "false"
  | .number _ literal => literal.written
  | .text _ written _ => written
  | .function _ name => name
  | .field _ names => fieldsWritten names
  | .variable _ name fields => name ++ fieldsWritten fields
  | .chain _ base fields => written true base ++ fieldsWritten fields
  | .pipeline _ declared assigns commands =>
      let declaration := if declared.isEmpty then ""
        else ", ".intercalate declared ++ (if assigns then " = " else " := ")
      let text := declaration ++ " | ".intercalate (commandsWritten commands)
      if isArgument then "(" ++ text ++ ")" else text

/-- The terms of a command. -/
def termsWritten : List Term → List String
  | [] => []
  | term :: rest => written true term :: termsWritten rest

/-- The commands of a pipeline. -/
def commandsWritten : List (List Term) → List String
  | [] => []
  | terms :: rest => " ".intercalate (termsWritten terms) :: commandsWritten rest

end

end Term

end StaticNet.Template.Script

namespace StaticNet.Template

/-- A script: the pieces of its parts by name. The part that has the name of the script is run. -/
structure Script where
  parts : Dict (List Script.Piece)

end StaticNet.Template
