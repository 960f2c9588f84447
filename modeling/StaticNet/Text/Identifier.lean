import StaticNet.Text.Utf8

/-! # Identifiers of the generated code

`identifier` maps a text to the characters that a name of the generated code may hold, and
`symbol` also makes it safe to start such a name.
-/

namespace StaticNet.Text

/-- Letters, digits and the underscore. -/
def isIdentifierChar (c : Char) : Bool :=
  ('a' ≤ c && c ≤ 'z') || ('A' ≤ c && c ≤ 'Z') || ('0' ≤ c && c ≤ '9') || c = '_'

/-- The text with every character outside letters, digits and underscore replaced by one. -/
def identifier (s : String) : String :=
  String.ofList ((chars s).map fun c => if isIdentifierChar c then c else '_')

/-- The identifier of a text, with an underscore in front when it is empty or starts with a
digit. -/
def symbol (s : String) : String :=
  let name := identifier s
  match name.toList with
  | [] => "_"
  | first :: _ => if '0' ≤ first && first ≤ '9' then "_" ++ name else name

end StaticNet.Text
