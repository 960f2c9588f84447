import StaticNet.Number.Decimal

/-! # Lists in text

Bracketed lists with blanks between the entries appear in messages and comments; lists separated
by commas appear in generated code.
-/

namespace StaticNet.Text

/-- The decimal text of a machine word. -/
def word (n : Int64) : String := toString n.toInt

/-- Entries in brackets, separated by blanks. -/
def bracketed (entries : List String) : String := "[" ++ " ".intercalate entries ++ "]"

/-- Machine words in brackets. -/
def words (ns : List Int64) : String := bracketed (ns.map word)

/-- Machine words separated by commas. -/
def commaSeparated (ns : List Int64) : String := ", ".intercalate (ns.map word)

/-- A single precision literal of the generated code. -/
def floatLiteral (x : Binary32) : String :=
  if x = Binary32.infinity then "INFINITY"
  else if x = Binary32.negInfinity then "-INFINITY"
  else
    let digits := x.text
    if digits.any fun c => c = '.' || c = 'e' then digits ++ "f" else digits ++ ".0f"

end StaticNet.Text
