import StaticNet.Text.Space
import StaticNet.Text.Width

/-! # Text tables

A `Grid` has a header and rows of cells; a cell may have several lines. Every column is as wide as
its widest line. The header is centred; the body is either centred or laid out by content, where
numbers stand on the right and everything else on the left.
-/

namespace StaticNet.Text

/-- How the cells of the body are placed in their columns. -/
inductive Alignment where
  | byContent
  | centred
deriving DecidableEq

/-- A table of text. -/
structure Grid where
  header : List String
  rows : List (List String)
  alignment : Alignment

namespace Grid

/-- The given number of blanks. -/
def blanks (count : Nat) : String := String.ofList (List.replicate count ' ')

/-- The text in the middle of a column, an odd blank going to the right. -/
def centre (width : Nat) (s : String) : String :=
  let gap := width - displayWidth s
  blanks (gap / 2) ++ s ++ blanks (gap - gap / 2)

/-- The text at the left of a column. -/
def flushLeft (width : Nat) (s : String) : String := s ++ blanks (width - displayWidth s)

/-- The text at the right of a column. -/
def flushRight (width : Nat) (s : String) : String := blanks (width - displayWidth s) ++ s

/-- Whether the text is made of one or more digits. -/
def isDigits (cs : List Char) : Bool := !cs.isEmpty && cs.all Char.isDigit

/-- Split a list of characters at every occurrence of a separator. -/
def splitChars (separator : Char) : List Char → List (List Char)
  | [] => [[]]
  | c :: rest =>
      match splitChars separator rest with
      | [] => [[c]]
      | part :: parts => if c = separator then [] :: part :: parts else (c :: part) :: parts

/-- Whether the digits are grouped by commas: at most three first, then groups of three. -/
def isGrouped (cs : List Char) : Bool :=
  match splitChars ',' cs with
  | [] => false
  | first :: groups =>
      isDigits first && first.length ≤ 3 &&
        groups.all fun group => isDigits group && group.length = 3

/-- Whether the text reads as a decimal number, with an optional sign, grouping and fraction. -/
def isNumber (s : String) : Bool :=
  let trimmed := trimSpace (chars s)
  let unsigned := match trimmed with
    | '-' :: rest => rest
    | other => other
  match splitChars '.' unsigned with
  | [whole] => isDigits whole || isGrouped whole
  | [whole, fraction] => (isDigits whole || isGrouped whole) && isDigits fraction
  | _ => false

/-- The lines of a cell. -/
def lines (cell : String) : List String := (splitChars '\n' cell.toList).map String.ofList

/-- The width of a cell. -/
def cellWidth (cell : String) : Nat := ((lines cell).map displayWidth).foldl max 0

/-- The widths of the columns. -/
def widths (grid : Grid) : List Nat :=
  grid.rows.foldl
    (fun widths row => widths.zipWith max (row.map cellWidth))
    (grid.header.map cellWidth)

/-- A horizontal rule. -/
def rule (widths : List Nat) : String :=
  "+" ++ String.join (widths.map fun width =>
    String.ofList (List.replicate (width + 2) '-') ++ "+") ++ "\n"

/-- One printed line of cells that already fill their columns. -/
def line (cells : List String) : String :=
  "|" ++ String.join (cells.map fun cell => " " ++ cell ++ " |") ++ "\n"

/-- The printed lines of a row of cells. -/
def block (place : Nat → String → String) (widths : List Nat) (missing : String)
    (cells : List String) : String :=
  let split := cells.map lines
  let height := (split.map List.length).foldl max 0
  String.join ((List.range height).map fun index =>
    line (widths.zipWith (fun width cell => place width (cell.getD index missing)) split))

/-- Place a cell of the body. -/
def place (alignment : Alignment) (width : Nat) (cell : String) : String :=
  match alignment with
  | .centred => centre width cell
  | .byContent => if isNumber cell then flushRight width cell else flushLeft width cell

/-- The printed table. -/
def render (grid : Grid) : String :=
  let widths := grid.widths
  rule widths ++ block centre widths "" grid.header ++ rule widths ++
    String.join (grid.rows.map (block (place grid.alignment) widths "  ")) ++ rule widths

end Grid

end StaticNet.Text
