import StaticNet.Text.Quoted

/-! # Journal

Stages of the compiler report what they do as journal entries: a level, a message and named
fields. A journal is kept in order and filtered by level when it is shown.
-/

namespace StaticNet

/-- How severe an entry is, most severe first. -/
inductive Level where
  | panicking
  | fatal
  | error
  | warning
  | info
  | debug
  | trace
deriving DecidableEq

namespace Level

/-- All levels, most severe first. -/
def all : List Level := [.panicking, .fatal, .error, .warning, .info, .debug, .trace]

/-- The name of a level. -/
def name : Level → String
  | .panicking => "panic"
  | .fatal => "fatal"
  | .error => "error"
  | .warning => "warning"
  | .info => "info"
  | .debug => "debug"
  | .trace => "trace"

/-- The position of a level; more severe levels come first. -/
def rank : Level → Nat
  | .panicking => 0
  | .fatal => 1
  | .error => 2
  | .warning => 3
  | .info => 4
  | .debug => 5
  | .trace => 6

/-- A character in lower case, as far as level names can tell. The dotted capital is a letter of a
level name in lower case. -/
def lowered (c : Char) : Char := if c = '\u0130' then 'i' else c.toLower

/-- The level of a name in any letter case; `warn` is short for `warning`. -/
def ofName? (name : String) : Option Level :=
  let lower := String.ofList ((Text.chars name).map lowered)
  if lower = "warn" then some .warning else all.find? fun level => level.name = lower

end Level

/-- One reported event. -/
structure Entry where
  level : Level
  message : String
  fields : List (String × String)
deriving DecidableEq

namespace Entry

/-- The fields in name order. -/
def sortedFields (entry : Entry) : List (String × String) :=
  entry.fields.mergeSort fun a b => decide (a.1 ≤ b.1)

/-- Whether a text is written in a log line without quotes. -/
def isPlain (s : String) : Bool :=
  s.toList.all fun c => c.isAlphanum || "-._/@^+".toList.contains c

/-- A text in a log line. -/
def lineValue (s : String) : String := if isPlain s then s else Text.quote s

/-- The entry as a log line. -/
def line (entry : Entry) : String :=
  let fields := entry.sortedFields.map fun field => " " ++ field.1 ++ "=" ++ lineValue field.2
  "level=" ++ entry.level.name ++ " msg=" ++ lineValue entry.message ++ String.join fields ++ "\n"

end Entry

/-- Entries in the order in which they were reported. -/
abbrev Journal := List Entry

/-- The entries at a level or more severe. -/
def Journal.upTo (journal : Journal) (level : Level) : Journal :=
  journal.filter fun entry => entry.level.rank ≤ level.rank

/-- A computation that reports journal entries. -/
abbrev Logged := StateM Journal

/-- Report an entry. -/
def report (entry : Entry) : Logged Unit := modify (· ++ [entry])

end StaticNet
