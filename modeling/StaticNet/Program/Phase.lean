/-! # Phases of the generated program

Declarations go to the class definition, allocations to the constructor, executions to the run
function and deletions to the destructor.
-/

namespace StaticNet

/-- The part of the generated program that a fragment belongs to. A position outside the program
is kept as such. -/
inductive Phase where
  | declaration
  | allocation
  | execution
  | deletion
  | outside (position : Int)
deriving DecidableEq

namespace Phase

/-- The phase at a position of the program order. -/
def ofPosition (position : Int) : Phase :=
  if position = 0 then .declaration
  else if position = 1 then .allocation
  else if position = 2 then .execution
  else if position = 3 then .deletion
  else .outside position

/-- The rank of a phase in a well ordered program; declarations and allocations share one. -/
def rank : Phase → Int
  | .declaration => 1
  | .allocation => 1
  | .execution => 2
  | .deletion => 3
  | .outside position => position

/-- The name of a phase. -/
def name : Phase → String
  | .declaration => "declaration"
  | .allocation => "allocation"
  | .execution => "execution"
  | .deletion => "deletion"
  | .outside _ => "unknown"

end Phase

end StaticNet
