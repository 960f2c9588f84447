import StaticNet.Program.Phase

/-! # Generated programs

A program is a list of fragments, each of which belongs to a phase and an owner. In a well ordered
program no execution comes before a declaration or an allocation, and no deletion comes before an
execution.
-/

namespace StaticNet

/-- A rendered piece of the program, owned by a node or a buffer. -/
structure Fragment where
  phase : Phase
  owner : String
  text : String
deriving DecidableEq

/-- The generated program. -/
structure Program where
  fragments : List Fragment
  kernelCount : Nat
  biasCount : Nat
  runParameters : String
deriving DecidableEq

/-- A fragment that follows one of a later phase. -/
structure OrderError where
  index : Nat
  fragment : Fragment
deriving DecidableEq

/-- The wording of an order error. -/
def OrderError.message (cause : OrderError) : String :=
  "fragment " ++ toString cause.index ++ " (" ++ cause.fragment.phase.name ++ " of " ++
    cause.fragment.owner ++ ") follows a later phase"

namespace Program

/-- The text of the fragments of a phase, in order. -/
def text (program : Program) (phase : Phase) : String :=
  String.join ((program.fragments.filter fun fragment => fragment.phase = phase).map Fragment.text)

/-- Check that the ranks of fragments never decrease, from a given index and rank on. -/
def checkFrom : Nat → Int → List Fragment → Except OrderError Unit
  | _, _, [] => .ok ()
  | index, last, fragment :: rest =>
      if fragment.phase.rank < last then .error ⟨index, fragment⟩
      else checkFrom (index + 1) fragment.phase.rank rest

/-- Check the order of the fragments. -/
def validate (program : Program) : Except OrderError Unit := checkFrom 0 0 program.fragments

end Program

end StaticNet
