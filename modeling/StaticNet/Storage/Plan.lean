import StaticNet.Storage.Buffer

/-! # Memory plans

A plan gives every buffer that the network owns a region of one arena, back to back and aligned.
A plan is valid when no region is negative or leaves the arena and no two regions overlap. Offsets
and sizes are machine words.
-/

namespace StaticNet

/-- A part of the arena. -/
structure Region where
  name : String
  offset : Int64
  size : Int64
deriving DecidableEq

/-- The first byte after a region. -/
def Region.stop (region : Region) : Int64 := region.offset + region.size

/-- A layout of the arena. -/
structure Plan where
  regions : List Region
  total : Int64
deriving DecidableEq

/-- Why there is no valid plan. -/
inductive PlanError where
  | badAlignment (alignment : Int64)
  | negativeRegion (region : Region)
  | outOfBounds (region : Region) (total : Int64)
  | overlap (region next : Region)
deriving DecidableEq

/-- The wording of a plan error. -/
def PlanError.message : PlanError → String
  | .badAlignment alignment => "alignment must be a power of two: " ++ Text.word alignment
  | .negativeRegion region =>
      "negative offset or size: " ++ region.name ++ ": offset=" ++ Text.word region.offset ++
        ", size=" ++ Text.word region.size
  | .outOfBounds region total =>
      "buffer region exceeds the plan: " ++ region.name ++ ": offset " ++ Text.word region.offset ++
        " + size " ++ Text.word region.size ++ " > total " ++ Text.word total
  | .overlap region next =>
      let others := if next.name = "" then "" else " and " ++ next.name
      "buffer regions overlap: " ++ region.name ++ others ++ ": [" ++
        Text.word region.offset ++ "-" ++ Text.word region.stop ++ "] and [" ++
        Text.word next.offset ++ "-" ++ Text.word next.stop ++ "]"

namespace Plan

/-- The region of a name. -/
def find? (plan : Plan) (name : String) : Option Region :=
  plan.regions.find? fun region => region.name = name

/-- Check regions in order of their offsets. -/
def checkOrdered (total : Int64) : List Region → Except PlanError Unit
  | [] => .ok ()
  | region :: rest =>
      if region.offset < 0 ∨ region.size < 0 then .error (.negativeRegion region)
      else if total < region.stop then .error (.outOfBounds region total)
      else
        match rest with
        | [] => .ok ()
        | next :: _ =>
            if next.offset < region.stop then .error (.overlap region next)
            else checkOrdered total rest

/-- The regions in order of their offsets. -/
def ordered (plan : Plan) : List Region :=
  plan.regions.mergeSort fun a b => decide (a.offset ≤ b.offset)

/-- Check that every region lies inside the arena and that no two overlap. -/
def validate (plan : Plan) : Except PlanError Unit := checkOrdered plan.total plan.ordered

/-- Whether a machine word is a power of two. Zero counts as one. -/
def isPowerOfTwo (n : Int64) : Bool := 0 ≤ n && n &&& (n - 1) = 0

/-- The alignment in effect; zero stands for the element size. -/
def alignmentOr (alignment : Int64) : Int64 := if alignment = 0 then elementSize else alignment

/-- The first aligned offset that is not before the given one. -/
def alignUp (alignment offset : Int64) : Int64 :=
  (offset + alignment - 1) &&& ~~~(alignment - 1)

/-- Lay buffers out from an offset on. -/
def layOut (alignment : Int64) : Int64 → List Buffer → Plan
  | offset, [] => ⟨[], offset⟩
  | offset, buffer :: rest =>
      let start := alignUp alignment offset
      let plan := layOut alignment (start + buffer.byteSize) rest
      { plan with regions := ⟨buffer.name, start, buffer.byteSize⟩ :: plan.regions }

/-- The plan of the buffers that the network owns. -/
def ofBuffers (alignment : Int64) (buffers : List Buffer) : Except PlanError Plan := do
  let alignment := alignmentOr alignment
  if !isPowerOfTwo alignment then throw (.badAlignment alignment)
  let plan := layOut alignment 0 (buffers.filter Buffer.isOwned)
  plan.validate
  return plan

end Plan

end StaticNet
