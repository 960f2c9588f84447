import StaticNet.Proofs.Program.Lowering
import StaticNet.Proofs.Shape.Count
import StaticNet.Proofs.Storage.Placement

/-! # The room of planned buffers

Every buffer that the network owns gets a region of the plan. Its size is a machine product, and
validation refuses sizes that have become negative. A region has room for its buffer exactly when
the dimensions are not negative and the bytes fit a machine word: a product that has wrapped around
to a size that is not negative goes unnoticed, and so does an even number of negative dimensions.
-/

namespace StaticNet

/-! ## Sizes -/

/-- The size of a buffer of known shape is the product of its dimensions in bytes, as a machine
word. -/
def Buffer.Sized (buffer : Buffer) : Prop :=
  ∀ dims, buffer.shape = some dims → buffer.byteSize.toInt = (4 * dims.exactCount).bmod (2 ^ 64)

theorem BufferPool.sized_fresh (pool : BufferPool) (graph : Graph) (tensor : String) :
    (pool.fresh graph tensor).Sized := by
  intro dims known
  have size : (pool.fresh graph tensor).byteSize = dims.elementCount * elementSize := by
    change graph.knownShape? tensor = some dims at known
    dsimp only [fresh, Buffer.ofShape]
    rw [known]
  rw [size, dims.elementCount_eq, show elementSize = Int64.ofInt 4 from rfl, ← Int64.ofInt_mul,
    Int64.toInt_ofInt, Int.mul_comm]
  rfl

theorem BufferPool.Extends.sized {graph : Graph} {before after : BufferPool}
    (extended : before.Extends graph after) (sized : ∀ buffer ∈ before.buffers, buffer.Sized) :
    ∀ buffer ∈ after.buffers, buffer.Sized := by
  induction extended with
  | refl => exact sized
  | push _ _ ih =>
    intro buffer member
    rcases List.mem_append.mp member with earlier | last
    · exact ih buffer earlier
    · obtain rfl := List.mem_singleton.mp last
      exact sized_fresh _ graph _
  | named _ _ ih => exact ih

namespace Plan

end Plan

/-! ## Compilations -/

namespace Compiler

variable {compiler : Compiler} {spec : GraphSpec}

end Compiler

end StaticNet
