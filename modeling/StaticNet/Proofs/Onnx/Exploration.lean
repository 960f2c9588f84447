import Mathlib.Data.List.Perm.Subperm
import Mathlib.Logic.Relation
import StaticNet.Onnx.Order

/-! # Visiting nodes depth first

The visiting order is found by a search with a bound on its depth. Here the search is a relation
without a bound, and the bound is shown to be large enough. What a search adds to the finished
positions is what it adds to the visited ones. Where the relation between nodes and their suppliers
has no cycle, every position is finished after all its suppliers; where suppliers have smaller
positions, positions are finished in ascending order.
-/

namespace StaticNet.Onnx

/-- The positions of the producers of a node's inputs, in order of the inputs. -/
def suppliers (producers : Dict Nat) (nodes : List NodeRecord) (position : Nat) : List Nat :=
  (((nodes[position]?).map NodeRecord.inputs).getD []).filterMap producers.get?

namespace Visit

/-- Begin the visit of a position. -/
def enter (state : Visit) (position : Nat) : Visit :=
  { state with visited := position :: state.visited }

/-- End the visit of a position. -/
def leave (state : Visit) (position : Nat) : Visit :=
  { state with finished := position :: state.finished }

/-- Before anything is visited. -/
def start : Visit := ⟨[], []⟩

/-- The positions visited are distinct and below a bound. -/
structure Within (bound : Nat) (state : Visit) : Prop where
  nodup : state.visited.Nodup
  below : ∀ position ∈ state.visited, position < bound

theorem Within.length_le {bound : Nat} {state : Visit} (within : state.Within bound) :
    state.visited.length ≤ bound := by
  have inside : state.visited ⊆ List.range bound :=
    fun position member => List.mem_range.mpr (within.below position member)
  simpa using (within.nodup.subperm inside).length_le

theorem Within.enter {bound position : Nat} {state : Visit} (within : state.Within bound)
    (below : position < bound) (fresh : position ∉ state.visited) :
    (state.enter position).Within bound :=
  ⟨List.nodup_cons.mpr ⟨fresh, within.nodup⟩, List.forall_mem_cons.mpr ⟨below, within.below⟩⟩

end Visit

/-- A search through positions in turn, with no bound on its depth. The positions that a position
asks for are searched before it is finished. -/
inductive Explores (asks : Nat → List Nat) : Visit → List Nat → Visit → Prop where
  | done {state : Visit} : Explores asks state [] state
  | skip {state final : Visit} {position : Nat} {rest : List Nat}
      (seen : position ∈ state.visited) (others : Explores asks state rest final) :
      Explores asks state (position :: rest) final
  | visit {state inner final : Visit} {position : Nat} {rest : List Nat}
      (fresh : position ∉ state.visited)
      (below : Explores asks (state.enter position) (asks position) inner)
      (others : Explores asks (inner.leave position) rest final) :
      Explores asks state (position :: rest) final

/-- Every finished position, the last one first, comes after all that it asks for. -/
def Settled (asks : Nat → List Nat) : List Nat → Prop
  | [] => True
  | position :: earlier => asks position ⊆ earlier ∧ Settled asks earlier

/-- In order of finishing, what a position asks for is found before it. -/
theorem Settled.getElem?_reverse {asks : Nat → List Nat} {finished : List Nat}
    (settled : Settled asks finished) {index reader supplier : Nat}
    (found : finished.reverse[index]? = some reader) (asked : supplier ∈ asks reader) :
    ∃ before < index, finished.reverse[before]? = some supplier := by
  induction finished with
  | nil => simp at found
  | cons last earlier ih =>
    obtain ⟨own, others⟩ := settled
    rw [List.reverse_cons] at found ⊢
    rcases Nat.lt_or_ge index earlier.reverse.length with inside | outside
    · rw [List.getElem?_append_left inside] at found
      obtain ⟨before, less, same⟩ := ih others found
      exact ⟨before, less, (List.getElem?_append_left (Nat.lt_trans less inside)).trans same⟩
    · rw [List.getElem?_append_right outside] at found
      obtain rfl := List.mem_singleton.mp (List.mem_of_getElem? found)
      obtain ⟨before, same⟩ := List.mem_iff_getElem?.mp (List.mem_reverse.mpr (own asked))
      have inside := (List.getElem?_eq_some_iff.mp same).1
      exact ⟨before, by omega, (List.getElem?_append_left inside).trans same⟩

namespace Explores

variable {asks : Nat → List Nat} {state final : Visit} {positions : List Nat}

/-- A search has one outcome. -/
theorem unique {other : Visit} (run : Explores asks state positions final)
    (again : Explores asks state positions other) : final = other := by
  induction run generalizing other with
  | done =>
    cases again
    rfl
  | skip seen _ ih =>
    cases again with
    | skip _ others => exact ih others
    | visit fresh => exact absurd seen fresh
  | visit fresh _ _ first rest =>
    cases again with
    | skip seen => exact absurd seen fresh
    | visit _ below others =>
      obtain rfl := first below
      exact rest others

theorem append {middle : Visit} {others : List Nat} (first : Explores asks state positions middle)
    (second : Explores asks middle others final) :
    Explores asks state (positions ++ others) final := by
  induction first with
  | done => exact second
  | skip seen _ ih => exact .skip seen (ih second)
  | visit fresh below _ _ ih => exact .visit fresh below (ih second)

theorem of_append {others : List Nat} (run : Explores asks state (positions ++ others) final) :
    ∃ middle, Explores asks state positions middle ∧ Explores asks middle others final := by
  induction positions generalizing state with
  | nil => exact ⟨state, .done, run⟩
  | cons position rest ih =>
    cases run with
    | skip seen later =>
      obtain ⟨middle, first, second⟩ := ih later
      exact ⟨middle, .skip seen first, second⟩
    | visit fresh below later =>
      obtain ⟨middle, first, second⟩ := ih later
      exact ⟨middle, .visit fresh below first, second⟩

/-- Nothing happens where everything has been visited. -/
theorem of_visited (seen : ∀ position ∈ positions, position ∈ state.visited) :
    Explores asks state positions state := by
  induction positions with
  | nil => exact .done
  | cons position rest ih =>
    obtain ⟨first, others⟩ := List.forall_mem_cons.mp seen
    exact .skip first (ih others)

/-- A search finishes what it begins to visit. -/
theorem grows (run : Explores asks state positions final) :
    ∃ added, final.finished = added ++ state.finished ∧
      final.visited.Perm (added ++ state.visited) := by
  induction run with
  | done => exact ⟨[], rfl, .refl _⟩
  | skip _ _ ih => exact ih
  | @visit state inner final position rest _ _ _ first second =>
    obtain ⟨inside, finished, visited⟩ := first
    obtain ⟨after, finishedAfter, visitedAfter⟩ := second
    refine ⟨after ++ position :: inside, ?_, ?_⟩
    · rw [finishedAfter, Visit.leave, finished, List.append_assoc]
      rfl
    · refine visitedAfter.trans ?_
      rw [List.append_assoc]
      exact (visited.trans List.perm_middle).append_left after

theorem visited_subset (run : Explores asks state positions final) :
    state.visited ⊆ final.visited := by
  obtain ⟨added, -, visited⟩ := run.grows
  exact fun _ member => visited.mem_iff.mpr (List.mem_append_right _ member)

/-- A position that is visited and not finished was so before the search. -/
theorem open_of_open (run : Explores asks state positions final) {position : Nat}
    (visited : position ∈ final.visited) (unfinished : position ∉ final.finished) :
    position ∈ state.visited ∧ position ∉ state.finished := by
  obtain ⟨added, finished, grown⟩ := run.grows
  rw [finished, List.mem_append, not_or] at unfinished
  exact ⟨(List.mem_append.mp (grown.mem_iff.mp visited)).resolve_left unfinished.1, unfinished.2⟩

theorem covers (run : Explores asks state positions final) : positions ⊆ final.visited := by
  induction run with
  | done => exact List.nil_subset _
  | skip seen others ih => exact List.cons_subset.mpr ⟨others.visited_subset seen, ih⟩
  | visit _ below others _ ih =>
    exact List.cons_subset.mpr
      ⟨others.visited_subset (below.visited_subset List.mem_cons_self), ih⟩

theorem within {bound : Nat} (bounded : ∀ position, ∀ supplier ∈ asks position, supplier < bound)
    (run : Explores asks state positions final) (below : ∀ position ∈ positions, position < bound)
    (within : state.Within bound) : final.Within bound := by
  induction run with
  | done => exact within
  | skip _ _ ih => exact ih (List.forall_mem_cons.mp below).2 within
  | @visit state inner final position rest fresh _ _ first second =>
    obtain ⟨own, others⟩ := List.forall_mem_cons.mp below
    have inside := first (bounded position) (within.enter own fresh)
    exact second others ⟨inside.nodup, inside.below⟩

/-! ## The bound on the depth -/

private theorem of_foldl {bound fuel : Nat} {step : Visit → Nat → Visit}
    (bounded : ∀ position, ∀ supplier ∈ asks position, supplier < bound)
    (single : ∀ (state : Visit) (position : Nat), position < bound → state.Within bound →
      bound < fuel + state.visited.length → Explores asks state [position] (step state position))
    (positions : List Nat) (state : Visit) (below : ∀ position ∈ positions, position < bound)
    (within : state.Within bound) (enough : bound < fuel + state.visited.length) :
    Explores asks state positions (positions.foldl step state) := by
  induction positions generalizing state with
  | nil => exact .done
  | cons position rest ih =>
    obtain ⟨own, others⟩ := List.forall_mem_cons.mp below
    have first := single state position own within enough
    have kept := first.within bounded (List.forall_mem_singleton.mpr own) within
    have longer : state.visited.length ≤ (step state position).visited.length :=
      (within.nodup.subperm first.visited_subset).length_le
    exact first.append (ih _ others kept (by omega))

/-- With a bound on the depth that is larger than the number of positions not yet visited, a visit
is a search that has ended. -/
theorem of_visitNode {producers : Dict Nat} {nodes : List NodeRecord} {bound : Nat}
    (bounded : ∀ position, ∀ supplier ∈ suppliers producers nodes position, supplier < bound)
    (fuel : Nat) (state : Visit) (position : Nat) (below : position < bound)
    (within : state.Within bound) (enough : bound < fuel + state.visited.length) :
    Explores (suppliers producers nodes) state [position]
      (visitNode producers nodes fuel state position) := by
  induction fuel generalizing state position with
  | zero =>
    have full := within.length_le
    omega
  | succ fuel ih =>
    rw [visitNode]
    split
    · next seen => exact .skip (List.contains_iff_mem.mp seen) .done
    · next fresh =>
      have absent : position ∉ state.visited :=
        fun member => fresh (List.contains_iff_mem.mpr member)
      have entered := within.enter below absent
      have further : bound < fuel + (state.enter position).visited.length := by
        rw [Visit.enter, List.length_cons]
        omega
      exact .visit absent
        (of_foldl bounded ih _ (state.enter position) (bounded position) entered further) .done

/-- The same for visits one after the other. -/
theorem of_visitNodes {producers : Dict Nat} {nodes : List NodeRecord} {bound fuel : Nat}
    (bounded : ∀ position, ∀ supplier ∈ suppliers producers nodes position, supplier < bound)
    (below : ∀ position ∈ positions, position < bound) (within : state.Within bound)
    (enough : bound < fuel + state.visited.length) :
    Explores (suppliers producers nodes) state positions
      (positions.foldl (visitNode producers nodes fuel) state) :=
  of_foldl bounded (of_visitNode bounded fuel) positions state below within enough

/-! ## The order of finishing -/

/-- A search settles what it finishes if nothing asks for itself, directly or not. The positions
whose visit has begun and not ended lead to those that are searched, so none of them is asked
for. -/
theorem settled (acyclic : ∀ position,
      ¬ Relation.TransGen (fun reader supplier => supplier ∈ asks reader) position position)
    (run : Explores asks state positions final) (settled : Settled asks state.finished)
    (leads : ∀ begun ∈ state.visited, begun ∉ state.finished → ∀ position ∈ positions,
      Relation.TransGen (fun reader supplier => supplier ∈ asks reader) begun position) :
    Settled asks final.finished := by
  induction run with
  | done => exact settled
  | skip _ _ ih =>
    exact ih settled fun begun visited unfinished position member =>
      leads begun visited unfinished position (List.mem_cons_of_mem _ member)
  | @visit state inner final position rest fresh below others first second =>
    have entered : ∀ begun ∈ (state.enter position).visited, begun ∉ state.finished →
        ∀ supplier ∈ asks position,
          Relation.TransGen (fun reader supplier => supplier ∈ asks reader) begun supplier := by
      intro begun visited unfinished supplier asked
      rcases List.mem_cons.mp visited with rfl | earlier
      · exact .single asked
      · exact (leads begun earlier unfinished position List.mem_cons_self).tail asked
    have inside : asks position ⊆ inner.finished := by
      intro supplier asked
      by_contra unfinished
      obtain ⟨begun, open'⟩ := below.open_of_open (below.covers asked) unfinished
      exact acyclic supplier (entered supplier begun open' supplier asked)
    refine second ⟨inside, first settled entered⟩ fun begun visited unfinished other member => ?_
    rw [Visit.leave, List.mem_cons, not_or] at unfinished
    obtain ⟨earlier, open'⟩ := below.open_of_open visited unfinished.2
    exact leads begun ((List.mem_cons.mp earlier).resolve_left unfinished.1) open' other
      (List.mem_cons_of_mem _ member)

/-- Positions are finished in ascending order if they only ask for smaller ones. -/
theorem ascending {count : Nat}
    (smaller : ∀ position < count, ∀ supplier ∈ asks position, supplier < position) :
    Explores asks .start (List.range count)
      ⟨(List.range count).reverse, (List.range count).reverse⟩ := by
  induction count with
  | zero => exact .done
  | succ count ih =>
    have earlier := ih fun position less => smaller position (Nat.lt_succ_of_lt less)
    rw [List.range_succ, List.reverse_append]
    refine earlier.append (.visit (by simp) (of_visited fun supplier asked => ?_) .done)
    have less := smaller count (Nat.lt_succ_self count) supplier asked
    simp [Visit.enter, less]

/-- What a position asks for, and what has not been visited before, is finished before it. -/
theorem finished_of_fresh {position supplier : Nat}
    (run : Explores asks state (position :: positions) final) (fresh : position ∉ state.visited)
    (asked : supplier ∈ asks position) (unseen : supplier ∉ position :: state.visited) :
    ∃ later earlier, final.finished = later ++ position :: earlier ∧ supplier ∈ earlier := by
  cases run with
  | skip seen => exact absurd seen fresh
  | @visit _ inner _ _ _ _ below others =>
    obtain ⟨later, finished, -⟩ := others.grows
    refine ⟨later, inner.finished, finished, ?_⟩
    by_contra unfinished
    exact unseen (below.open_of_open (below.covers asked) unfinished).1

/-! ## One position asked for more or less -/

/-- A position that has been visited may be left out of a search. -/
theorem filter_iff {extra : Nat} (seen : extra ∈ state.visited) :
    Explores asks state (positions.filter (· ≠ extra)) final ↔
      Explores asks state positions final := by
  induction positions generalizing state with
  | nil => exact .rfl
  | cons position rest ih =>
    by_cases same : position = extra
    · subst same
      rw [List.filter_cons_of_neg (by simp), ih seen]
      constructor
      · exact .skip seen
      · intro run
        cases run with
        | skip _ others => exact others
        | visit fresh => exact absurd seen fresh
    · rw [List.filter_cons_of_pos (by simpa using same)]
      constructor
      · intro run
        cases run with
        | skip known others => exact .skip known ((ih seen).mp others)
        | visit fresh below others =>
          refine .visit fresh below ((ih ?_).mp others)
          exact below.visited_subset (List.mem_cons_of_mem _ seen)
      · intro run
        cases run with
        | skip known others => exact .skip known ((ih seen).mpr others)
        | visit fresh below others =>
          refine .visit fresh below ((ih ?_).mpr others)
          exact below.visited_subset (List.mem_cons_of_mem _ seen)

/-- A search stays the same when positions ask for one position more or less, if that position has
been visited, or is visited first, wherever the difference is met. -/
theorem transfer {other : Nat → List Nat} {extra : Nat}
    (alike : ∀ position,
      (asks position).filter (· ≠ extra) = (other position).filter (· ≠ extra))
    (run : Explores asks state positions final)
    (ready : ∀ position ∈ positions, extra ∈ state.visited ∨ position = extra ∨
      ∀ reached, Relation.ReflTransGen (fun reader supplier => supplier ∈ asks reader)
        position reached → asks reached = other reached) :
    Explores other state positions final := by
  induction run with
  | done => exact .done
  | skip seen _ ih => exact .skip seen (ih (List.forall_mem_cons.mp ready).2)
  | @visit state inner final position rest fresh below others first second =>
    obtain ⟨own, later⟩ := List.forall_mem_cons.mp ready
    refine .visit fresh ?_ (second fun position member => ?_)
    · -- either the difference does not count any more, or there is none
      have known : extra ∈ (state.enter position).visited →
          Explores other (state.enter position) (other position) inner := by
        intro seen
        rw [← filter_iff seen, ← alike, filter_iff seen]
        exact first fun _ _ => .inl seen
      rcases own with seen | rfl | equal
      · exact known (List.mem_cons_of_mem _ seen)
      · exact known List.mem_cons_self
      · rw [← equal position .refl]
        exact first fun supplier asked =>
          .inr (.inr fun reached path => equal reached (path.head asked))
    · refine (later position member).imp_left fun seen => ?_
      exact below.visited_subset (List.mem_cons_of_mem _ seen)

end Explores

end StaticNet.Onnx
