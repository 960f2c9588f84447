import Mathlib.Data.List.FinRange
import StaticNet.Program.Emission

/-! # Rendered programs

A batch that gives results gives those of all its jobs, in order. So the fragments of a program are
the texts of the drafts, in order, less the empty ones. The built-in renderer takes the texts from
its library, since no script stands in front of it.
-/

namespace StaticNet

/-! ## Batches -/

namespace Batch

variable {ε α : Type} {count : Nat} {job : Fin count → Except ε α}

theorem map_ok_of_untilFailure {left : Nat} (bound : left ≤ count) {done results : List α}
    (finished : untilFailure job left bound done = (results, none)) :
    results.map .ok = done.reverse.map .ok ++ ((List.finRange count).drop (count - left)).map job :=
    by
  induction left generalizing done with
  | zero =>
    cases finished
    rw [Nat.sub_zero, List.drop_of_length_le (List.length_finRange.le), List.map_nil,
      List.append_nil]
  | succ left ih =>
    have inside : count - (left + 1) < (List.finRange count).length := by
      rw [List.length_finRange]
      omega
    have further : count - (left + 1) + 1 = count - left := by omega
    rw [List.drop_eq_getElem_cons inside, List.getElem_finRange, further, List.map_cons]
    rw [untilFailure] at finished
    split at finished
    · next result ran =>
      rw [ih _ finished, List.reverse_cons, List.map_append, List.append_assoc]
      exact congrArg (fun outcome => done.reverse.map .ok ++ outcome :: _) ran.symm
    · cases finished

/-- The results of a batch are those of its jobs. -/
theorem map_ok_of_run {cancelled : Bool} {results : List α}
    (finished : run cancelled job = .ok results) :
    results.map .ok = (List.finRange count).map job := by
  rw [run] at finished
  split at finished
  · next same =>
    cases finished
    rw [runInOrder] at same
    split at same
    · cases same
    · obtain ⟨same, none⟩ := Prod.mk.inj same
      have ended := map_ok_of_untilFailure (Nat.le_refl count)
        (Prod.ext same (Option.map_eq_none_iff.mp none))
      rwa [List.reverse_nil, List.map_nil, List.nil_append, Nat.sub_self, List.drop_zero] at ended
  · cases finished

end Batch

/-! ## Fragments -/

/-- The text of a draft, or nothing when it cannot be rendered. -/
def Draft.text (renderer : Template.Renderer) (draft : Draft) : String :=
  (draft.call.render renderer).toOption.getD ""

/-- The fragment of a draft. -/
def Draft.fragment (renderer : Template.Renderer) (draft : Draft) : Fragment :=
  ⟨draft.phase, draft.owner, draft.text renderer⟩

namespace Emission

variable {renderer : Template.Renderer}

theorem renderDraft_spec {draft : Draft} {fragment : Fragment}
    (rendered : renderDraft renderer draft = .ok fragment) :
    fragment = draft.fragment renderer := by
  rw [renderDraft] at rendered
  split at rendered
  · next text done =>
    cases rendered
    rw [Draft.fragment, Draft.text, done]
    rfl
  · cases rendered

/-- Drafts that are rendered have a fragment each. -/
theorem forall₂_of_render {cancelled : Bool} {drafts : List Draft} {fragments : List Fragment}
    (rendered : render renderer cancelled drafts = .ok fragments) :
    ∃ results, List.Forall₂ (fun fragment draft => renderDraft renderer draft = .ok fragment)
        results drafts ∧
      fragments = results.filter fun fragment => fragment.text ≠ "" := by
  rw [render] at rendered
  split at rendered
  · next results finished =>
    cases rendered
    have jobs : results.map .ok = drafts.map (renderDraft renderer) := by
      rw [Batch.map_ok_of_run finished]
      exact List.ext_getElem (by simp) (by simp)
    rw [← List.forall₂_eq_eq_eq, List.forall₂_map_left_iff, List.forall₂_map_right_iff] at jobs
    exact ⟨results, jobs.imp fun _ _ same => same.symm, rfl⟩
  · cases rendered
  · cases rendered

/-- The fragments of rendered drafts are those that have a text. -/
theorem render_spec {cancelled : Bool} {drafts : List Draft} {fragments : List Fragment}
    (rendered : render renderer cancelled drafts = .ok fragments) :
    fragments = (drafts.map (Draft.fragment renderer)).filter fun fragment =>
      fragment.text ≠ "" := by
  obtain ⟨results, stepwise, rfl⟩ := forall₂_of_render rendered
  have views : results = drafts.map (Draft.fragment renderer) := by
    rw [← List.forall₂_eq_eq_eq, List.forall₂_map_right_iff]
    exact stepwise.imp fun _ _ => renderDraft_spec
  rw [views]

end Emission

/-! ## The built-in renderer -/

namespace Template

/-- A template that goes by its own path in the library is rendered by filling in its pieces. -/
theorem render_builtin {name : String} {pieces : List Piece}
    (path : Path.isProper (fileOf name) = true ∧ Path.clean name = name ∧ name ≠ "")
    (found : Library.find? name = some pieces) (parameters : Parameters) :
    Renderer.builtin.render name parameters =
      (fill pieces parameters).mapError (.failed name) := by
  obtain ⟨proper, clean, present⟩ := path
  have unshadowed : Renderer.builtin.script? name = none := by
    rw [Renderer.script?, if_pos proper]
    rfl
  have listed : Renderer.lookup name = .ok pieces := by
    rw [Renderer.lookup, proper, clean, found]
    rfl
  rw [Renderer.render, if_neg present, unshadowed]
  simp only [listed]
  rfl

end Template

end StaticNet
