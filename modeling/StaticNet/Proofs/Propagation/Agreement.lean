import StaticNet.Propagation.Knowledge

/-! # Agreement

Numbers agree when they are equal, both zero, or both no number; tensors and knowledge agree when
what they consist of does. Agreement is reflexive, for not-a-number too, and symmetric.
-/

namespace StaticNet

namespace Binary64

theorem agrees_refl (x : Binary64) : x.agrees x = true := by
  rw [agrees]
  rcases x.datum with _ | _ | ⟨_, _ | _, _⟩
  · rfl
  · exact decide_eq_true rfl
  · rfl
  · exact decide_eq_true rfl

theorem agrees_comm (x y : Binary64) : x.agrees y = y.agrees x := by
  have bits : decide (x.bits = y.bits) = decide (y.bits = x.bits) :=
    decide_eq_decide.mpr eq_comm
  rw [agrees, agrees]
  -- A finite number is a zero or not, whatever its scale is.
  rcases x.datum with _ | _ | ⟨_, _ | _, _⟩ <;> rcases y.datum with _ | _ | ⟨_, _ | _, _⟩ <;>
    first | rfl | exact bits

end Binary64

namespace Tensor

theorem agrees_refl (tensor : Tensor) : tensor.agrees tensor = true := by
  have numbers : ∀ data : List Binary64,
      (data.zip data).all (fun pair => pair.1.agrees pair.2) = true := by
    intro data
    induction data with
    | nil => rfl
    | cons first rest ih => simp [Binary64.agrees_refl, ih]
  simp [agrees, numbers]

theorem agrees_comm (left right : Tensor) : left.agrees right = right.agrees left := by
  have numbers : ∀ xs ys : List Binary64, ((xs.zip ys).all fun pair => pair.1.agrees pair.2) =
      (ys.zip xs).all fun pair => pair.1.agrees pair.2 := by
    intro xs
    induction xs with
    | nil => simp
    | cons x rest ih =>
      intro ys
      cases ys with
      | nil => rfl
      | cons y others => simp [Binary64.agrees_comm x y, ih]
  rw [agrees, agrees, numbers]
  congr 1
  simp only [eq_comm]

theorem agreesOption_refl (tensor : Option Tensor) : agreesOption tensor tensor = true := by
  cases tensor with
  | none => rfl
  | some tensor => exact tensor.agrees_refl

theorem agreesOption_comm (left right : Option Tensor) :
    agreesOption left right = agreesOption right left := by
  cases left <;> cases right
  · rfl
  · rfl
  · rfl
  · exact agrees_comm ..

end Tensor

namespace Knowledge

theorem agrees_refl (knowledge : Knowledge) : knowledge.agrees knowledge = true := by
  rw [agrees, Tensor.agreesOption_refl, decide_eq_true rfl, Bool.and_self]

theorem agrees_comm (left right : Knowledge) : left.agrees right = right.agrees left := by
  rw [agrees, agrees, Tensor.agreesOption_comm, decide_eq_decide.mpr eq_comm]

/-- What says nothing agrees with knowing nothing. -/
theorem agrees_unknown {knowledge : Knowledge} (nothing : knowledge.isKnown = false) :
    knowledge.agrees .unknown = true := by
  cases knowledge with
  | unknown => rfl
  | unstated => cases nothing
  | shape dims => cases nothing
  | exact value => cases nothing

/-- Only knowing nothing agrees with knowing nothing. -/
theorem eq_unknown_of_agrees {knowledge : Knowledge} (agrees : knowledge.agrees .unknown = true) :
    knowledge = .unknown := by
  cases knowledge with
  | unknown => rfl
  | unstated => cases agrees
  | shape dims => cases agrees
  | exact value => cases agrees

end Knowledge

end StaticNet
