import StaticNet.Proofs.Bytes
import StaticNet.Proofs.Onnx.Acceptance
import StaticNet.Proofs.Onnx.Serialization

/-! # Parts of a record

Each number of a message sets one part of the record, so that the part depends on the payloads under
the number only, whatever stands between them. What the payloads spell is then what the part holds.
-/

namespace StaticNet.Onnx

open Wire

section Parts

variable {σ α β γ : Type} {handle : σ → Field → Read σ} {number : Nat} {view : σ → β}
  {fields : List Field} {start result : σ}

/-! ## Runs over payloads -/

/-- Steps through payloads, one after the other. -/
def Run (step : β → Payload → β → Prop) : β → List Payload → β → Prop
  | old, [], last => last = old
  | old, payload :: rest, last => ∃ next, step old payload next ∧ Run step next rest last

/-- Fields with other numbers leave a part alone. -/
def Frames (handle : σ → Field → Read σ) (number : Nat) (view : σ → β) : Prop :=
  ∀ state field next, handle state field = .ok next → field.number ≠ number →
    view next = view state

/-- Fields with a number move a part by steps. -/
def Moves (handle : σ → Field → Read σ) (number : Nat) (view : σ → β)
    (step : β → Payload → β → Prop) : Prop :=
  ∀ state payload next, handle state ⟨number, payload⟩ = .ok next →
    step (view state) payload (view next)

theorem run_of_fields {step : β → Payload → β → Prop} (moves : Moves handle number view step)
    (frames : Frames handle number view) (folded : fields.foldlM handle start = .ok result) :
    Run step (view start) (payloads number fields) (view result) := by
  induction fields generalizing start with
  | nil =>
    cases folded
    rfl
  | cons field rest ih =>
    obtain ⟨next, handled, folded⟩ := Outcome.bind_eq_ok_iff.mp folded
    have others := ih folded
    -- A field with the number is a step, and any other one leaves the part as it was.
    by_cases same : field.number = number
    · subst same
      have first : payloads field.number (field :: rest) =
          field.payload :: payloads field.number rest := by simp [payloads]
      rw [first]
      exact ⟨view next, moves _ _ _ handled, others⟩
    · have skipped : payloads number (field :: rest) = payloads number rest := by
        simp [payloads, same]
      rwa [skipped, ← frames _ _ _ handled same]

/-- A part that no field sets. -/
theorem foldlM_kept (kept : ∀ state field next, handle state field = .ok next →
      view next = view state)
    (folded : fields.foldlM handle start = .ok result) : view result = view start := by
  induction fields generalizing start with
  | nil =>
    cases folded
    rfl
  | cons field rest ih =>
    obtain ⟨next, handled, folded⟩ := Outcome.bind_eq_ok_iff.mp folded
    exact (ih folded).trans (kept _ _ _ handled)

theorem messageOf_kept {field : Field} (kept : ∀ state field next,
      handle state field = .ok next → view next = view state)
    (read : messageOf handle start field = .ok result) : view result = view start := by
  obtain ⟨data, -, read⟩ := Outcome.bind_eq_ok_iff.mp read
  obtain ⟨fields, -, folded⟩ := readMessage_eq_ok_iff.mp read
  exact foldlM_kept kept folded

/-! ## What a part holds in the end -/

theorem Once.moved {spells : α → Payload → Prop} {zero value : α}
    {step : β → Payload → β → Prop} (once : Once spells zero value (payloads number fields))
    (place : α → β) (moves : Moves handle number view step) (frames : Frames handle number view)
    (blank : view start = place zero)
    (decodes : ∀ {payload next}, spells value payload → step (place zero) payload next →
      next = place value)
    (folded : fields.foldlM handle start = .ok result) : view result = place value := by
  have run := run_of_fields moves frames folded
  rw [blank] at run
  generalize payloads number fields = held at once run
  cases once with
  | omitted => exact run
  | written spelled =>
    obtain ⟨next, stepped, ended⟩ := run
    exact ended.trans (decodes spelled stepped)

theorem Each.moved {spells : α → Payload → Prop} {values : List α}
    {step : β → Payload → β → Prop} (each : Each spells values (payloads number fields))
    (combine : β → α → β) (moves : Moves handle number view step)
    (frames : Frames handle number view)
    (decodes : ∀ {value payload old next}, spells value payload → step old payload next →
      next = combine old value)
    (folded : fields.foldlM handle start = .ok result) :
    view result = values.foldl combine (view start) := by
  have run := run_of_fields moves frames folded
  generalize payloads number fields = held at each run
  generalize view start = first at run ⊢
  induction each generalizing first with
  | nil => exact run
  | cons spelled _ ih =>
    obtain ⟨next, stepped, run⟩ := run
    rw [List.foldl_cons, ← decodes spelled stepped]
    exact ih next run

/-! ## Parts that hold what is read from a payload -/

/-- A field with the number puts what it reads from its payload. -/
def Puts (handle : σ → Field → Read σ) (number : Nat) (read : Payload → Read γ)
    (put : σ → γ → σ) : Prop :=
  ∀ state payload, handle state ⟨number, payload⟩ = do return put state (← read payload)

variable {read : Payload → Read γ} {put : σ → γ → σ}

theorem Puts.moves (puts : Puts handle number read put) (combine : β → γ → β)
    (sees : ∀ state value, view (put state value) = combine (view state) value) :
    Moves handle number view fun old payload next =>
      ∃ value, read payload = .ok value ∧ next = combine old value := by
  intro state payload next handled
  rw [puts state payload] at handled
  obtain ⟨value, held, ⟨⟩⟩ := Outcome.bind_eq_ok_iff.mp handled
  exact ⟨value, held, sees state value⟩

theorem Once.stored {spells : γ → Payload → Prop} {zero value : γ} {view : σ → γ}
    (once : Once spells zero value (payloads number fields)) (frames : Frames handle number view)
    (puts : Puts handle number read put) (sees : ∀ state value, view (put state value) = value)
    (blank : view start = zero)
    (decodes : ∀ {payload next}, spells value payload → read payload = .ok next → next = value)
    (folded : fields.foldlM handle start = .ok result) : view result = value := by
  refine once.moved id (puts.moves (fun _ value => value) sees) frames blank ?_ folded
  rintro payload next spelled ⟨found, held, rfl⟩
  exact decodes spelled held

theorem Each.stored {spells : γ → Payload → Prop} {values : List γ} {view : σ → List β}
    {norm : γ → β} (each : Each spells values (payloads number fields))
    (frames : Frames handle number view) (puts : Puts handle number read put)
    (sees : ∀ state value, view (put state value) = view state ++ [norm value])
    (decodes : ∀ {value payload next}, spells value payload → read payload = .ok next →
      norm next = norm value)
    (folded : fields.foldlM handle start = .ok result) :
    view result = view start ++ values.map norm := by
  have combined := each.moved (fun old value => old ++ [norm value])
    (puts.moves (fun old value => old ++ [norm value]) sees) frames
    (by
      rintro value payload old next spelled ⟨found, held, rfl⟩
      rw [decodes spelled held])
    folded
  rw [combined]
  generalize view start = first
  clear each combined
  induction values generalizing first with
  | nil => simp
  | cons value rest ih => simp [ih]

theorem Each.gathered {spells : γ → Payload → Prop} {values : List γ} {view : σ → List γ}
    (each : Each spells values (payloads number fields)) (frames : Frames handle number view)
    (puts : Puts handle number read put)
    (sees : ∀ state value, view (put state value) = view state ++ [value])
    (decodes : ∀ {value payload next}, spells value payload → read payload = .ok next →
      next = value)
    (folded : fields.foldlM handle start = .ok result) : view result = view start ++ values := by
  have stored : view result = view start ++ values.map id :=
    each.stored frames puts sees decodes folded
  rwa [List.map_id] at stored

theorem Each.storedLast {spells : γ → Payload → Prop} {value : Option γ} {view : σ → Option β}
    {norm : γ → β} (each : Each spells value.toList (payloads number fields))
    (frames : Frames handle number view) (puts : Puts handle number read put)
    (sees : ∀ state value, view (put state value) = some (norm value))
    (blank : view start = none)
    (decodes : ∀ {value payload next}, spells value payload → read payload = .ok next →
      norm next = norm value)
    (folded : fields.foldlM handle start = .ok result) : view result = value.map norm := by
  have combined := each.moved (fun _ value => some (norm value))
    (puts.moves (fun _ value => some (norm value)) sees) frames
    (by
      rintro value payload old next spelled ⟨found, held, rfl⟩
      rw [decodes spelled held])
    folded
  rw [combined, blank]
  cases value <;> rfl

/-- A way to read payloads that finds elements where they stand alone and in blocks. -/
structure Unpacks (single : α → Payload) (packed : List α → Bytes → Prop)
    (read : Payload → Read (List α)) : Prop where
  one : ∀ value, read (single value) = .ok [value]
  block : ∀ {chunk data}, packed chunk data → read (.bytes data) = .ok chunk

theorem Packed.stored {single : α → Payload} {packed : List α → Bytes → Prop} {values : List α}
    {read : Payload → Read (List α)} {put : σ → List α → σ} {view : σ → List β} {norm : α → β}
    (each : Packed single packed values (payloads number fields))
    (frames : Frames handle number view) (puts : Puts handle number read put)
    (sees : ∀ state values, view (put state values) = view state ++ values.map norm)
    (unpacks : Unpacks single packed read) (folded : fields.foldlM handle start = .ok result) :
    view result = view start ++ values.map norm := by
  have run := run_of_fields (puts.moves (fun old values => old ++ values.map norm) sees) frames
    folded
  generalize payloads number fields = held at each run
  generalize view start = first at run ⊢
  induction each generalizing first with
  | nil =>
    rw [List.map_nil, List.append_nil]
    exact run
  | @single value values rest _ ih =>
    obtain ⟨next, ⟨found, held, rfl⟩, run⟩ := run
    cases (unpacks.one value).symm.trans held
    rw [ih _ run, List.append_assoc, ← List.map_append, List.singleton_append]
  | @block chunk values data rest spelled _ ih =>
    obtain ⟨next, ⟨found, held, rfl⟩, run⟩ := run
    cases (unpacks.block spelled).symm.trans held
    rw [ih _ run, List.append_assoc, ← List.map_append]

theorem Packed.gathered {single : γ → Payload} {packed : List γ → Bytes → Prop} {values : List γ}
    {read : Payload → Read (List γ)} {put : σ → List γ → σ} {view : σ → List γ}
    (each : Packed single packed values (payloads number fields))
    (frames : Frames handle number view) (puts : Puts handle number read put)
    (sees : ∀ state values, view (put state values) = view state ++ values)
    (unpacks : Unpacks single packed read) (folded : fields.foldlM handle start = .ok result) :
    view result = view start ++ values := by
  have stored : view result = view start ++ values.map id :=
    each.stored frames puts (by simpa only [List.map_id] using sees) unpacks folded
  rwa [List.map_id] at stored

end Parts

end StaticNet.Onnx
