import StaticNet.Proofs.Onnx.Schema

/-! # What the reader accepts

A message is read exactly when its fields fit the schema. Each reader of a payload accepts the
payloads of one kind, and each handler is made of such readers, one for a known number.
-/

namespace StaticNet.Onnx

open Wire

/-! ## Messages -/

section Messages

variable {σ : Type} {handle : σ → Field → Read σ} {start result : σ} {bytes : Bytes}

/-- A handler whose failures name the field. -/
private def located (handle : σ → Field → Read σ) (state : σ) (field : Field) : Read σ :=
  (handle state field).mapError fun failure => { failure with path := field.number :: failure.path }

private theorem foldlM_located_eq_ok_iff {fields : List Field} :
    fields.foldlM (located handle) start = .ok result ↔
      fields.foldlM handle start = .ok result := by
  induction fields generalizing start with
  | nil => rfl
  | cons field rest ih =>
    simp only [List.foldlM_cons, Outcome.bind_eq_ok_iff, located, Outcome.mapError_eq_ok_iff, ih]

/-- The fields that bytes start with are handled first. -/
theorem readMessage_append {fields : List Field} {before : Bytes}
    (spells : SpellsMessage fields before) (after : Bytes) :
    readMessage handle start (before ++ after) =
      fields.foldlM (located handle) start >>= fun state => readMessage handle state after := by
  have scanned := spells.scan_append rfl after
  unfold readMessage
  rw [scanned]
  dsimp only
  rw [List.foldlM_append, bind_assoc]
  rfl

theorem readMessage_eq_ok_iff :
    readMessage handle start bytes = .ok result ↔
      ∃ fields, SpellsMessage fields bytes ∧ fields.foldlM handle start = .ok result := by
  constructor
  · intro read
    unfold readMessage at read
    rcases scanned : scan bytes with ⟨fields, fault⟩
    rw [scanned] at read
    obtain ⟨state, folded, ended⟩ := Outcome.bind_eq_ok_iff.mp read
    split at ended
    · cases ended
      exact ⟨fields, scan_eq_iff.mp scanned, foldlM_located_eq_ok_iff.mp folded⟩
    · cases ended
    · cases ended
  · rintro ⟨fields, spells, folded⟩
    have ended : readMessage handle result [] = .ok result := by
      rw [readMessage, scan_eq_iff.mpr .nil]
      rfl
    have read : readMessage handle start (bytes ++ []) = _ := readMessage_append spells []
    rw [foldlM_located_eq_ok_iff.mpr folded, List.append_nil] at read
    exact read.trans ended

end Messages

/-! ## Payloads -/

section Payloads

variable {α β : Type} {number : Nat}

/-- A way to read payloads accepts those of a kind. It reads the message in a payload without regard
to further fields in it. -/
structure Stores (kind : Kind) (step : Payload → Read α) : Prop where
  accepts : ∀ payload, (∃ next, step payload = .ok next) ↔ Admits kind payload
  ignores : ∀ inner data padded, kind = .message inner → Padded inner data padded →
    step (.bytes padded) = step (.bytes data)

theorem Stores.map {kind : Kind} {step : Payload → Read α} (stores : Stores kind step)
    (put : α → β) : Stores kind fun payload => do return put (← step payload) where
  accepts payload := by
    rw [← stores.accepts payload]
    constructor
    · rintro ⟨next, done⟩
      obtain ⟨value, read, -⟩ := Outcome.bind_eq_ok_iff.mp done
      exact ⟨value, read⟩
    · rintro ⟨value, read⟩
      exact ⟨put value, Outcome.bind_eq_ok_iff.mpr ⟨value, read, rfl⟩⟩
  ignores inner data padded known more := by rw [stores.ignores inner data padded known more]

theorem stores_bytes : Stores .bytes fun payload => bytesOf ⟨number, payload⟩ where
  accepts payload := by
    constructor
    · rintro ⟨next, read⟩
      cases payload <;> first | exact .bytes | cases read
    · rintro ⟨⟩
      exact ⟨_, rfl⟩
  ignores := nofun

theorem stores_text : Stores .bytes fun payload => textOf ⟨number, payload⟩ :=
  stores_bytes.map Text.ofBytes

theorem stores_int : Stores .int fun payload => intOf ⟨number, payload⟩ where
  accepts payload := by
    constructor
    · rintro ⟨next, read⟩
      cases payload <;> first | exact .int | cases read
    · rintro ⟨⟩
      exact ⟨_, rfl⟩
  ignores := nofun

theorem stores_short : Stores .int fun payload => shortOf ⟨number, payload⟩ :=
  stores_int.map Int64.toInt32

theorem packedInts_append {n : Nat} {first : Bytes} (spells : SpellsVarint n first)
    (rest : Bytes) :
    packedInts (first ++ rest) = do return signed n :: (← packedInts rest) := by
  have taken := spells.take rest
  have some : (first ++ rest).isEmpty = false := by
    rw [← Bool.not_eq_true, List.isEmpty_iff]
    intro empty
    rw [empty] at taken
    cases taken
  rw [packedInts]
  simp only [some, Bool.false_eq_true, if_false]
  split <;> simp_all

theorem packedInts_accepts {data : Bytes} :
    (∃ ints, packedInts data = .ok ints) ↔ WholeVarints data := by
  constructor
  · rintro ⟨ints, read⟩
    fun_induction packedInts data generalizing ints with
    | case1 data empty =>
      rw [List.isEmpty_iff.mp empty]
      exact .nil
    | case2 => cases read
    | case3 data _ n rest taken ih =>
      obtain ⟨others, read, -⟩ := Outcome.bind_eq_ok_iff.mp read
      obtain ⟨spelled, rfl, spells⟩ := takeVarint_eq_ok_iff.mp taken
      exact .cons spells (ih others read)
  · intro whole
    induction whole with
    | nil => exact ⟨[], by rw [packedInts]; rfl⟩
    | @cons n first rest spells _ ih =>
      obtain ⟨others, read⟩ := ih
      refine ⟨signed n :: others, ?_⟩
      rw [packedInts_append spells, read]
      rfl

theorem stores_ints : Stores .ints fun payload => intsOf ⟨number, payload⟩ where
  accepts payload := by
    constructor
    · rintro ⟨next, read⟩
      cases payload with
      | varint n => exact .oneInt
      | bytes data => exact .packedInts (packedInts_accepts.mp ⟨next, read⟩)
      | fixed64 | group | fixed32 => cases read
    · rintro (_ | _ | _ | whole)
      · exact ⟨_, rfl⟩
      · exact packedInts_accepts.mpr whole
  ignores := nofun

theorem stores_floats : Stores .floats fun payload => floatsOf ⟨number, payload⟩ where
  accepts payload := by
    constructor
    · rintro ⟨next, read⟩
      cases payload with
      | fixed32 n => exact .oneFloat
      | bytes data =>
        dsimp only [floatsOf] at read
        split at read
        · cases read
        · next whole => exact .packedFloats (Nat.dvd_of_mod_eq_zero (not_not.mp whole))
      | varint | fixed64 | group => cases read
    · rintro ⟨⟩
      · exact ⟨_, rfl⟩
      · next whole => exact ⟨_, if_neg (not_not.mpr (Nat.mod_eq_zero_of_dvd whole))⟩
  ignores := nofun

theorem stores_doubles : Stores .doubles fun payload => doublesOf ⟨number, payload⟩ where
  accepts payload := by
    constructor
    · rintro ⟨next, read⟩
      cases payload with
      | fixed64 n => exact .oneDouble
      | bytes data =>
        dsimp only [doublesOf] at read
        split at read
        · cases read
        · next whole => exact .packedDoubles (Nat.dvd_of_mod_eq_zero (not_not.mp whole))
      | varint | group | fixed32 => cases read
    · rintro ⟨⟩
      · exact ⟨_, rfl⟩
      · next whole => exact ⟨_, if_neg (not_not.mpr (Nat.mod_eq_zero_of_dvd whole))⟩
  ignores := nofun

end Payloads

/-! ## Handlers -/

/-- A handler reads the fields of a schema and leaves the state alone at other ones. -/
structure Handles {σ : Type} (handle : σ → Field → Read σ) (schema : Schema) : Prop where
  known : ∀ entry ∈ schema, ∀ state, Stores entry.2 fun payload => handle state ⟨entry.1, payload⟩
  unknown : ∀ state field, field.number ∉ schema.numbers → handle state field = .ok state

section Handlers

variable {σ : Type} {handle : σ → Field → Read σ} {schema : Schema}

theorem Handles.accepts (handles : Handles handle schema) (state : σ) (field : Field) :
    (∃ next, handle state field = .ok next) ↔ schema.Fits field := by
  constructor
  · intro accepted kind entry
    exact ((handles.known _ entry state).accepts field.payload).mp accepted
  · intro fits
    by_cases known : field.number ∈ schema.numbers
    · obtain ⟨⟨number, kind⟩, entry, rfl⟩ := List.mem_map.mp known
      exact ((handles.known _ entry state).accepts field.payload).mpr (fits kind entry)
    · exact ⟨state, handles.unknown state field known⟩

theorem Handles.accepts_fields (handles : Handles handle schema) (start : σ)
    (fields : List Field) :
    (∃ result, fields.foldlM handle start = .ok result) ↔ ∀ field ∈ fields, schema.Fits field := by
  induction fields generalizing start with
  | nil => exact ⟨fun _ => nofun, fun _ => ⟨start, rfl⟩⟩
  | cons field rest ih =>
    simp only [List.foldlM_cons, Outcome.bind_eq_ok_iff, List.forall_mem_cons]
    constructor
    · rintro ⟨result, next, handled, folded⟩
      exact ⟨(handles.accepts start field).mp ⟨next, handled⟩, (ih next).mp ⟨result, folded⟩⟩
    · rintro ⟨fits, others⟩
      obtain ⟨next, handled⟩ := (handles.accepts start field).mpr fits
      obtain ⟨result, folded⟩ := (ih next).mpr others
      exact ⟨result, next, handled, folded⟩

/-- A message is read exactly when its fields fit the schema. -/
theorem Handles.accepts_message (handles : Handles handle schema) (start : σ) (bytes : Bytes) :
    (∃ result, readMessage handle start bytes = .ok result) ↔
      ∃ fields, Conforms schema fields bytes := by
  simp only [readMessage_eq_ok_iff, Conforms, ← handles.accepts_fields start]
  constructor
  · rintro ⟨result, fields, spells, folded⟩
    exact ⟨fields, spells, result, folded⟩
  · rintro ⟨fields, spells, result, folded⟩
    exact ⟨result, fields, spells, folded⟩

private theorem readMessage_cons {field : Field} {piece : Bytes}
    (spells : SpellsMessage [field] piece) (state : σ) (after : Bytes) :
    readMessage handle state (piece ++ after) =
      located handle state field >>= fun next => readMessage handle next after := by
  rw [readMessage_append spells, List.foldlM_cons, bind_assoc]
  rfl

/-- Fields that are not known make no difference, wherever they stand. -/
theorem Handles.ignores (handles : Handles handle schema) {bytes padded : Bytes}
    (more : Padded schema bytes padded) (start : σ) :
    readMessage handle start padded = readMessage handle start bytes := by
  induction more generalizing start with
  | unknown first extra unknown =>
    rw [readMessage_append first, readMessage_append first]
    congr 1
    funext state
    rw [readMessage_cons extra, located, handles.unknown state _ unknown]
    rfl
  | @within schema inner fields number data padded _ _ _ _ first entry inside piece other _ =>
    rw [readMessage_append first, readMessage_append first]
    congr 1
    funext state
    -- The handler of the message inside is out of sight; what is stored speaks for it.
    have same : handle state ⟨number, .bytes padded⟩ = handle state ⟨number, .bytes data⟩ :=
      (handles.known _ entry state).ignores inner data padded rfl inside
    rw [readMessage_cons piece, readMessage_cons other, located, located, same]
  | trans _ _ ihFirst ihSecond => exact (ihSecond handles start).trans (ihFirst handles start)

theorem Handles.stores (handles : Handles handle schema) (start : σ) {number : Nat} :
    Stores (.message schema) fun payload => messageOf handle start ⟨number, payload⟩ where
  accepts payload := by
    rw [admits_message_iff]
    constructor
    · rintro ⟨result, read⟩
      obtain ⟨data, held, read⟩ := Outcome.bind_eq_ok_iff.mp read
      obtain ⟨fields, conforms⟩ := (handles.accepts_message start data).mp ⟨result, read⟩
      cases payload <;> cases held
      exact ⟨data, fields, rfl, conforms⟩
    · rintro ⟨data, fields, rfl, conforms⟩
      exact (handles.accepts_message start data).mpr ⟨fields, conforms⟩
  ignores inner data padded known more := by
    cases known
    exact handles.ignores more start

end Handlers

/-! ## The messages of a model -/

theorem opsetField_handles : Handles opsetField opsetSchema where
  known := by
    simp only [opsetSchema, List.forall_mem_cons]
    exact ⟨fun _ => stores_text.map _, fun _ => stores_int.map _, nofun⟩
  unknown opset field unknown := by
    unfold opsetField
    split <;> first | rfl | simp_all [opsetSchema, Schema.numbers]

theorem dimensionField_handles : Handles dimensionField dimensionSchema where
  known := by
    simp only [dimensionSchema, List.forall_mem_cons]
    exact ⟨fun _ => stores_int.map _, fun _ => stores_text.map _, nofun⟩
  unknown dim field unknown := by
    unfold dimensionField
    split <;> first | rfl | simp_all [dimensionSchema, Schema.numbers]

theorem shapeField_handles : Handles shapeField shapeSchema where
  known := by
    simp only [shapeSchema, List.forall_mem_cons]
    exact ⟨fun _ => (dimensionField_handles.stores {}).map _, nofun⟩
  unknown value field unknown := by
    unfold shapeField
    split <;> first | rfl | simp_all [shapeSchema, Schema.numbers]

theorem tensorTypeField_handles : Handles tensorTypeField tensorTypeSchema where
  known := by
    simp only [tensorTypeSchema, List.forall_mem_cons]
    exact ⟨fun _ => stores_short.map _, fun _ => shapeField_handles.stores _, nofun⟩
  unknown value field unknown := by
    unfold tensorTypeField
    split <;> first | rfl | simp_all [tensorTypeSchema, Schema.numbers]

theorem typeField_handles : Handles typeField typeSchema where
  known := by
    simp only [typeSchema, List.forall_mem_cons]
    exact ⟨fun value => tensorTypeField_handles.stores value, nofun⟩
  unknown value field unknown := by
    unfold typeField
    split <;> first | rfl | simp_all [typeSchema, Schema.numbers]

theorem valueField_handles : Handles valueField valueSchema where
  known := by
    simp only [valueSchema, List.forall_mem_cons]
    exact ⟨fun _ => stores_text.map _, fun value => typeField_handles.stores value, nofun⟩
  unknown value field unknown := by
    unfold valueField
    split <;> first | rfl | simp_all [valueSchema, Schema.numbers]

theorem tensorField_handles : Handles tensorField tensorSchema where
  known := by
    simp only [tensorSchema, List.forall_mem_cons]
    exact ⟨fun _ => stores_ints.map _, fun _ => stores_short.map _, fun _ => stores_floats.map _,
      fun _ => stores_ints.map _, fun _ => stores_ints.map _, fun _ => stores_text.map _,
      fun _ => stores_bytes.map _, fun _ => stores_doubles.map _, nofun⟩
  unknown tensor field unknown := by
    unfold tensorField
    split <;> first | rfl | simp_all [tensorSchema, Schema.numbers]

theorem attributeField_handles : Handles attributeField attributeSchema where
  known := by
    simp only [attributeSchema, List.forall_mem_cons]
    exact ⟨fun _ => stores_text.map _, fun _ => stores_floats.map _, fun _ => stores_int.map _,
      fun _ => stores_bytes.map _, fun _ => (tensorField_handles.stores {}).map _,
      fun _ => stores_floats.map _, fun _ => stores_ints.map _, fun _ => stores_bytes.map _,
      fun _ => stores_short.map _, nofun⟩
  unknown record field unknown := by
    unfold attributeField
    split <;> first | rfl | simp_all [attributeSchema, Schema.numbers]

theorem nodeField_handles : Handles nodeField nodeSchema where
  known := by
    simp only [nodeSchema, List.forall_mem_cons]
    exact ⟨fun _ => stores_text.map _, fun _ => stores_text.map _, fun _ => stores_text.map _,
      fun _ => stores_text.map _, fun _ => (attributeField_handles.stores {}).map _,
      fun _ => stores_text.map _, nofun⟩
  unknown node field unknown := by
    unfold nodeField
    split <;> first | rfl | simp_all [nodeSchema, Schema.numbers]

theorem graphField_handles : Handles graphField graphSchema where
  known := by
    simp only [graphSchema, List.forall_mem_cons]
    exact ⟨fun _ => (nodeField_handles.stores {}).map _, fun _ => stores_text.map _,
      fun _ => (tensorField_handles.stores {}).map _, fun _ => (valueField_handles.stores {}).map _,
      fun _ => (valueField_handles.stores {}).map _, fun _ => (valueField_handles.stores {}).map _,
      nofun⟩
  unknown graph field unknown := by
    unfold graphField
    split <;> first | rfl | simp_all [graphSchema, Schema.numbers]

theorem modelField_handles : Handles modelField modelSchema where
  known := by
    simp only [modelSchema, List.forall_mem_cons]
    exact ⟨fun _ => stores_int.map _, fun _ => stores_text.map _, fun _ => stores_text.map _,
      fun _ => (graphField_handles.stores {}).map _, fun _ => (opsetField_handles.stores {}).map _,
      nofun⟩
  unknown model field unknown := by
    unfold modelField
    split <;> first | rfl | simp_all [modelSchema, Schema.numbers, graphNumber]

/-! ## Models -/

/-- A field gives a model its graph exactly when it has the number of the graph. -/
private theorem modelField_graph {model next : ModelRecord} {field : Field}
    (handled : modelField model field = .ok next) :
    next.graph.isSome ↔ model.graph.isSome ∨ field.number = graphNumber := by
  unfold modelField at handled
  split at handled
  case h_6 =>
    cases handled
    simp_all [graphNumber]
  all_goals
    obtain ⟨value, -, ⟨⟩⟩ := Outcome.bind_eq_ok_iff.mp handled
    simp_all [graphNumber]

private theorem foldlM_graph {fields : List Field} {start result : ModelRecord}
    (folded : fields.foldlM modelField start = .ok result) :
    result.graph.isSome ↔ start.graph.isSome ∨ ∃ field ∈ fields, field.number = graphNumber := by
  induction fields generalizing start with
  | nil =>
    cases folded
    simp
  | cons field rest ih =>
    obtain ⟨next, handled, folded⟩ := Outcome.bind_eq_ok_iff.mp folded
    rw [ih folded, modelField_graph handled, List.exists_mem_cons_iff, or_assoc]

/-- One of the fields is the graph of a model. -/
def HoldsGraph (fields : List Field) : Prop := ∃ field ∈ fields, field.number = graphNumber

theorem parse_of_read {bytes : Bytes} {model : ModelRecord}
    (read : readMessage modelField {} bytes = .ok model) :
    parse bytes = if model.graph.isSome then .ok model else .error .noGraph := by
  rw [parse, read]
  obtain ⟨_, _, _, _, graph⟩ := model
  cases graph <;> rfl

private theorem read_of_conforms {fields : List Field} {bytes : Bytes}
    (conforms : Conforms modelSchema fields bytes) :
    ∃ model, readMessage modelField {} bytes = .ok model ∧
      (model.graph.isSome ↔ HoldsGraph fields) := by
  obtain ⟨spells, fits⟩ := conforms
  obtain ⟨model, folded⟩ := (modelField_handles.accepts_fields {} fields).mpr fits
  refine ⟨model, readMessage_eq_ok_iff.mpr ⟨fields, spells, folded⟩, ?_⟩
  rw [foldlM_graph folded, HoldsGraph]
  simp

private theorem parse_of_graph {fields : List Field} {bytes : Bytes}
    (conforms : Conforms modelSchema fields bytes) (graph : HoldsGraph fields) :
    ∃ model, parse bytes = .ok model := by
  obtain ⟨model, read, holds⟩ := read_of_conforms conforms
  exact ⟨model, (parse_of_read read).trans (if_pos (holds.mpr graph))⟩

private theorem parse_without_graph {fields : List Field} {bytes : Bytes}
    (conforms : Conforms modelSchema fields bytes) (graph : ¬ HoldsGraph fields) :
    parse bytes = .error .noGraph := by
  obtain ⟨model, read, holds⟩ := read_of_conforms conforms
  exact (parse_of_read read).trans (if_neg fun some => graph (holds.mp some))

private theorem parse_of_not_conforms {bytes : Bytes}
    (none : ¬ ∃ fields, Conforms modelSchema fields bytes) :
    ∃ failure, parse bytes = .error (.malformed failure) := by
  rw [← modelField_handles.accepts_message {} bytes] at none
  cases read : readMessage modelField {} bytes with
  | error failure =>
    refine ⟨failure, ?_⟩
    rw [parse, read]
    rfl
  | ok model => exact absurd ⟨model, read⟩ none

/-- What becomes of a file, by its fields alone. It is parsed exactly when its fields fit the schema
and one of them is a graph; the missing graph is reported only if nothing else is wrong, and
anything else as malformed. Unknown fields do not matter, wherever they stand. -/
theorem parse_grammar (bytes : Bytes) :
    ((∃ model, parse bytes = .ok model) ↔
      ∃ fields, Conforms modelSchema fields bytes ∧ HoldsGraph fields) ∧
    (parse bytes = .error .noGraph ↔
      ∃ fields, Conforms modelSchema fields bytes ∧ ¬ HoldsGraph fields) ∧
    ((∃ failure, parse bytes = .error (.malformed failure)) ↔
      ¬ ∃ fields, Conforms modelSchema fields bytes) ∧
    ∀ padded, Padded modelSchema bytes padded → parse padded = parse bytes := by
  refine ⟨⟨?_, ?_⟩, ⟨?_, ?_⟩, ⟨?_, parse_of_not_conforms⟩, ?_⟩
  · rintro ⟨model, parsed⟩
    by_cases conforms : ∃ fields, Conforms modelSchema fields bytes
    · obtain ⟨fields, conforms⟩ := conforms
      refine ⟨fields, conforms, by_contra fun graph => ?_⟩
      cases (parse_without_graph conforms graph).symm.trans parsed
    · obtain ⟨failure, failed⟩ := parse_of_not_conforms conforms
      cases failed.symm.trans parsed
  · rintro ⟨fields, conforms, graph⟩
    exact parse_of_graph conforms graph
  · intro missing
    by_cases conforms : ∃ fields, Conforms modelSchema fields bytes
    · obtain ⟨fields, conforms⟩ := conforms
      refine ⟨fields, conforms, fun graph => ?_⟩
      obtain ⟨model, parsed⟩ := parse_of_graph conforms graph
      cases parsed.symm.trans missing
    · obtain ⟨failure, failed⟩ := parse_of_not_conforms conforms
      cases failed.symm.trans missing
  · rintro ⟨fields, conforms, graph⟩
    exact parse_without_graph conforms graph
  · rintro ⟨failure, failed⟩ ⟨fields, conforms⟩
    by_cases graph : HoldsGraph fields
    · obtain ⟨model, parsed⟩ := parse_of_graph conforms graph
      cases parsed.symm.trans failed
    · cases (parse_without_graph conforms graph).symm.trans failed
  · intro padded more
    rw [parse, parse, modelField_handles.ignores more {}]

/-- An empty graph, and the same graph with a field in it that no graph has. -/
theorem parse_grammar_padded :
    Padded modelSchema [0x3a, 0x00] [0x3a, 0x02, 0x78, 0x01] ∧
      parse [0x3a, 0x02, 0x78, 0x01] = parse [0x3a, 0x00] := by
  have extra : SpellsMessage [⟨15, .varint 1⟩] [0x78, 0x01] := scan_eq_iff.mp (by decide +kernel)
  have piece : SpellsMessage [⟨7, .bytes []⟩] [0x3a, 0x00] := scan_eq_iff.mp (by decide +kernel)
  have other : SpellsMessage [⟨7, .bytes [0x78, 0x01]⟩] [0x3a, 0x02, 0x78, 0x01] :=
    scan_eq_iff.mp (by decide +kernel)
  have inside : Padded graphSchema ([] ++ []) ([] ++ ([0x78, 0x01] ++ [])) :=
    .unknown .nil extra (by decide)
  have padded : Padded modelSchema ([] ++ ([0x3a, 0x00] ++ []))
      ([] ++ ([0x3a, 0x02, 0x78, 0x01] ++ [])) :=
    .within .nil (by simp [modelSchema, graphNumber]) inside piece other
  exact ⟨padded, (parse_grammar [0x3a, 0x00]).2.2.2 _ padded⟩

end StaticNet.Onnx
