import StaticNet.Proofs.Shape.Count
import StaticNet.Proofs.Weights.RoundTrip

/-! # What has been read

A successful read determines the bytes that it has consumed: they are the serialization of its
result. So a file that has been read is a prefix of the data, and whatever stands behind its end
marker makes no difference.

A layout may state more ranks than tensors. The additional ones are never looked at, and a layout is
compared with what has been read without them.
-/

namespace StaticNet

/-- The layout of a layer without the ranks beyond its tensors. -/
def LayerLayout.trimmed (layout : LayerLayout) : LayerLayout :=
  { layout with ranks := layout.ranks.take layout.tensors.length }

/-- A layout without the ranks beyond the tensors. -/
def WeightsLayout.trimmed (layout : WeightsLayout) : WeightsLayout :=
  { layout with layers := layout.layers.map LayerLayout.trimmed }

namespace Weights

/-- Every sequence of whole words is the bytes of some. -/
theorem exists_wordBytes {count : Nat} {bytes : Bytes} (full : bytes.length = 4 * count) :
    ∃ words : List UInt32, words.length = count ∧ wordBytes words = bytes := by
  induction count generalizing bytes with
  | zero => exact ⟨[], rfl, (List.eq_nil_of_length_eq_zero full).symm⟩
  | succ count ih =>
    have rest : (bytes.drop 4).length = 4 * count := by
      rw [List.length_drop]
      omega
    have block : (bytes.take 4).length = 4 := by
      rw [List.length_take]
      omega
    obtain ⟨words, length, same⟩ := ih rest
    refine ⟨UInt32.ofNat (Bytes.toNat (bytes.take 4)) :: words, congrArg (· + 1) length, ?_⟩
    rw [wordBytes, List.flatMap_cons, Bytes.ofWord_toNat block]
    exact (congrArg (bytes.take 4 ++ ·) same).trans (List.take_append_drop 4 bytes)

/-! ## Primitive reads -/

theorem of_takeBytes {count : Nat} {bytes taken rest : Bytes}
    (done : takeBytes count bytes = .ok (taken, rest)) :
    taken.length = count ∧ bytes = taken ++ rest := by
  rw [takeBytes] at done
  split at done
  · next enough =>
    cases done
    exact ⟨List.length_take_of_le enough, (List.take_append_drop count bytes).symm⟩
  · split at done <;> cases done

theorem of_takeWords {count : Nat} {bytes rest : Bytes} {words : List UInt32}
    (done : takeWords count bytes = .ok (words, rest)) :
    words.length = count ∧ bytes = wordBytes words ++ rest := by
  obtain ⟨⟨taken, others⟩, first, result⟩ := Outcome.bind_eq_ok_iff.mp done
  obtain ⟨full, rfl⟩ := of_takeBytes first
  obtain ⟨written, length, rfl⟩ := exists_wordBytes full
  cases result
  rw [blocks_wordBytes]
  exact ⟨length, rfl⟩

theorem of_takeLine {bytes line rest : Bytes} (done : takeLine bytes = .ok (line, rest)) :
    0x0a ∉ line ∧ bytes = line ++ 0x0a :: rest := by
  rw [takeLine] at done
  split at done
  · next ended =>
    obtain ⟨before, after, rfl, first⟩ :=
      List.eq_append_cons_of_mem (List.contains_iff_mem.mp ended)
    have plain : ∀ byte ∈ before, decide (byte ≠ 0x0a) = true :=
      fun byte member => decide_eq_true fun same => first (same ▸ member)
    rw [List.takeWhile_append_of_pos plain, List.dropWhile_append_of_pos plain] at done
    obtain ⟨rfl, rfl⟩ : before = line ∧ after = rest := by simpa using done
    exact ⟨first, rfl⟩
  · cases done

/-- A text that a line was compared with. -/
theorem of_takeLine_bytes {s : String} {bytes rest : Bytes}
    (done : takeLine bytes = .ok (Text.bytes s, rest)) :
    OneLine s ∧ bytes = lineBytes s ++ rest := by
  obtain ⟨oneLine, split⟩ := of_takeLine done
  exact ⟨oneLine, by simpa [lineBytes] using split⟩

/-! ## Entries and layers -/

theorem readable_of_words {tensor : String} {dims : List UInt32} {words : List UInt32}
    (nonzero : fieldProduct dims ≠ 0) (natural : 0 ≤ fieldProduct dims)
    (length : words.length = (fieldProduct dims).toInt.toNat) :
    Readable ⟨tensor, dims, words.map Binary32.mk, false⟩ := by
  have count : fieldProduct dims = Int64.ofNat words.length := by
    rw [length, Shape.ofNat_toNat natural]
  have some : words ≠ [] := fun none => nonzero (by rw [count, none]; rfl)
  refine ⟨?_, ?_, ?_⟩
  · rw [count, List.length_map]
  · rw [List.length_map, length]
    exact (Int.toNat_lt (Int64.le_iff_toInt_le.mp natural)).mpr (Int64.toInt_lt _)
  · simpa using some

/-- An entry that has been read reads back: even if its machine count has wrapped around, it is the
number of the elements that were read. -/
theorem of_takeEntry {tensor : String} {dims : List UInt32} {bytes rest : Bytes}
    {entry : WeightsEntry} (done : takeEntry tensor dims bytes = .ok (entry, rest)) :
    entry.tensor = tensor ∧ entry.dims = dims ∧ Readable entry ∧
      bytes = wordBytes (entry.data.map Binary32.bits) ++ rest := by
  unfold takeEntry at done
  dsimp only at done
  split at done
  · next zero =>
    cases done
    exact ⟨rfl, rfl, ⟨zero, by simp, by simp⟩, rfl⟩
  · next nonzero =>
    split at done
    · cases done
    · next notNegative =>
      cases read : takeWords (fieldProduct dims).toInt.toNat bytes with
      | error cause =>
        rw [read] at done
        dsimp only at done
        split at done <;> cases done
      | ok result =>
        obtain ⟨words, others⟩ := result
        rw [read] at done
        cases done
        obtain ⟨length, split⟩ := of_takeWords read
        have natural : 0 ≤ fieldProduct dims := Int64.not_lt.mp notNegative
        refine ⟨rfl, rfl, readable_of_words nonzero natural length, ?_⟩
        simpa [Function.comp_def] using split

theorem takeEntries_take {tensors : List String} {ranks : List Int} (bytes : Bytes) :
    takeEntries tensors (ranks.take tensors.length) bytes = takeEntries tensors ranks bytes := by
  induction tensors generalizing ranks bytes with
  | nil => rw [takeEntries, takeEntries]
  | cons tensor tensors ih =>
    cases ranks with
    | nil => rfl
    | cons rank ranks =>
      simp only [List.length_cons, List.take_succ_cons, takeEntries, ih]

theorem of_takeEntries {tensors : List String} {ranks : List Int} {bytes rest : Bytes}
    {entries : List WeightsEntry} (done : takeEntries tensors ranks bytes = .ok (entries, rest)) :
    tensors = entries.map WeightsEntry.tensor ∧ Announces (ranks.take tensors.length) entries ∧
      (∀ entry ∈ entries, Readable entry) ∧ bytes = entries.flatMap WeightsEntry.bytes ++ rest := by
  induction tensors generalizing ranks bytes entries with
  | nil =>
    rw [takeEntries] at done
    cases done
    exact ⟨rfl, .nil, List.forall_mem_nil _, rfl⟩
  | cons tensor tensors ih =>
    cases ranks with
    | nil => cases done
    | cons rank ranks =>
      rw [takeEntries] at done
      cases fields : dimensionCount? rank with
      | none => simp [fields] at done
      | some count =>
        rw [fields] at done
        obtain ⟨⟨dims, afterDims⟩, dimsRead, done⟩ := Outcome.bind_eq_ok_iff.mp done
        obtain ⟨⟨entry, afterEntry⟩, entryRead, done⟩ := Outcome.bind_eq_ok_iff.mp done
        obtain ⟨⟨others, afterOthers⟩, othersRead, result⟩ := Outcome.bind_eq_ok_iff.mp done
        cases result
        -- From here on the data are split up from the front, read by read.
        obtain ⟨length, rfl⟩ := of_takeWords (Outcome.mapError_eq_ok_iff.mp dimsRead)
        obtain ⟨rfl, rfl, readable, rfl⟩ := of_takeEntry entryRead
        obtain ⟨rfl, announced, remaining, rfl⟩ := ih othersRead
        refine ⟨rfl, .cons (length ▸ fields) announced,
          List.forall_mem_cons.mpr ⟨readable, remaining⟩, ?_⟩
        simp [WeightsEntry.bytes]

theorem of_takeZero {bytes rest : Bytes} (done : takeZero bytes = .ok rest) :
    bytes = Bytes.ofWord 0 ++ rest := by
  obtain ⟨⟨words, others⟩, read, checked⟩ := Outcome.bind_eq_ok_iff.mp done
  obtain ⟨length, split⟩ := of_takeWords (Outcome.mapError_eq_ok_iff.mp read)
  obtain ⟨word, rfl⟩ := List.length_eq_one_iff.mp length
  obtain ⟨zero, result⟩ := Outcome.of_refusal checked
  cases result
  obtain rfl : word = 0 := UInt32.toNat_inj.mp (not_not.mp zero)
  rw [split]
  rfl

theorem takeLayer_trimmed (layout : LayerLayout) (bytes : Bytes) :
    takeLayer layout.trimmed bytes = takeLayer layout bytes := by
  simp only [takeLayer, LayerLayout.trimmed, takeEntries_take]
  rfl

theorem takeLayers_trimmed (layouts : List LayerLayout) (bytes : Bytes) :
    takeLayers (layouts.map LayerLayout.trimmed) bytes = takeLayers layouts bytes := by
  induction layouts generalizing bytes with
  | nil => rfl
  | cons layout layouts ih =>
    rw [List.map_cons, takeLayers, takeLayers, takeLayer_trimmed]
    simp only [ih]
    rfl

theorem of_takeLayer {layout : LayerLayout} {bytes rest : Bytes} {layer : WeightsLayer}
    (done : takeLayer layout bytes = .ok (layer, rest)) :
    Announced layout.trimmed layer ∧ (OneLine layer.name ∧ OneLine layer.op) ∧
      (∀ entry ∈ layer.entries, Readable entry) ∧ bytes = layer.bytes ++ rest := by
  obtain ⟨⟨name, afterName⟩, nameRead, done⟩ := Outcome.bind_eq_ok_iff.mp done
  obtain ⟨⟨op, afterOp⟩, opRead, done⟩ := Outcome.bind_eq_ok_iff.mp done
  obtain ⟨same, done⟩ := Outcome.of_refusal done
  obtain ⟨⟨entries, afterEntries⟩, entriesRead, closing⟩ := Outcome.bind_eq_ok_iff.mp done
  simp only [not_or, not_not] at same
  obtain ⟨rfl, rfl⟩ := same
  obtain ⟨named, rfl⟩ := of_takeLine_bytes (Outcome.mapError_eq_ok_iff.mp nameRead)
  obtain ⟨operator, rfl⟩ := of_takeLine_bytes (Outcome.mapError_eq_ok_iff.mp opRead)
  obtain ⟨tensors, announced, readable, rfl⟩ := of_takeEntries entriesRead
  have described : Announced layout.trimmed ⟨layout.name, layout.op, entries, layout.zeroBias⟩ :=
    ⟨rfl, rfl, tensors, announced, rfl⟩
  dsimp only at closing
  split at closing
  · next zeroBias =>
    obtain ⟨afterBias, biasRead, result⟩ := Outcome.bind_eq_ok_iff.mp closing
    cases result
    refine ⟨described, ⟨named, operator⟩, readable, ?_⟩
    rw [of_takeZero biasRead]
    simp [WeightsLayer.bytes, zeroBias]
  · next noBias =>
    cases closing
    exact ⟨described, ⟨named, operator⟩, readable, by simp [WeightsLayer.bytes, noBias]⟩

theorem of_takeLayers {layouts : List LayerLayout} {bytes rest : Bytes}
    {layers : List WeightsLayer} (done : takeLayers layouts bytes = .ok (layers, rest)) :
    List.Forall₂ Announced (layouts.map LayerLayout.trimmed) layers ∧
      (∀ layer ∈ layers, OneLine layer.name ∧ OneLine layer.op) ∧
      (∀ layer ∈ layers, ∀ entry ∈ layer.entries, Readable entry) ∧
      bytes = layers.flatMap WeightsLayer.bytes ++ rest := by
  induction layouts generalizing bytes layers with
  | nil =>
    cases done
    exact ⟨.nil, List.forall_mem_nil _, List.forall_mem_nil _, rfl⟩
  | cons layout layouts ih =>
    obtain ⟨⟨layer, afterLayer⟩, layerRead, done⟩ := Outcome.bind_eq_ok_iff.mp done
    obtain ⟨⟨others, afterOthers⟩, othersRead, result⟩ := Outcome.bind_eq_ok_iff.mp done
    cases result
    obtain ⟨announced, lines, readable, rfl⟩ :=
      of_takeLayer (Outcome.mapError_eq_ok_iff.mp layerRead)
    obtain ⟨allAnnounced, allLines, allReadable, rfl⟩ := ih othersRead
    exact ⟨.cons announced allAnnounced, List.forall_mem_cons.mpr ⟨lines, allLines⟩,
      List.forall_mem_cons.mpr ⟨readable, allReadable⟩, by simp⟩

/-! ## Files -/

theorem decode_trimmed (layout : WeightsLayout) (bytes : Bytes) :
    decode layout.trimmed bytes = decode layout bytes := by
  simp only [decode, WeightsLayout.trimmed, takeLayers_trimmed, List.length_map]

theorem of_decode {layout : WeightsLayout} {bytes : Bytes} {file : WeightsFile}
    (done : decode layout bytes = .ok file) :
    Matches layout.trimmed file ∧ file.bytes <+: bytes := by
  obtain ⟨⟨magic, afterMagic⟩, magicRead, done⟩ := Outcome.bind_eq_ok_iff.mp done
  obtain ⟨sameMagic, done⟩ := Outcome.of_refusal done
  obtain ⟨⟨model, afterModel⟩, modelRead, done⟩ := Outcome.bind_eq_ok_iff.mp done
  obtain ⟨sameModel, done⟩ := Outcome.of_refusal done
  obtain ⟨⟨count, afterCount⟩, countRead, done⟩ := Outcome.bind_eq_ok_iff.mp done
  obtain ⟨sameCount, done⟩ := Outcome.of_refusal done
  obtain ⟨⟨layers, afterLayers⟩, layersRead, done⟩ := Outcome.bind_eq_ok_iff.mp done
  obtain ⟨ended, result⟩ := Outcome.of_refusal done
  obtain rfl := not_not.mp sameMagic
  obtain rfl := not_not.mp sameModel
  cases result
  obtain ⟨-, rfl⟩ := of_takeBytes (Outcome.mapError_eq_ok_iff.mp magicRead)
  obtain ⟨title, rfl⟩ := of_takeLine_bytes (Outcome.mapError_eq_ok_iff.mp modelRead)
  obtain ⟨length, rfl⟩ := of_takeWords (Outcome.mapError_eq_ok_iff.mp countRead)
  obtain ⟨announced, lines, readable, rfl⟩ := of_takeLayers layersRead
  obtain ⟨word, rfl⟩ := List.length_eq_one_iff.mp length
  have found : word.toNat = layers.length := by
    rw [← announced.length_eq, List.length_map]
    exact not_not.mp sameCount
  refine ⟨⟨rfl, announced, title, found ▸ word.toNat_lt, lines, readable⟩,
    afterLayers.drop weightsEnd.length, ?_⟩
  -- The end marker is the only part that is compared without being split off.
  have tail := List.take_append_drop weightsEnd.length afterLayers
  rw [not_not.mp ended] at tail
  conv_rhs => rw [← tail]
  simp [WeightsFile.bytes, ← found, wordBytes]

/-- The results of reads are the files that match the layout, found at the start of the data. -/
theorem decode_eq_ok_iff {layout : WeightsLayout} {bytes : Bytes} {file : WeightsFile} :
    decode layout bytes = .ok file ↔ Matches layout.trimmed file ∧ file.bytes <+: bytes := by
  constructor
  · exact of_decode
  · rintro ⟨described, rest, rfl⟩
    rw [← decode_trimmed]
    exact decode_append described rest

/-- Data that are read with the same result under a layout start with the same bytes, which are the
serialization of that result and end with the end marker; any bytes may stand behind them. -/
theorem same_prefix_of_decode {layout : WeightsLayout} {left right : Bytes} {file : WeightsFile}
    (first : decode layout left = .ok file) (second : decode layout right = .ok file) :
    weightsEnd <:+ file.bytes ∧ file.bytes <+: left ∧ file.bytes <+: right ∧
      ∀ rest, decode layout (file.bytes ++ rest) = .ok file := by
  obtain ⟨described, before⟩ := decode_eq_ok_iff.mp first
  obtain ⟨-, again⟩ := decode_eq_ok_iff.mp second
  refine ⟨List.suffix_append _ _, before, again, fun rest => ?_⟩
  exact decode_eq_ok_iff.mpr ⟨described, List.prefix_append _ _⟩

/-- The layout of a layer with a vast tensor and a row, and with one more rank than tensors. -/
def vastLayout : WeightsLayout :=
  { model := "net"
    layers := [{ name := "dense", op := "Gemm", tensors := ["vast", "row"], ranks := [4, 2, 9],
                 zeroBias := true }] }

/-- The vast tensor has so many elements that their machine count is zero: it has no data. -/
def vastFile : WeightsFile :=
  { model := "net"
    layers := [{ name := "dense", op := "Gemm", zeroBias := true
                 entries := [⟨"vast", [65536, 65536, 65536, 65536], [], true⟩,
                   ⟨"row", [1, 1, 2], [⟨0x3f800000⟩, ⟨0x7fc00001⟩], false⟩] }] }

private theorem matches_vast : Matches vastLayout.trimmed vastFile where
  model := rfl
  announced := .cons ⟨rfl, rfl, rfl, .cons rfl (.cons rfl .nil), rfl⟩ .nil
  title := by unfold OneLine; decide
  few := by decide
  lines := by unfold OneLine; decide
  readable := by
    have counts : ∀ layer ∈ vastFile.layers, ∀ entry ∈ layer.entries,
        fieldProduct entry.dims = Int64.ofNat entry.data.length ∧
          entry.data.length < 2 ^ 63 ∧ (entry.repeated = true ↔ entry.data = []) := by decide
    intro layer member entry listed
    obtain ⟨count, small, repeats⟩ := counts layer member entry listed
    exact ⟨count, small, repeats⟩

/-- The same contents, with and without a byte behind the end marker. -/
theorem same_prefix_of_decode_vast :
    decode vastLayout vastFile.bytes = .ok vastFile ∧
      decode vastLayout (vastFile.bytes ++ [0xff]) = .ok vastFile ∧
      vastFile.bytes <+: vastFile.bytes ++ [0xff] := by
  have plain : decode vastLayout vastFile.bytes = .ok vastFile :=
    decode_eq_ok_iff.mpr ⟨matches_vast, List.prefix_rfl⟩
  have longer : decode vastLayout (vastFile.bytes ++ [0xff]) = .ok vastFile :=
    decode_eq_ok_iff.mpr ⟨matches_vast, List.prefix_append _ _⟩
  obtain ⟨-, -, again, -⟩ := same_prefix_of_decode plain longer
  exact ⟨plain, longer, again⟩

end Weights

end StaticNet
