/-! # Lists laid out in chunks

A list is cut into chunks of one size, and lists are laid out row by row, where each row holds parts
of several lists. Cutting out where a part lies in a row gives the part back.
-/

namespace StaticNet

variable {α : Type}

/-- The chunk of a list with a number, where all chunks have one size. -/
def chunk (size : Nat) (data : List α) (number : Nat) : List α :=
  (data.drop (number * size)).take size

theorem length_chunk {size count number : Nat} {data : List α}
    (length : data.length = count * size) (below : number < count) :
    (chunk size data number).length = size := by
  have : (number + 1) * size ≤ count * size := Nat.mul_le_mul_right size below
  rw [Nat.succ_mul] at this
  rw [chunk, List.length_take, List.length_drop]
  omega

/-- Neighbouring chunks make a larger chunk. -/
theorem flatten_map_chunk (size start count : Nat) (data : List α) :
    ((List.range' start count).map (chunk size data)).flatten =
      (data.drop (start * size)).take (count * size) := by
  induction count generalizing start with
  | zero => simp
  | succ count ih =>
    rw [List.range'_succ, List.map_cons, List.flatten_cons, ih, chunk, Nat.succ_mul start,
      ← List.drop_drop, ← List.take_add, Nat.succ_mul count, Nat.add_comm size]

/-- All chunks of a list make the list. -/
theorem flatten_map_chunk_range {size count : Nat} {data : List α}
    (length : data.length = count * size) :
    ((List.range count).map (chunk size data)).flatten = data := by
  rw [List.range_eq_range', flatten_map_chunk, Nat.zero_mul, List.drop_zero, ← length,
    List.take_length]

/-- What is laid out before an entry of a list, the entry, and what is laid out after it. -/
theorem flatten_split {parts : List (List α)} {number : Nat} (below : number < parts.length) :
    parts.flatten = (parts.take number).flatten ++
      (parts[number] ++ (parts.drop (number + 1)).flatten) := by
  rw [← List.flatten_cons, ← List.drop_eq_getElem_cons below, ← List.flatten_append,
    List.take_append_drop]

theorem length_flatten_of_width {rows : List (List α)} {width : Nat}
    (widths : ∀ row ∈ rows, row.length = width) : rows.flatten.length = rows.length * width := by
  rw [List.length_flatten, List.map_eq_replicate_iff.mpr widths, List.sum_replicate_nat]

/-- A row begins where the rows before it end. -/
theorem drop_mul_flatten {rows : List (List α)} {row : List α} {width number : Nat}
    (widths : ∀ row ∈ rows, row.length = width) (listed : rows[number]? = some row) :
    rows.flatten.drop (number * width) = row ++ (rows.drop (number + 1)).flatten := by
  obtain ⟨below, rfl⟩ := List.getElem?_eq_some_iff.mp listed
  have before : (rows.take number).flatten.length = number * width := by
    rw [length_flatten_of_width fun row member => widths row (List.mem_of_mem_take member),
      List.length_take_of_le (Nat.le_of_lt below)]
  rw [flatten_split below, ← before, List.drop_left]

/-- A part of a list of parts, cut out where it lies. -/
theorem take_drop_flatten {parts : List (List α)} {part : List α} {number : Nat}
    (listed : parts[number]? = some part) (rest : List α) :
    ((parts.flatten ++ rest).drop (parts.take number).flatten.length).take part.length = part := by
  obtain ⟨below, rfl⟩ := List.getElem?_eq_some_iff.mp listed
  rw [flatten_split below, List.append_assoc, List.drop_left, List.append_assoc, List.take_left]

end StaticNet
