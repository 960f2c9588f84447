import Mathlib.Data.List.Nodup
import Mathlib.Data.List.Perm.Subperm
import Mathlib.Data.Nat.Init
import StaticNet.Storage.Pool
import Std.Data.String.ToNat

/-! # Fresh names

The numbered variants of a name are all different, so one of them is always free and a fresh name,
the first of them that is free, is never taken. Names that are made from texts start with a letter
or an underscore and go on with letters, digits and underscores, and so do their variants.
-/

namespace StaticNet

theorem numberedName_injective (name : String) : Function.Injective (numberedName name) := by
  intro first second same
  unfold numberedName at same
  split at same
  · split at same
    · omega
    · have lengths := congrArg String.length same
      simp only [String.length_append] at lengths
      have one : "_".length = 1 := rfl
      omega
  · split at same
    · have lengths := congrArg String.length same
      simp only [String.length_append] at lengths
      have one : "_".length = 1 := rfl
      omega
    · have characters := congrArg String.toList same
      simp only [String.toList_append] at characters
      exact Nat.repr_injective (String.toList_inj.mp (List.append_cancel_left characters))

/-- Among more variants than there are taken names, one is not taken. -/
theorem exists_free (taken : List String) (name : String) :
    ∃ number ∈ List.range (taken.length + 1), numberedName name number ∉ taken := by
  by_contra none
  push Not at none
  have distinct : ((List.range (taken.length + 1)).map (numberedName name)).Nodup :=
    List.Nodup.map (numberedName_injective name) List.nodup_range
  have taking : (List.range (taken.length + 1)).map (numberedName name) ⊆ taken := by
    intro candidate member
    obtain ⟨number, inside, rfl⟩ := List.mem_map.mp member
    exact none number inside
  have few := (List.subperm_of_subset distinct taking).length_le
  rw [List.length_map, List.length_range] at few
  omega

/-- A fresh name is the first numbered variant that is not taken. -/
theorem freshName_spec (taken : List String) (name : String) :
    ∃ number, freshName taken name = numberedName name number ∧
      numberedName name number ∉ taken ∧
      ∀ earlier < number, numberedName name earlier ∈ taken := by
  obtain ⟨number, inside, free⟩ := exists_free taken name
  rw [freshName]
  cases found : (List.range (taken.length + 1)).findSome? fun number =>
      if taken.contains (numberedName name number) then none
      else some (numberedName name number) with
  | none =>
    have refused := List.findSome?_eq_none_iff.mp found number inside
    simp [free] at refused
  | some candidate =>
    obtain ⟨before, chosen, after, split, accepted, refused⟩ :=
      List.findSome?_eq_some_iff.mp found
    rw [List.range_eq_range', List.range'_eq_append_iff] at split
    obtain ⟨count, -, rfl, rest⟩ := split
    rw [Nat.mul_one, Nat.zero_add] at rest
    obtain ⟨rfl, -⟩ := List.range'_eq_cons_iff.mp rest.symm
    split at accepted
    · cases accepted
    · next unlisted =>
      refine ⟨count, (Option.some.inj accepted).symm,
        fun member => unlisted (List.contains_iff_mem.mpr member), fun earlier below => ?_⟩
      have listed := refused earlier (List.mem_range'_1.mpr (by omega))
      by_contra unlisted
      simp [unlisted] at listed

/-- A fresh name starts with the name that was asked for. -/
theorem freshName_eq_append (taken : List String) (name : String) :
    ∃ rest, freshName taken name = name ++ rest := by
  obtain ⟨number, same, -⟩ := freshName_spec taken name
  rw [same, numberedName]
  split
  · exact ⟨"", (String.append_empty).symm⟩
  · exact ⟨"_" ++ toString number, String.append_assoc⟩

/-- A name that was chosen fresh is not taken. -/
theorem freshName_not_mem (taken : List String) (name : String) : freshName taken name ∉ taken := by
  obtain ⟨number, same, free, -⟩ := freshName_spec taken name
  rwa [same]

/-- Trying the variants of a name in order, from a number on, ends with the first one that is not
taken. -/
inductive Search (taken : List String) (name : String) : Nat → String → Prop
  | free {number : Nat} : numberedName name number ∉ taken →
      Search taken name number (numberedName name number)
  | next {number : Nat} {found : String} : numberedName name number ∈ taken →
      Search taken name (number + 1) found → Search taken name number found

namespace Search

variable {taken : List String} {name found : String} {number : Nat}

theorem not_mem (search : Search taken name number found) : found ∉ taken := by
  induction search with
  | free absent => exact absent
  | next _ _ ih => exact ih

theorem eq_numberedName (search : Search taken name number found) :
    ∃ chosen, found = numberedName name chosen := by
  induction search with
  | free _ => exact ⟨_, rfl⟩
  | next _ _ ih => exact ih

end Search

/-- The search for a fresh name ends. -/
theorem search_freshName (taken : List String) (name : String) :
    Search taken name 0 (freshName taken name) := by
  obtain ⟨number, same, free, earlier⟩ := freshName_spec taken name
  rw [same]
  have onwards {start : Nat} (before : start ≤ number) :
      Search taken name start (numberedName name number) := by
    induction before using Nat.decreasingInduction with
    | self => exact .free free
    | of_succ start below ih => exact .next (earlier start below) ih
  exact onwards (Nat.zero_le number)

/-! ## Names of the generated code -/

/-- A name starts with a letter or an underscore and goes on with letters, digits and
underscores. -/
def IsName (text : String) : Prop :=
  ∃ first rest, text.toList = first :: rest ∧ (first.isAlpha = true ∨ first = '_') ∧
    ∀ c ∈ rest, c.isAlphanum = true ∨ c = '_'

theorem IsName.append {name : String} (isName : IsName name) {rest : String}
    (chars : ∀ c ∈ rest.toList, c.isAlphanum = true ∨ c = '_') : IsName (name ++ rest) := by
  obtain ⟨first, others, written, start, goesOn⟩ := isName
  refine ⟨first, others ++ rest.toList, ?_, start, fun c member => ?_⟩
  · rw [String.toList_append, written, List.cons_append]
  · exact (List.mem_append.mp member).elim (goesOn c) (chars c)

theorem isDigit_eq (c : Char) : c.isDigit = ('0' ≤ c && c ≤ '9') := rfl

theorem isAlpha_eq (c : Char) : c.isAlpha = ('A' ≤ c && c ≤ 'Z' || 'a' ≤ c && c ≤ 'z') :=
  congrArg (· || _) (Bool.decide_and ('A' ≤ c) (c ≤ 'Z'))

theorem isAlphanum_iff {c : Char} :
    c.isAlphanum = true ↔ c.isAlpha = true ∨ c.isDigit = true := Bool.or_eq_true_iff

theorem isIdentifierChar_iff {c : Char} :
    Text.isIdentifierChar c = true ↔ c.isAlphanum = true ∨ c = '_' := by
  simp only [Text.isIdentifierChar, isAlphanum_iff, isAlpha_eq, isDigit_eq, Bool.or_eq_true,
    decide_eq_true_eq]
  tauto

theorem mem_identifier {text : String} :
    ∀ c ∈ (Text.identifier text).toList, c.isAlphanum = true ∨ c = '_' := by
  intro c member
  rw [Text.identifier, String.toList_ofList] at member
  obtain ⟨char, -, rfl⟩ := List.mem_map.mp member
  split
  · next accepted => exact isIdentifierChar_iff.mp accepted
  · exact .inr rfl

theorem isName_stem (role : Role) (text : String) :
    IsName (role.stem ++ Text.identifier text) := by
  refine IsName.append ?_ mem_identifier
  cases role with
  | managed => exact ⟨'b', "uffer_".toList, rfl, by decide, by simp⟩
  | input => exact ⟨'i', "nput_".toList, rfl, by decide, by simp⟩
  | output => exact ⟨'o', "utput_".toList, rfl, by decide, by simp⟩

theorem isName_symbol (text : String) : IsName (Text.symbol text) := by
  have underscore : IsName "_" := ⟨'_', [], rfl, .inr rfl, nofun⟩
  have chars := @mem_identifier text
  rw [Text.symbol]
  split
  · exact underscore
  · next first rest written =>
    rw [written] at chars
    split
    · exact underscore.append (written ▸ chars)
    · next noDigit =>
      obtain ⟨start, goesOn⟩ := List.forall_mem_cons.mp chars
      refine ⟨first, rest, written, start.imp_left fun accepted => ?_, goesOn⟩
      exact (isAlphanum_iff.mp accepted).resolve_right fun digit => noDigit digit

theorem isName_numberedName {name : String} (isName : IsName name) (number : Nat) :
    IsName (numberedName name number) := by
  rw [numberedName]
  split
  · exact isName
  · rw [String.append_assoc]
    refine isName.append fun c member => ?_
    rw [String.toList_append, List.mem_append, Nat.toString_eq_repr, Nat.toList_repr] at member
    rcases member with underscore | digit
    · exact .inr (List.mem_singleton.mp underscore)
    · have isDigit := Nat.isDigit_of_mem_toDigits (by decide) (by decide) digit
      exact .inl (isAlphanum_iff.mpr (.inr isDigit))

theorem Search.isName {taken : List String} {name found : String} {number : Nat}
    (search : Search taken name number found) (isName : IsName name) : IsName found := by
  obtain ⟨chosen, rfl⟩ := search.eq_numberedName
  exact isName_numberedName isName chosen

end StaticNet
