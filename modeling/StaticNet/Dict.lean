import Std.Data.TreeSet

/-! # Finite maps from names

A `Dict` keeps one entry per name, in the order in which the names were first inserted. Its view
is the lookup function `get?`; the lemmas below say what each operation does to that view.
-/

namespace StaticNet

/-- A finite map from names to values, in order of first insertion. -/
structure Dict (α : Type) where
  entries : List (String × α)
deriving DecidableEq

namespace Dict

variable {α : Type}

/-- The map without entries. -/
def empty : Dict α := ⟨[]⟩

instance : Inhabited (Dict α) := ⟨empty⟩

/-- Replace the entry of a name, or append one when there is none. -/
def insertEntry (name : String) (value : α) : List (String × α) → List (String × α)
  | [] => [(name, value)]
  | (key, old) :: rest =>
      if key = name then (name, value) :: rest else (key, old) :: insertEntry name value rest

/-- The value of a name. -/
def get? (dict : Dict α) (name : String) : Option α := dict.entries.lookup name

/-- Whether a name has an entry. -/
def contains (dict : Dict α) (name : String) : Bool := (dict.get? name).isSome

/-- Set the value of a name. -/
def insert (dict : Dict α) (name : String) (value : α) : Dict α :=
  ⟨insertEntry name value dict.entries⟩

/-- Remove the entry of a name. -/
def erase (dict : Dict α) (name : String) : Dict α :=
  ⟨dict.entries.filter fun entry => entry.1 ≠ name⟩

/-- The names, in order of first insertion. -/
def keys (dict : Dict α) : List String := dict.entries.map Prod.fst

/-- The names in code point order. -/
def sortedKeys (dict : Dict α) : List String := (Std.TreeSet.ofList dict.keys).toList

/-- The number of entries. -/
def size (dict : Dict α) : Nat := dict.entries.length

/-- Insert the pairs from left to right, so that a later pair wins. -/
def ofList (pairs : List (String × α)) : Dict α :=
  pairs.foldl (fun dict pair => dict.insert pair.1 pair.2) empty

@[simp] theorem get?_empty (name : String) : (empty : Dict α).get? name = none := rfl

private theorem lookup_cons_ite (key other : String) (value : α)
    (entries : List (String × α)) :
    ((key, value) :: entries).lookup other =
      if other = key then some value else entries.lookup other := by
  by_cases same : other = key
  · simp [same]
  · have test : (other == key) = false := beq_eq_false_iff_ne.mpr same
    simp [List.lookup_cons, test, same]

private theorem lookup_insertEntry (name other : String) (value : α)
    (entries : List (String × α)) :
    (insertEntry name value entries).lookup other =
      if other = name then some value else entries.lookup other := by
  induction entries with
  | nil => simp [insertEntry, lookup_cons_ite]
  | cons entry rest ih =>
    obtain ⟨key, old⟩ := entry
    rw [insertEntry]
    split
    · next found => subst found; grind [lookup_cons_ite]
    · next found => grind [lookup_cons_ite]

/-- An insertion is seen at its own name and nowhere else. -/
@[simp] theorem get?_insert (dict : Dict α) (name other : String) (value : α) :
    (dict.insert name value).get? other = if other = name then some value else dict.get? other :=
  lookup_insertEntry name other value dict.entries

private theorem lookup_filter_ne (name other : String) (entries : List (String × α)) :
    (entries.filter fun entry => entry.1 ≠ name).lookup other =
      if other = name then none else entries.lookup other := by
  induction entries with
  | nil => simp
  | cons entry rest ih =>
    obtain ⟨key, old⟩ := entry
    by_cases dropped : key = name
    · rw [List.filter_cons_of_neg (by simp [dropped]), ih, lookup_cons_ite]
      grind
    · rw [List.filter_cons_of_pos (by simpa using dropped), lookup_cons_ite, lookup_cons_ite, ih]
      grind

/-- Erasing removes its own name and nothing else. -/
@[simp] theorem get?_erase (dict : Dict α) (name other : String) :
    (dict.erase name).get? other = if other = name then none else dict.get? other :=
  lookup_filter_ne name other dict.entries

end Dict

end StaticNet
