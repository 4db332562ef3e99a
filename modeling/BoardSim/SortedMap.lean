/-!
# BoardSim.SortedMap

Finite maps as lists of entries in ascending order of their keys.

One order makes the list a normal form: two maps with the same keys and values
are the same list, whatever the history of insertions and removals. The tables
of this library are short, so that the linear search costs nothing.

A table of words has a word under every key. It stores those that are not zero, so
that it too is determined by what is read from it.
-/

namespace BoardSim

/-- A finite map, as its entries in ascending order of their keys. -/
structure SortedMap (κ ν : Type) where
  entries : List (κ × ν) := []
deriving DecidableEq

namespace SortedMap

variable {κ ν : Type}

/-- The map without entries. -/
def empty : SortedMap κ ν := ⟨[]⟩

/-- How many keys the map has. -/
def size (map : SortedMap κ ν) : Nat := map.entries.length

/-- The keys, in ascending order. -/
def keys (map : SortedMap κ ν) : List κ := map.entries.map Prod.fst

/-- The value under `key`. -/
def get? [DecidableEq κ] (map : SortedMap κ ν) (key : κ) : Option ν :=
  map.entries.lookup key

/-- Put the entry at its place among `entries`, in place of one with its key. -/
def insertEntry [DecidableEq κ] [LT κ] [DecidableLT κ] (key : κ) (value : ν) :
    List (κ × ν) → List (κ × ν)
  | [] => [(key, value)]
  | entry :: rest =>
    if key < entry.1 then (key, value) :: entry :: rest
    else if key = entry.1 then (key, value) :: rest
    else entry :: insertEntry key value rest

/-- The map with `value` under `key`, in place of what was there. -/
def insert [DecidableEq κ] [LT κ] [DecidableLT κ] (map : SortedMap κ ν) (key : κ) (value : ν) :
    SortedMap κ ν :=
  ⟨insertEntry key value map.entries⟩

/-- The map without an entry under `key`. -/
def erase [DecidableEq κ] (map : SortedMap κ ν) (key : κ) : SortedMap κ ν :=
  ⟨map.entries.filter fun entry => entry.1 ≠ key⟩

/-- The map of the given entries; of two with one key the later stays. -/
def ofList [DecidableEq κ] [LT κ] [DecidableLT κ] (entries : List (κ × ν)) : SortedMap κ ν :=
  entries.foldl (fun map entry => map.insert entry.1 entry.2) empty

/-! ## What is found after a change -/

@[simp] theorem get?_empty [DecidableEq κ] (key : κ) :
    (empty : SortedMap κ ν).get? key = none := rfl

/-- A look-up takes the first entry with the key. -/
theorem lookup_entry [DecidableEq κ] (entry : κ × ν) (rest : List (κ × ν)) (key : κ) :
    (entry :: rest).lookup key = if key = entry.1 then some entry.2 else rest.lookup key := by
  obtain ⟨first, value⟩ := entry
  rw [List.lookup_cons]
  by_cases h : key = first
  · simp [h]
  · have : (key == first) = false := by simpa using h
    simp [h, this]

/-- An insertion changes what is found under its own key and under no other. -/
theorem lookup_insertEntry [DecidableEq κ] [LT κ] [DecidableLT κ] (key : κ) (value : ν)
    (entries : List (κ × ν)) (other : κ) :
    (insertEntry key value entries).lookup other =
      if other = key then some value else entries.lookup other := by
  induction entries with
  | nil => simp [insertEntry, lookup_entry]
  | cons entry rest ih =>
    unfold insertEntry
    split
    · rw [lookup_entry]
    · split
      · subst key
        rw [lookup_entry, lookup_entry]
        split <;> rfl
      · rename_i distinct
        rw [lookup_entry, lookup_entry, ih]
        by_cases h : other = entry.1
        · subst h
          rw [if_pos rfl, if_neg (Ne.symm distinct), if_pos rfl]
        · rw [if_neg h, if_neg h]

@[simp] theorem get?_insert [DecidableEq κ] [LT κ] [DecidableLT κ] (map : SortedMap κ ν)
    (key : κ) (value : ν) (other : κ) :
    (map.insert key value).get? other = if other = key then some value else map.get? other :=
  lookup_insertEntry key value map.entries other

/-- Without its entries a key is not found, and all other keys are as before. -/
theorem lookup_filter_ne [DecidableEq κ] (key other : κ) (entries : List (κ × ν)) :
    (entries.filter fun entry => entry.1 ≠ key).lookup other =
      if other = key then none else entries.lookup other := by
  induction entries with
  | nil => simp
  | cons entry rest ih =>
    rw [List.filter_cons, lookup_entry]
    split
    · rename_i kept
      rw [lookup_entry, ih]
      by_cases h : other = entry.1
      · have : entry.1 ≠ key := by simpa using kept
        rw [if_pos h, if_neg (h ▸ this), if_pos h]
      · rw [if_neg h, if_neg h]
    · rename_i dropped
      have : entry.1 = key := by simpa using dropped
      rw [ih, this]
      split <;> rfl

@[simp] theorem get?_erase [DecidableEq κ] (map : SortedMap κ ν) (key other : κ) :
    (map.erase key).get? other = if other = key then none else map.get? other :=
  lookup_filter_ne key other map.entries

/-! ## Tables of words -/

/-- The word under `key`; one that is not stored is zero. -/
def word [DecidableEq κ] (table : SortedMap κ UInt32) (key : κ) : UInt32 :=
  (table.get? key).getD 0

/-- The table with the word under `key` replaced. -/
def setWord [DecidableEq κ] [LT κ] [DecidableLT κ] (table : SortedMap κ UInt32) (key : κ)
    (value : UInt32) : SortedMap κ UInt32 :=
  if value = 0 then table.erase key else table.insert key value

/-- A word reads as it was set, and no other word changes. -/
theorem word_setWord [DecidableEq κ] [LT κ] [DecidableLT κ] (table : SortedMap κ UInt32)
    (key : κ) (value : UInt32) (other : κ) :
    (table.setWord key value).word other = if other = key then value else table.word other := by
  rw [setWord]
  split
  next hzero =>
    rw [word, get?_erase, hzero]
    split <;> rfl
  next =>
    rw [word, get?_insert]
    split <;> rfl

end SortedMap

end BoardSim
