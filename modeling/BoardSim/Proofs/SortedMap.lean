import BoardSim.SortedMap
import Mathlib.Data.List.Dedup
import Mathlib.Data.List.Nodup

/-!
# BoardSim.Proofs.SortedMap

Maps whose entries are in ascending order of their keys.

All maps are that are made by insertions and removals (`Sorted`).  The entries are then
exactly what is found under the keys (`Sorted.mem_iff`), so that maps in which the same is
found are the same (`Sorted.ext`): how a map came about cannot be told from it.

A table of words that stores no zeros (`Sparse`) is known from the words that are read from
it (`Sparse.ext`), where a key without a word reads as zero.

A map that is made of a list of entries keeps the last one under each key
(`get?_ofList`), and has as many as there are different keys (`size_ofList`).
-/

namespace BoardSim.SortedMap

variable {κ ν : Type} [LT κ]

/-- The entries are in ascending order of their keys. -/
def Sorted (map : SortedMap κ ν) : Prop := map.entries.Pairwise fun a b => a.1 < b.1

theorem sorted_empty : (empty : SortedMap κ ν).Sorted := .nil

theorem Sorted.nodup_keys [Std.Irrefl ((· < ·) : κ → κ → Prop)] {map : SortedMap κ ν}
    (h : map.Sorted) : map.keys.Nodup := by
  refine List.pairwise_map.mpr (List.Pairwise.imp (fun hlt heq => ?_) h)
  rw [heq] at hlt
  exact Std.lt_irrefl hlt

/-! ## what is found in a sorted map -/

section

variable [DecidableEq κ] [Std.Irrefl ((· < ·) : κ → κ → Prop)] {map : SortedMap κ ν}

/-- The entries are what is found under the keys. -/
theorem Sorted.mem_iff (h : map.Sorted) {key : κ} {value : ν} :
    (key, value) ∈ map.entries ↔ map.get? key = some value := by
  rw [get?, List.lookup_eq_some_iff]
  constructor
  · intro hmem
    obtain ⟨before, after, hsplit⟩ := List.append_of_mem hmem
    refine ⟨before, after, hsplit, fun entry hentry => bne_iff_ne.mpr fun heq => ?_⟩
    rw [Sorted, hsplit] at h
    have hlt := (List.pairwise_append.mp h).2.2 entry hentry (key, value) List.mem_cons_self
    rw [heq] at hlt
    exact Std.lt_irrefl hlt
  · rintro ⟨before, after, hsplit, -⟩
    rw [hsplit]
    exact List.mem_append_right _ List.mem_cons_self

theorem Sorted.mem_keys_iff (h : map.Sorted) {key : κ} :
    key ∈ map.keys ↔ (map.get? key).isSome = true := by
  rw [Option.isSome_iff_exists, keys, List.mem_map]
  constructor
  · rintro ⟨⟨key, value⟩, hmem, rfl⟩
    exact ⟨value, h.mem_iff.mp hmem⟩
  · rintro ⟨value, hget⟩
    exact ⟨(key, value), h.mem_iff.mpr hget, rfl⟩

/-- **Normal form**: maps in which the same is found under every key are the same. -/
theorem Sorted.ext [Trans ((· < ·) : κ → κ → Prop) (· < ·) (· < ·)] {other : SortedMap κ ν}
    (h : map.Sorted) (hother : other.Sorted) (hget : ∀ key, map.get? key = other.get? key) :
    map = other := by
  have hmem (entry : κ × ν) : entry ∈ map.entries ↔ entry ∈ other.entries := by
    rw [h.mem_iff, hother.mem_iff, hget]
  have hperm : map.entries.Perm other.entries :=
    (List.perm_ext_iff_of_nodup (.of_map Prod.fst h.nodup_keys)
      (.of_map Prod.fst hother.nodup_keys)).mpr hmem
  have hentries : map.entries = other.entries :=
    hperm.eq_of_pairwise
      (fun a b _ _ hlt hgt => absurd (Std.lt_trans hlt hgt) Std.lt_irrefl) h hother
  cases map
  exact congrArg mk hentries

end

/-! ## insertions and removals -/

section

variable [DecidableEq κ]

theorem Sorted.erase {map : SortedMap κ ν} (h : map.Sorted) (key : κ) : (map.erase key).Sorted :=
  h.filter _

variable [DecidableLT κ]

/-- An insertion puts in its own entry and no other. -/
theorem eq_or_mem_of_mem_insertEntry {key : κ} {value : ν} {entries : List (κ × ν)} {entry : κ × ν}
    (h : entry ∈ insertEntry key value entries) : entry = (key, value) ∨ entry ∈ entries := by
  induction entries with
  | nil => exact .inl (List.mem_singleton.mp h)
  | cons first rest ih => grind [insertEntry]

variable [Std.Trichotomous ((· < ·) : κ → κ → Prop)]
  [Trans ((· < ·) : κ → κ → Prop) (· < ·) (· < ·)]

theorem Sorted.insert {map : SortedMap κ ν} (h : map.Sorted) (key : κ) (value : ν) :
    (map.insert key value).Sorted := by
  obtain ⟨entries⟩ := map
  simp only [Sorted, SortedMap.insert] at h ⊢
  induction entries with
  | nil => exact List.pairwise_singleton ..
  | cons first rest ih =>
      obtain ⟨hfirst, hrest⟩ := List.pairwise_cons.mp h
      rw [insertEntry]
      split
      next hbefore =>
        refine List.pairwise_cons.mpr ⟨fun entry hmem => ?_, h⟩
        obtain rfl | hmem := List.mem_cons.mp hmem
        · exact hbefore
        · exact Std.lt_trans hbefore (hfirst entry hmem)
      next hbefore =>
        split
        next hsame =>
          subst hsame
          exact List.pairwise_cons.mpr ⟨hfirst, hrest⟩
        next hother =>
          -- The keys differ and the new one is not before, so it is after.
          have hafter : first.1 < key := by
            by_contra hnot
            exact hother (Std.Trichotomous.trichotomous key first.1 hbefore hnot)
          refine List.pairwise_cons.mpr ⟨fun entry hmem => ?_, ih hrest⟩
          obtain rfl | hmem := eq_or_mem_of_mem_insertEntry hmem
          · exact hafter
          · exact hfirst entry hmem

theorem sorted_ofList (entries : List (κ × ν)) : (ofList entries).Sorted :=
  List.foldlRecOn entries _ sorted_empty fun _ h entry _ => h.insert entry.1 entry.2

end

/-! ## tables of words -/

/-- The table stores, in order, words other than zero under keys of a kind. -/
structure Sparse (kind : κ → Prop) (table : SortedMap κ UInt32) : Prop where
  sorted : table.Sorted
  stored : ∀ entry ∈ table.entries, entry.2 ≠ 0 ∧ kind entry.1

namespace Sparse

variable {kind : κ → Prop} {table other : SortedMap κ UInt32} {key : κ}

theorem empty (kind : κ → Prop) : (SortedMap.empty : SortedMap κ UInt32).Sparse kind :=
  ⟨sorted_empty, fun _ hmem => nomatch hmem⟩

variable [DecidableEq κ]

theorem setWord [DecidableLT κ] [Std.Trichotomous ((· < ·) : κ → κ → Prop)]
    [Trans ((· < ·) : κ → κ → Prop) (· < ·) (· < ·)] (h : table.Sparse kind) (hkey : kind key)
    (value : UInt32) : (table.setWord key value).Sparse kind := by
  rw [SortedMap.setWord]
  split
  next =>
    exact ⟨h.sorted.erase key, fun entry hmem => h.stored entry (List.mem_of_mem_filter hmem)⟩
  next hvalue =>
    refine ⟨h.sorted.insert key value, fun entry hmem => ?_⟩
    obtain rfl | hold := eq_or_mem_of_mem_insertEntry hmem
    · exact ⟨hvalue, hkey⟩
    · exact h.stored entry hold

variable [Std.Irrefl ((· < ·) : κ → κ → Prop)]

/-- A word is stored exactly if it does not read as zero. -/
theorem mem_iff (h : table.Sparse kind) {value : UInt32} :
    (key, value) ∈ table.entries ↔ table.word key = value ∧ value ≠ 0 := by
  rw [h.sorted.mem_iff, word]
  constructor
  · intro hfound
    exact ⟨by rw [hfound, Option.getD_some], (h.stored _ (h.sorted.mem_iff.mpr hfound)).1⟩
  · rintro ⟨hword, hzero⟩
    cases hfound : table.get? key with
    | none => exact absurd (by rw [← hword, hfound, Option.getD_none]) hzero
    | some stored => rw [← hword, hfound, Option.getD_some]

theorem kind_of_ne_zero (h : table.Sparse kind) (hzero : table.word key ≠ 0) : kind key :=
  (h.stored _ (h.mem_iff.mpr ⟨rfl, hzero⟩)).2

/-- **Tables are known from what they read.** -/
theorem ext [Trans ((· < ·) : κ → κ → Prop) (· < ·) (· < ·)] (h : table.Sparse kind)
    (hother : other.Sparse kind)
    (hword : ∀ key, kind key → table.word key = other.word key) : table = other := by
  have hall (key : κ) : table.word key = other.word key := by
    by_cases hkey : kind key
    · exact hword key hkey
    · have hzero : table.word key = 0 := by_contra fun hne => hkey (h.kind_of_ne_zero hne)
      have hothers : other.word key = 0 := by_contra fun hne => hkey (hother.kind_of_ne_zero hne)
      rw [hzero, hothers]
  refine h.sorted.ext hother.sorted fun key => Option.ext fun value => ?_
  rw [← h.sorted.mem_iff, ← hother.sorted.mem_iff, h.mem_iff, hother.mem_iff, hall]

end Sparse

/-! ## maps of given entries -/

variable [DecidableEq κ] [DecidableLT κ]

/-- Of the entries under a key that are put in one after the other the last stays. -/
theorem get?_foldl_insert (entries : List (κ × ν)) (map : SortedMap κ ν) (key : κ) :
    (entries.foldl (fun map entry => map.insert entry.1 entry.2) map).get? key =
      (entries.reverse.lookup key).or (map.get? key) := by
  induction entries generalizing map with
  | nil => rfl
  | cons entry rest ih =>
      rw [List.foldl_cons, ih, get?_insert, List.reverse_cons, List.lookup_append, lookup_entry,
        Option.or_assoc]
      by_cases h : key = entry.1
      · rw [if_pos h, if_pos h, Option.some_or]
      · rw [if_neg h, if_neg h, List.lookup_nil, Option.none_or]

theorem get?_ofList (entries : List (κ × ν)) (key : κ) :
    (ofList entries).get? key = entries.reverse.lookup key := by
  rw [ofList, get?_foldl_insert, get?_empty, Option.or_none]

variable [Std.Irrefl ((· < ·) : κ → κ → Prop)] [Std.Trichotomous ((· < ·) : κ → κ → Prop)]
  [Trans ((· < ·) : κ → κ → Prop) (· < ·) (· < ·)]

theorem mem_keys_ofList (entries : List (κ × ν)) (key : κ) :
    key ∈ (ofList entries).keys ↔ key ∈ entries.map Prod.fst := by
  rw [(sorted_ofList entries).mem_keys_iff, get?_ofList, List.lookup_isSome_iff]
  simp only [List.mem_reverse, beq_iff_eq, List.mem_map, @eq_comm _ key]

/-- A map made of entries has one under each of their keys. -/
theorem size_ofList (entries : List (κ × ν)) :
    (ofList entries).size = (entries.map Prod.fst).dedup.length := by
  have hkeys (key : κ) : key ∈ (ofList entries).keys ↔ key ∈ (entries.map Prod.fst).dedup := by
    rw [mem_keys_ofList, List.mem_dedup]
  have hperm : (ofList entries).keys.Perm (entries.map Prod.fst).dedup :=
    (List.perm_ext_iff_of_nodup (sorted_ofList entries).nodup_keys
      (List.nodup_dedup _)).mpr hkeys
  rw [size, ← hperm.length_eq, keys, List.length_map]

end BoardSim.SortedMap
