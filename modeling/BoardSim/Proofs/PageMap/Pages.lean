import BoardSim.Proofs.Device.History
import BoardSim.Proofs.Device.PlainRegisters
import BoardSim.Proofs.SortedMap
import Mathlib.Algebra.BigOperators.Group.Finset.Basic
import Mathlib.Data.Set.Card

/-!
# BoardSim.Proofs.PageMap.Pages

Which pages the host may write, told from the words that the firmware wrote.

A flash offset lies in a page of 4096 bytes, and 32 pages have their bits in one word.

1. a page may be written exactly if the map has its word and its bit is set in what was
   written there last since the reset (`isWritable_iff`, `storesWord`);
2. a write reaches the pages of one word, and can reach any page alone (`OwnBit`);
3. the recorded count is that of the pages that may be written
   (`Canonical.writablePages_eq`): each word is stored once, and its bits are counted page by
   page.
-/

namespace BoardSim.PageMap

open RegisterDevice (perform run kept_of_run StoresWord)
open Flash (Chip)

instance : RegisterDevice PageMap where
  readAt := read
  writeAt := write
  powerUp := reset

/-! ## pages and their bits -/

variable {map : PageMap}

theorem isWritable_iff (map : PageMap) (offset : Nat) :
    map.isWritable offset = true ↔
      offset / 4096 < 32 * map.wordCount ∧
        hasBit (map.get (offset / 4096 / 32)) (offset / 4096 % 32) = true := by
  have hword : offset / 4096 / 32 < map.wordCount ↔ offset / 4096 < 32 * map.wordCount := by omega
  rw [isWritable, Bool.and_eq_true, decide_eq_true_iff]
  exact and_congr_left' hword

/-- What may be done with a page depends on its word alone. -/
theorem isWritable_congr {other : PageMap} {offset : Nat} (hcount : map.wordCount = other.wordCount)
    (hget : map.get (offset / 4096 / 32) = other.get (offset / 4096 / 32)) :
    map.isWritable offset = other.isWritable offset := by
  rw [Bool.eq_iff_iff, isWritable_iff, isWritable_iff, hcount, hget]

/-- The bits of the first words, counted page by page. -/
theorem countP_pages (word : Nat → UInt32) (count : Nat) :
    (List.range (32 * count)).countP (fun page => hasBit (word (page / 32)) (page % 32)) =
      ∑ index ∈ Finset.range count, bitCount (word index) := by
  induction count with
  | zero => rfl
  | succ count ih =>
      have hlast : (List.range 32).countP
          ((fun page => hasBit (word (page / 32)) (page % 32)) ∘ (32 * count + ·)) =
            bitCount (word count) := by
        refine List.countP_congr fun bit hbit => ?_
        have hlt := List.mem_range.mp hbit
        have hindex : (32 * count + bit) / 32 = count := by omega
        have hplace : (32 * count + bit) % 32 = bit := by omega
        rw [Function.comp_apply, hindex, hplace]
      rw [Nat.mul_succ, List.range_add, List.countP_append, List.countP_map, ih, hlast,
        Finset.sum_range_succ]

/-- The pages that may be written are as many as there are bits set in the words. -/
theorem ncard_isWritable (map : PageMap) :
    {page | map.isWritable (4096 * page) = true}.ncard =
      (List.range (32 * map.wordCount)).countP fun page =>
        hasBit (map.get (page / 32)) (page % 32) := by
  have hpages : {page | map.isWritable (4096 * page) = true} =
      ((List.range (32 * map.wordCount)).filter fun page =>
        hasBit (map.get (page / 32)) (page % 32)).toFinset := by
    ext page
    simp [isWritable_iff]
  rw [hpages, Set.ncard_coe_finset,
    List.toFinset_card_of_nodup (List.nodup_range.filter _), List.countP_eq_length_filter]

/-! ## stored words -/

/-- The map stores words that it has and that are not zero. -/
def Canonical (map : PageMap) : Prop := map.words.Sparse (· < map.wordCount)

namespace Canonical

theorem set (h : map.Canonical) {index : Nat} (hindex : index < map.wordCount) (value : UInt32) :
    (map.set index value).Canonical :=
  SortedMap.Sparse.setWord h hindex value

theorem writablePages_eq_sum (h : map.Canonical) :
    map.writablePages = ∑ index ∈ Finset.range map.wordCount, bitCount (map.get index) := by
  have hentries : map.words.entries.map (fun entry => bitCount entry.2) =
      map.words.keys.map fun index => bitCount (map.get index) := by
    rw [SortedMap.keys, List.map_map]
    refine List.map_congr_left fun entry hmem => ?_
    rw [Function.comp_apply, PageMap.get, ((SortedMap.Sparse.mem_iff h).mp hmem).1]
  calc map.writablePages
      = (map.words.entries.map fun entry => bitCount entry.2).sum := rfl
    _ = ∑ index ∈ map.words.keys.toFinset, bitCount (map.get index) := by
        rw [hentries, List.sum_toFinset _ h.sorted.nodup_keys]
    _ = ∑ index ∈ Finset.range map.wordCount, bitCount (map.get index) := by
        refine Finset.sum_subset (fun index hmem => ?_) fun index _ hmem => ?_
        · obtain ⟨entry, hentry, rfl⟩ := List.mem_map.mp (List.mem_toFinset.mp hmem)
          exact Finset.mem_range.mpr (h.stored entry hentry).2
        · -- A word that is not stored is zero.
          have hzero : map.get index = 0 := by_contra fun hne =>
            hmem (List.mem_toFinset.mpr
              (List.mem_map_of_mem ((SortedMap.Sparse.mem_iff h).mpr ⟨rfl, hne⟩)))
          rw [hzero]
          rfl

/-- **Count**: the pages that may be written, each once. -/
theorem writablePages_eq (h : map.Canonical) :
    map.writablePages = {page | map.isWritable (4096 * page) = true}.ncard := by
  rw [h.writablePages_eq_sum, ncard_isWritable, countP_pages]

end Canonical

theorem ncard_isWritable_le (map : PageMap) :
    {page | map.isWritable (4096 * page) = true}.ncard ≤ 32 * map.wordCount := by
  rw [ncard_isWritable]
  simpa using List.countP_le_length (l := List.range (32 * map.wordCount))

/-! ## single pages -/

/-- The page can be given or refused to the host by a write that reaches no other page. -/
def OwnBit (map : PageMap) (page : Nat) : Prop :=
  ∃ target value : UInt32, 4 ∣ target.toNat ∧ (map.write target value).result = .ok () ∧
    ∀ offset, (map.write target value).state.isWritable offset =
      if offset / 4096 = page then !map.isWritable offset else map.isWritable offset

theorem isWritable_write (map : PageMap) (target value : UInt32) {offset : Nat}
    (h : offset / 4096 / 32 ≠ target.toNat / 4) :
    (map.write target value).state.isWritable offset = map.isWritable offset := by
  rw [write]
  split
  next =>
    refine isWritable_congr (wordCount_set ..) ?_
    rw [Reply.state_accept, get_set, if_neg h]
  next => rfl

/-- A word with one of its bits turned. -/
theorem hasBit_turn (word : UInt32) {bit : Nat} (hbit : bit < 32) (i : Nat) :
    hasBit (word ^^^ UInt32.ofNat (2 ^ bit)) i =
      if i = bit then !hasBit word i else hasBit word i := by
  have hmask : (UInt32.ofNat (2 ^ bit)).toNat = 2 ^ bit :=
    UInt32.toNat_ofNat_of_lt' (Nat.pow_lt_pow_right (by decide) hbit)
  rw [hasBit, hasBit, UInt32.toNat_xor, Nat.testBit_xor, hmask, Nat.testBit_two_pow]
  by_cases h : i = bit
  · simp [h]
  · simp [h, Ne.symm h]

/-- Every page that the map has can be turned alone, through the word of its bit. -/
theorem ownBit (map : PageMap) {page : Nat} (hpage : page < 32 * map.wordCount)
    (hcount : 4 * map.wordCount < 2 ^ 32) : map.OwnBit page := by
  have hindex : page / 32 < map.wordCount := by omega
  have htarget : (UInt32.ofNat (4 * (page / 32))).toNat = 4 * (page / 32) :=
    UInt32.toNat_ofNat_of_lt' (show 4 * (page / 32) < 2 ^ 32 by omega)
  have hword : (UInt32.ofNat (4 * (page / 32))).toNat / 4 = page / 32 := by omega
  refine ⟨UInt32.ofNat (4 * (page / 32)),
    map.get (page / 32) ^^^ UInt32.ofNat (2 ^ (page % 32)), ?_, ?_, fun offset => ?_⟩
  · rw [htarget]
    exact Nat.dvd_mul_right ..
  · rw [write, hword, if_pos hindex, Reply.result_accept]
  · by_cases hsame : offset / 4096 / 32 = page / 32
    · have hbit : offset / 4096 % 32 = page % 32 ↔ offset / 4096 = page := by omega
      have hhas : map.isWritable offset = hasBit (map.get (page / 32)) (offset / 4096 % 32) := by
        simp [isWritable, pageSize, pagesPerWord, hsame, hindex]
      rw [hhas, write, hword, if_pos hindex, Reply.state_accept]
      simp [isWritable, pageSize, pagesPerWord, hsame, hindex,
        hasBit_turn _ (Nat.mod_lt page (by decide)), hbit]
    · have hother : offset / 4096 ≠ page := fun heq => hsame (by rw [heq])
      rw [isWritable_write map _ _ (by rwa [hword]), if_neg hother]

/-! ## runs -/

/-- A map of this chip with this many words stores words that it has and that are not zero. -/
structure Covers (chip : Chip) (count : Nat) (map : PageMap) : Prop where
  canonical : map.Canonical
  chip_eq : map.chip = chip
  count_eq : map.wordCount = count

variable {chip : Chip} {count : Nat}

theorem covers_fresh (chip : Chip) (span : UInt32) :
    Covers chip (span.toNat / 4) (fresh chip span) :=
  ⟨SortedMap.Sparse.empty _, rfl, rfl⟩

/-- **Step**: no access changes the chip or the extent of the map, or stores a word beyond. -/
theorem covers_perform (map : PageMap) (access : DeviceAccess) (h : Covers chip count map) :
    Covers chip count (perform map access).state := by
  cases access with
  | reset => exact ⟨SortedMap.Sparse.empty _, h.chip_eq, h.count_eq⟩
  | read offset =>
      change Covers chip count (map.read offset).state
      rwa [state_read]
  | write target value =>
      change Covers chip count (map.write target value).state
      rw [write]
      split
      next hindex =>
        exact ⟨h.canonical.set hindex value, h.chip_eq, h.count_eq⟩
      next => exact h

/-- A word of the map is stored as it is written, at any of its four offsets.  A write that
is refused goes to no such word. -/
theorem storesWord {index : Nat} (hindex : index < count) :
    StoresWord (Covers chip count) (fun map => map.get index) (·.toNat / 4 = index) where
  keeps := covers_perform
  read map offset _ := congrArg (get · index) (map.state_read offset)
  write map target value h := by
    change (map.write target value).state.get index = _
    rw [write]
    split
    next => simp [eq_comm]
    next houtside =>
      have hother : target.toNat / 4 ≠ index := by
        rintro rfl
        exact houtside (h.count_eq ▸ hindex)
      simp [hother]
  reset _ := rfl

/-- **Writable pages** after any sequence of accesses, accepted or not, to a map whose count
of pages fits into a word.  The page of a flash offset may be written exactly if the map has
it and its bit is set in what was written last to its word since the reset.  A write reaches
the pages of one word.  The recorded count is that of the pages that may be written.  A map
of 0x800 bytes has a bit of its own for each page of 64 MiB and none beyond. -/
theorem pages_of_run (chip : Chip) {span : UInt32} (hspan : span.toNat < 2 ^ 29)
    (accesses : List DeviceAccess) :
    let map := run (fresh chip span) accesses
    let count := {page | map.isWritable (4096 * page) = true}.ncard
    (∀ offset, map.isWritable offset = true ↔
      offset / 4096 < 32 * (span.toNat / 4) ∧
        hasBit (DeviceAccess.lastWritten (·.toNat / 4 = offset / 4096 / 32) accesses)
          (offset / 4096 % 32) = true) ∧
    (∀ (target value : UInt32) (offset : Nat), offset / 4096 / 32 ≠ target.toNat / 4 →
      (map.write target value).state.isWritable offset = map.isWritable offset) ∧
    map.snapshot = .record [("device", .text chip.name), ("writable_pages", .number count)] ∧
    count < 2 ^ 32 ∧
    (span = 0x800 →
      (∀ page, 4096 * page < 64 * 2 ^ 20 → map.OwnBit page) ∧
      ∀ offset, 64 * 2 ^ 20 ≤ offset → map.isWritable offset = false) := by
  intro map count
  have h : Covers chip (span.toNat / 4) map :=
    kept_of_run covers_perform (covers_fresh chip span) accesses
  refine ⟨fun offset => ?_, fun target value offset => map.isWritable_write target value,
    ?_, ?_, ?_⟩
  · rw [isWritable_iff, h.count_eq]
    refine and_congr_right fun hpage => ?_
    have hindex : offset / 4096 / 32 < span.toNat / 4 := by omega
    have hword : map.get (offset / 4096 / 32) = _ :=
      (storesWord hindex).of_run (covers_fresh chip span) rfl accesses
    rw [hword]
  · rw [snapshot, h.chip_eq, h.canonical.writablePages_eq]
  · have hle := map.ncard_isWritable_le
    rw [h.count_eq] at hle
    omega
  · rintro rfl
    have hcount : map.wordCount = 512 := h.count_eq
    refine ⟨fun page hpage => map.ownBit (by omega) (by omega), fun offset hoffset => ?_⟩
    rw [Bool.eq_false_iff, ne_eq, isWritable_iff, hcount]
    omega

/-- Two pages of the second word are given to the host; a write beyond the map is refused. -/
theorem pages_of_run_two :
    let span : UInt32 := 0x800
    let map := run (fresh .bmc span) [.write 0x4 0b101, .write span 1]
    span.toNat < 2 ^ 29 ∧
    map.isWritable (34 * 4096 + 0x10) = true ∧
    {page | map.isWritable (4096 * page) = true}.ncard = 2 ∧
    map.OwnBit 16383 ∧
    map.isWritable (64 * 2 ^ 20) = false := by
  intro span map
  have hspan : span.toNat < 2 ^ 29 := by decide
  obtain ⟨hwritable, -, hsnapshot, -, hlarge⟩ :=
    pages_of_run .bmc hspan [.write 0x4 0b101, .write span 1]
  have hcount : {page | map.isWritable (4096 * page) = true}.ncard = 2 := by
    have hfields := Snapshot.record.inj hsnapshot
    simp only [List.cons.injEq, Prod.mk.injEq, Snapshot.number.injEq, true_and, and_true] at hfields
    exact hfields.2.symm.trans (by decide)
  exact ⟨hspan, (hwritable _).mpr ⟨by decide, by decide⟩, hcount,
    (hlarge rfl).1 16383 (by decide), (hlarge rfl).2 _ (Nat.le_refl _)⟩

end BoardSim.PageMap
