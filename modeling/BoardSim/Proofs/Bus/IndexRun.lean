import BoardSim.Proofs.Bus.RangeIndex

/-!
# BoardSim.Proofs.Bus.IndexRun

The index of address ranges through all that is done to it.

An index that began empty stays canonical whatever is inserted, refused, looked up and
cleared (`Canonical.run`).  So what it says after inspecting two neighbours holds of all
its ranges: a range is refused exactly if it is empty or meets one of them, and the one
that is named begins before all others that it meets (`insert_eq_overlaps_iff`).

Two ranges meet where an address of the bus lies in both.  Their ends do not matter for
that, which may lie past the last address: ranges that overlap share the base of the one
that begins later (`overlaps_iff_meets`).
-/

namespace BoardSim

namespace AddressRange

/-- Some address of the bus lies in both ranges. -/
def Meets (a b : AddressRange) : Prop :=
  ∃ address, a.contains address = true ∧ b.contains address = true

theorem contains_base {range : AddressRange} (h : 0 < range.span.toNat) :
    range.contains range.base = true :=
  (contains_iff ..).mpr ⟨Nat.le_refl _, Nat.lt_add_of_pos_right h⟩

/-- Ranges that are not empty overlap exactly if some address of the bus lies in both. -/
theorem overlaps_iff_meets {a b : AddressRange} (ha : 0 < a.span.toNat) (hb : 0 < b.span.toNat) :
    a.overlaps b = true ↔ a.Meets b := by
  rw [overlaps_iff]
  constructor
  · rintro ⟨hab, hba⟩
    by_cases hle : a.base.toNat ≤ b.base.toNat
    · exact ⟨b.base, (contains_iff ..).mpr ⟨hle, hba⟩, contains_base hb⟩
    · have hge : b.base.toNat ≤ a.base.toNat := Nat.le_of_not_le hle
      exact ⟨a.base, contains_base ha, (contains_iff ..).mpr ⟨hge, hab⟩⟩
  · rintro ⟨address, hina, hinb⟩
    rw [contains_iff] at hina hinb
    exact ⟨Nat.lt_of_le_of_lt hina.1 hinb.2, Nat.lt_of_le_of_lt hinb.1 hina.2⟩

end AddressRange

namespace RangeIndex

/-! ## regions of a canonical index -/

variable {index : RangeIndex}

/-- Two regions do not begin at the same base. -/
theorem Canonical.eq_of_base_eq (h : index.Canonical) {a b : Region} (ha : a ∈ index.regions)
    (hb : b ∈ index.regions) (hbase : a.range.base.toNat = b.range.base.toNat) : a = b := by
  by_contra hne
  have hina : a.range.Covers a.range.base.toNat :=
    ⟨Nat.le_refl _, Nat.lt_add_of_pos_right (h.nonempty a ha)⟩
  have hinb : b.range.Covers a.range.base.toNat := by
    rw [hbase]
    exact ⟨Nat.le_refl _, Nat.lt_add_of_pos_right (h.nonempty b hb)⟩
  exact h.disjoint ha hb hne _ ⟨hina, hinb⟩

/-- No address lies in two regions. -/
theorem Canonical.eq_of_meets (h : index.Canonical) {a b : Region} (ha : a ∈ index.regions)
    (hb : b ∈ index.regions) (hmeets : a.range.Meets b.range) : a = b := by
  obtain ⟨address, hina, hinb⟩ := hmeets
  rw [AddressRange.contains_iff_covers] at hina hinb
  by_contra hne
  exact h.disjoint ha hb hne _ ⟨hina, hinb⟩

/-- A range overlaps a region exactly if it meets it. -/
theorem Canonical.overlaps_iff (h : index.Canonical) {range : AddressRange}
    (hspan : 0 < range.span.toNat) {region : Region} (hregion : region ∈ index.regions) :
    region.range.overlaps range = true ↔ region.range.Meets range :=
  AddressRange.overlaps_iff_meets (h.nonempty region hregion) hspan

/-- **Refusal**: the range that is named as being in the way is the first of those that
the new range meets. -/
theorem insert_eq_overlaps_iff (h : index.Canonical) (range : AddressRange) (slot other : Nat) :
    index.insert range slot = .error (.overlaps other) ↔
      0 < range.span.toNat ∧
        ∃ region ∈ index.regions, region.slot = other ∧ region.range.Meets range ∧
          ∀ rival ∈ index.regions, rival.range.Meets range →
            region.range.base.toNat ≤ rival.range.base.toNat := by
  constructor
  · intro hinsert
    obtain ⟨hspan, region, hregion, hslot, hoverlap, hfirst⟩ := insert_eq_overlaps h hinsert
    refine ⟨hspan, region, hregion, hslot, (h.overlaps_iff hspan hregion).mp hoverlap, ?_⟩
    intro rival hrival hmeets
    exact hfirst rival hrival ((h.overlaps_iff hspan hrival).mpr hmeets)
  · rintro ⟨hspan, region, hregion, rfl, hmeets, hfirst⟩
    have hoverlap := (h.overlaps_iff hspan hregion).mpr hmeets
    cases hinsert : index.insert range slot with
    | ok after =>
        have hdisjoint := disjoint_of_insert h hinsert hregion
        have hclear :=
          (AddressRange.not_overlaps_iff (h.nonempty region hregion) hspan).mpr hdisjoint
        exact absurd hoverlap hclear
    | error conflict =>
        cases conflict with
        | empty =>
            rw [(insert_eq_empty_iff ..).mp hinsert] at hspan
            exact absurd hspan (Nat.lt_irrefl 0)
        | overlaps named =>
            -- The region that was named begins first as well, so it is the same one.
            obtain ⟨-, rival, hrival, rfl, hrivals, hrivalfirst⟩ := insert_eq_overlaps h hinsert
            have hle := hfirst rival hrival ((h.overlaps_iff hspan hrival).mp hrivals)
            have hge := hrivalfirst region hregion hoverlap
            rw [h.eq_of_base_eq hregion hrival (Nat.le_antisymm hle hge)]

/-- A range is accepted exactly if it has addresses and meets no region. -/
theorem insert_isOk_iff_meets (h : index.Canonical) (range : AddressRange) (slot : Nat) :
    (∃ after, index.insert range slot = .ok after) ↔
      0 < range.span.toNat ∧ ∀ region ∈ index.regions, ¬ region.range.Meets range := by
  rw [insert_isOk_iff h]
  refine and_congr_right fun hspan => forall₂_congr fun region hregion => ?_
  rw [← h.overlaps_iff hspan hregion,
    AddressRange.not_overlaps_iff (h.nonempty region hregion) hspan]

/-- An accepted range makes the index one region longer. -/
theorem size_insert {after : RangeIndex} {range : AddressRange} {slot : Nat}
    (hinsert : index.insert range slot = .ok after) : after.size = index.size + 1 := by
  have hcut : index.size = (index.regions.takeWhile (Region.startsBelow range.base)).length +
      (index.regions.dropWhile (Region.startsBelow range.base)).length := by
    rw [← List.length_append, List.takeWhile_append_dropWhile, size]
  rw [size, (insert_eq_ok hinsert).2.2, List.length_append, List.length_cons, hcut, Nat.add_assoc]

/-! ## what is done to an index -/

/-- Something that is done to an index. -/
inductive Operation where
  | insert (range : AddressRange) (slot : Nat)
  | lookup (address : UInt32)
  | clear

/-- The index after an operation; a range that is refused leaves it as it is. -/
def perform (index : RangeIndex) : Operation → RangeIndex
  | .insert range slot =>
      match index.insert range slot with
      | .ok after => after
      | .error _ => index
  | .lookup _ => index
  | .clear => empty

/-- The index after a sequence of operations. -/
def run (index : RangeIndex) (operations : List Operation) : RangeIndex :=
  operations.foldl perform index

theorem Canonical.perform (h : index.Canonical) (operation : Operation) :
    (index.perform operation).Canonical := by
  cases operation with
  | insert range slot =>
      simp only [RangeIndex.perform]
      split
      next after hinsert => exact canonical_insert h hinsert
      next => exact h
  | lookup address => exact h
  | clear => exact canonical_empty

theorem Canonical.run (h : index.Canonical) (operations : List Operation) :
    (index.run operations).Canonical := by
  induction operations generalizing index with
  | nil => exact h
  | cons operation rest ih => exact ih (h.perform operation)

/-- **Every index**: whatever was done to an index that began empty, its ranges are not
empty, have different bases and ascend in these, and no address lies in two of them.  A
range is refused as empty exactly if it is, and else exactly if it meets ranges of the
index, and then for the first of these; a refused range changes nothing, and an accepted
one is added and nothing else is.  A look-up finds the one range that contains the
address.  Any two ranges that are not empty overlap, in either order, exactly if an
address of the bus lies in both. -/
theorem ranges_of_run (operations : List Operation) :
    let index := empty.run operations
    (∀ region ∈ index.regions, 0 < region.range.span.toNat) ∧
    index.regions.Pairwise (fun a b => a.range.base < b.range.base) ∧
    index.regions.Pairwise (fun a b => a.range.Disjoint b.range) ∧
    (∀ range slot, index.insert range slot = .error .empty ↔ range.span = 0) ∧
    (∀ range slot other, index.insert range slot = .error (.overlaps other) ↔
      range.span ≠ 0 ∧
        ∃ region ∈ index.regions, region.slot = other ∧ region.range.Meets range ∧
          ∀ rival ∈ index.regions, rival.range.Meets range →
            region.range.base ≤ rival.range.base) ∧
    (∀ range slot, (∃ after, index.insert range slot = .ok after) ↔
      range.span ≠ 0 ∧ ∀ region ∈ index.regions, ¬ region.range.Meets range) ∧
    (∀ range slot conflict, index.insert range slot = .error conflict →
      index.perform (.insert range slot) = index) ∧
    (∀ range slot after, index.insert range slot = .ok after →
      index.perform (.insert range slot) = after ∧ after.size = index.size + 1 ∧
        ∀ region, region ∈ after.regions ↔ region = ⟨range, slot⟩ ∨ region ∈ index.regions) ∧
    (∀ address slot, index.lookup address = some slot ↔
      ∃ region ∈ index.regions, region.range.contains address = true ∧ region.slot = slot ∧
        ∀ rival ∈ index.regions, rival.range.contains address = true → rival = region) ∧
    (∀ address, index.lookup address = none ↔
      ∀ region ∈ index.regions, ¬ region.range.contains address = true) ∧
    ∀ a b : AddressRange, a.span ≠ 0 → b.span ≠ 0 →
      a.overlaps b = b.overlaps a ∧
        (a.overlaps b = true ↔
          ∃ address, a.contains address = true ∧ b.contains address = true) := by
  have h : (empty.run operations).Canonical := canonical_empty.run operations
  have hspan (range : AddressRange) : range.span ≠ 0 ↔ 0 < range.span.toNat := by
    rw [Nat.pos_iff_ne_zero, ne_eq, ne_eq, ← UInt32.toNat_inj]
    rfl
  intro index
  refine ⟨h.nonempty, ?_, h.ordered.imp AddressRange.Before.disjoint, ?_, ?_, ?_, ?_, ?_, ?_,
    lookup_eq_none_iff h, ?_⟩
  · exact h.base_lt.imp fun hlt => UInt32.lt_iff_toNat_lt.mpr hlt
  · intro range slot
    rw [insert_eq_empty_iff, ← UInt32.toNat_inj]
    rfl
  · intro range slot other
    simp only [hspan, UInt32.le_iff_toNat_le]
    exact insert_eq_overlaps_iff h range slot other
  · intro range slot
    rw [insert_isOk_iff_meets h, hspan]
  · intro range slot conflict hinsert
    simp only [perform, hinsert]
  · intro range slot after hinsert
    refine ⟨?_, size_insert hinsert, mem_insert hinsert⟩
    simp only [perform, hinsert]
  · intro address slot
    rw [lookup_eq_some_iff h]
    constructor
    · rintro ⟨region, hregion, hcontains, hslot⟩
      refine ⟨region, hregion, hcontains, hslot, fun rival hrival hother => ?_⟩
      exact h.eq_of_meets hrival hregion ⟨address, hother, hcontains⟩
    · rintro ⟨region, hregion, hcontains, hslot, -⟩
      exact ⟨region, hregion, hcontains, hslot⟩
  · intro a b ha hb
    refine ⟨AddressRange.overlaps_comm a b, ?_⟩
    exact AddressRange.overlaps_iff_meets ((hspan a).mp ha) ((hspan b).mp hb)

end RangeIndex

end BoardSim
