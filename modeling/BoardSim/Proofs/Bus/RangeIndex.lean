import BoardSim.Bus.RangeIndex
import Mathlib.Data.List.Pairwise
import Mathlib.Data.List.TakeWhile

/-!
# BoardSim.Proofs.Bus.RangeIndex

The index of address ranges, as the set of ranges that it holds.

A canonical index lists ranges that are not empty in ascending order, each ending
before the next begins.  On such a list the two short cuts of the index lose
nothing:

* a look-up inspects one candidate, the last range that begins at or below the
  address, and finds the one range that contains it (`lookup_eq_some_iff`);
* an insertion inspects two neighbours, and refuses a range exactly if it is
  empty or shares an address with any range of the index (`insert_isOk_iff`).

An accepted insertion adds the range (`mem_insert`) and leaves the index
canonical (`canonical_insert`).  An index that is filled by insertions alone thus
holds the ranges of a list, each under its position (`Indexes`).
-/

namespace BoardSim

namespace AddressRange

/-- Is the number one of the range's addresses? -/
def Covers (range : AddressRange) (n : Nat) : Prop := range.base.toNat ≤ n ∧ n < range.stop

/-- No number is an address of both ranges. -/
def Disjoint (a b : AddressRange) : Prop := ∀ n, ¬ (a.Covers n ∧ b.Covers n)

/-- The first range ends before the second begins. -/
def Before (a b : AddressRange) : Prop := a.stop ≤ b.base.toNat

theorem base_le_stop (range : AddressRange) : range.base.toNat ≤ range.stop := Nat.le_add_right ..

theorem contains_iff_covers (range : AddressRange) (address : UInt32) :
    range.contains address = true ↔ range.Covers address.toNat := contains_iff range address

theorem overlaps_iff (a b : AddressRange) :
    a.overlaps b = true ↔ a.base.toNat < b.stop ∧ b.base.toNat < a.stop := by
  simp [overlaps]

theorem isEmpty_iff (range : AddressRange) : range.isEmpty = true ↔ range.span.toNat = 0 := by
  rw [isEmpty, decide_eq_true_eq]
  exact ⟨fun h => by rw [h]; rfl, fun h => UInt32.toNat_inj.mp h⟩

instance : Std.Symm Disjoint where
  symm _ _ h n hn := h n ⟨hn.2, hn.1⟩

/-- Of two disjoint ranges the one that begins no later ends before the other. -/
theorem Disjoint.before {a b : AddressRange} (h : a.Disjoint b) (hb : 0 < b.span.toNat)
    (hle : a.base.toNat ≤ b.base.toNat) : a.Before b := by
  refine Nat.le_of_not_lt fun hlt => h b.base.toNat ⟨⟨hle, hlt⟩, Nat.le_refl _, ?_⟩
  exact Nat.lt_add_of_pos_right hb

theorem Before.disjoint {a b : AddressRange} (h : a.Before b) : a.Disjoint b := by
  intro n hn
  exact absurd (Nat.lt_of_lt_of_le hn.1.2 h) (Nat.not_lt_of_le hn.2.1)

/-- Ranges that are not empty overlap exactly if they share an address. -/
theorem not_overlaps_iff {a b : AddressRange} (ha : 0 < a.span.toNat) (hb : 0 < b.span.toNat) :
    ¬ a.overlaps b = true ↔ a.Disjoint b := by
  rw [overlaps_iff]
  constructor
  · intro h n hn
    exact h ⟨Nat.lt_of_le_of_lt hn.1.1 hn.2.2, Nat.lt_of_le_of_lt hn.2.1 hn.1.2⟩
  · intro h hcross
    have hastop : a.base.toNat < a.stop := Nat.lt_add_of_pos_right ha
    have hbstop : b.base.toNat < b.stop := Nat.lt_add_of_pos_right hb
    refine h (max a.base.toNat b.base.toNat) ⟨⟨Nat.le_max_left .., ?_⟩, Nat.le_max_right .., ?_⟩
    · exact Nat.max_lt.mpr ⟨hastop, hcross.2⟩
    · exact Nat.max_lt.mpr ⟨hcross.1, hbstop⟩

end AddressRange

/-! ## cutting an ordered list -/

/-- If a test holds of all that precedes an element of which it holds, the list
is cut into the elements of which it holds and the others. -/
theorem mem_takeWhile_iff {α : Type} {test : α → Bool} {l : List α}
    (h : l.Pairwise fun a b => test b = true → test a = true) (x : α) :
    x ∈ l.takeWhile test ↔ x ∈ l ∧ test x = true := by
  induction l with
  | nil => simp
  | cons a rest ih =>
      obtain ⟨hhead, hrest⟩ := List.pairwise_cons.mp h
      by_cases ha : test a = true
      · rw [List.takeWhile_cons_of_pos ha, List.mem_cons, List.mem_cons, ih hrest]
        constructor
        · rintro (rfl | hx)
          · exact ⟨.inl rfl, ha⟩
          · exact ⟨.inr hx.1, hx.2⟩
        · rintro ⟨rfl | hx, htest⟩
          · exact .inl rfl
          · exact .inr ⟨hx, htest⟩
      · rw [List.takeWhile_cons_of_neg ha]
        constructor
        · exact fun hx => absurd hx List.not_mem_nil
        · rintro ⟨hx, htest⟩
          obtain rfl | hx := List.mem_cons.mp hx
          · exact absurd htest ha
          · exact absurd (hhead x hx htest) ha

/-- Under the same condition the elements of which the test does not hold come
after the cut. -/
theorem mem_dropWhile_iff {α : Type} {test : α → Bool} {l : List α}
    (h : l.Pairwise fun a b => test b = true → test a = true) (x : α) :
    x ∈ l.dropWhile test ↔ x ∈ l ∧ ¬ test x = true := by
  induction l with
  | nil => simp
  | cons a rest ih =>
      obtain ⟨hhead, hrest⟩ := List.pairwise_cons.mp h
      by_cases ha : test a = true
      · rw [List.dropWhile_cons_of_pos ha, List.mem_cons, ih hrest]
        constructor
        · exact fun hx => ⟨.inr hx.1, hx.2⟩
        · rintro ⟨rfl | hx, htest⟩
          · exact absurd ha htest
          · exact ⟨hx, htest⟩
      · rw [List.dropWhile_cons_of_neg ha, List.mem_cons]
        constructor
        · rintro (rfl | hx)
          · exact ⟨.inl rfl, ha⟩
          · exact ⟨.inr hx, fun htest => ha (hhead x hx htest)⟩
        · exact fun hx => hx.1

namespace RangeIndex

/-! ## canonical indices -/

/-- The ranges are not empty, and each ends before the next begins. -/
structure Canonical (index : RangeIndex) : Prop where
  nonempty : ∀ region ∈ index.regions, 0 < region.range.span.toNat
  ordered : index.regions.Pairwise fun a b => a.range.Before b.range

theorem canonical_empty : empty.Canonical where
  nonempty := fun _ h => absurd h List.not_mem_nil
  ordered := .nil

variable {index : RangeIndex}

/-- Each range begins after those that precede it. -/
theorem Canonical.base_lt (h : index.Canonical) :
    index.regions.Pairwise fun a b => a.range.base.toNat < b.range.base.toNat :=
  h.ordered.imp_of_mem fun ha _ hab =>
    Nat.lt_of_lt_of_le (Nat.lt_add_of_pos_right (h.nonempty _ ha)) hab

/-- Where a region begins below a base, all that precede it do. -/
theorem Canonical.startsBelow_mono (h : index.Canonical) (base : UInt32) :
    index.regions.Pairwise fun a b =>
      Region.startsBelow base b = true → Region.startsBelow base a = true := by
  refine h.base_lt.imp fun hab hb => ?_
  rw [Region.startsBelow, decide_eq_true_eq] at hb ⊢
  exact Nat.lt_trans hab hb

/-- Two different regions share no address. -/
theorem Canonical.disjoint (h : index.Canonical) {a b : Region} (ha : a ∈ index.regions)
    (hb : b ∈ index.regions) (hne : a ≠ b) : a.range.Disjoint b.range := by
  have hpair : index.regions.Pairwise fun a b => a.range.Disjoint b.range :=
    h.ordered.imp AddressRange.Before.disjoint
  have hsymm : Std.Symm fun a b : Region => a.range.Disjoint b.range :=
    ⟨fun _ _ hab => Std.Symm.symm _ _ hab⟩
  exact hpair.forall ha hb hne

/-- The last of the first regions: the others among these end before it. -/
theorem Canonical.before_last (h : index.Canonical) {test : Region → Bool} {last region : Region}
    (hlast : (index.regions.takeWhile test).getLast? = some last)
    (hregion : region ∈ index.regions.takeWhile test) :
    region = last ∨ region.range.Before last.range := by
  obtain ⟨earlier, hsplit⟩ := List.getLast?_eq_some_iff.mp hlast
  have hordered := h.ordered.sublist (List.takeWhile_sublist test)
  rw [hsplit] at hordered hregion
  obtain hin | hin := List.mem_append.mp hregion
  · exact .inr ((List.pairwise_append.mp hordered).2.2 _ hin _ (List.mem_singleton_self _))
  · exact .inl (List.mem_singleton.mp hin)

/-- The first of the last regions: it ends before the others among these. -/
theorem Canonical.head_before (h : index.Canonical) {test : Region → Bool} {first region : Region}
    (hfirst : (index.regions.dropWhile test).head? = some first)
    (hregion : region ∈ index.regions.dropWhile test) :
    region = first ∨ first.range.Before region.range := by
  obtain ⟨later, hsplit⟩ := List.head?_eq_some_iff.mp hfirst
  have hordered := h.ordered.sublist (List.dropWhile_sublist test)
  rw [hsplit] at hordered hregion
  obtain rfl | hin := List.mem_cons.mp hregion
  · exact .inl rfl
  · exact .inr ((List.pairwise_cons.mp hordered).1 _ hin)

/-! ## looking up -/

/-- The regions that begin at or below an address come first. -/
theorem Canonical.mem_candidates (h : index.Canonical) (address : UInt32) (region : Region) :
    region ∈ (index.regions.takeWhile fun region => region.range.base.toNat ≤ address.toNat) ↔
      region ∈ index.regions ∧ region.range.base.toNat ≤ address.toNat := by
  have hcut : index.regions.Pairwise fun a b =>
      decide (b.range.base.toNat ≤ address.toNat) = true →
        decide (a.range.base.toNat ≤ address.toNat) = true := by
    refine h.base_lt.imp fun hab hb => ?_
    rw [decide_eq_true_eq] at hb ⊢
    exact Nat.le_trans (Nat.le_of_lt hab) hb
  rw [mem_takeWhile_iff hcut, decide_eq_true_eq]

/-- **One candidate**: a look-up finds the slot of the range that contains the
address. -/
theorem lookup_eq_some_iff (h : index.Canonical) (address : UInt32) (slot : Nat) :
    index.lookup address = some slot ↔
      ∃ region ∈ index.regions, region.range.contains address = true ∧ region.slot = slot := by
  rw [lookup]
  split
  next last hlast =>
    have hin := (h.mem_candidates address last).mp (List.mem_of_getLast? hlast)
    have honly : ∀ region ∈ index.regions, region.range.contains address = true →
        region = last := by
      intro region hregion hcontains
      obtain ⟨hbase, hstop⟩ := (AddressRange.contains_iff ..).mp hcontains
      obtain hlast | hbefore :=
        h.before_last hlast ((h.mem_candidates address region).mpr ⟨hregion, hbase⟩)
      · exact hlast
      · exact absurd (Nat.lt_of_lt_of_le hstop hbefore) (Nat.not_lt_of_le hin.2)
    split
    next hcontains =>
      constructor
      · intro hslot
        exact ⟨last, hin.1, hcontains, Option.some.inj hslot⟩
      · rintro ⟨region, hregion, hother, rfl⟩
        rw [honly region hregion hother]
    next hcontains =>
      constructor
      · intro hslot
        cases hslot
      · rintro ⟨region, hregion, hother, rfl⟩
        rw [honly region hregion hother] at hother
        exact absurd hother hcontains
  next hnone =>
    constructor
    · intro hslot
      cases hslot
    · rintro ⟨region, hregion, hcontains, rfl⟩
      have hbase := ((AddressRange.contains_iff ..).mp hcontains).1
      have hcandidate := (h.mem_candidates address region).mpr ⟨hregion, hbase⟩
      rw [List.getLast?_eq_none_iff.mp hnone] at hcandidate
      exact absurd hcandidate List.not_mem_nil

/-- A look-up finds nothing if no range contains the address. -/
theorem lookup_eq_none_iff (h : index.Canonical) (address : UInt32) :
    index.lookup address = none ↔
      ∀ region ∈ index.regions, ¬ region.range.contains address = true := by
  rw [Option.eq_none_iff_forall_ne_some]
  constructor
  · intro hnone region hregion hcontains
    exact hnone region.slot ((lookup_eq_some_iff h ..).mpr ⟨region, hregion, hcontains, rfl⟩)
  · intro hnone slot hslot
    obtain ⟨region, hregion, hcontains, -⟩ := (lookup_eq_some_iff h ..).mp hslot
    exact hnone region hregion hcontains

/-! ## inserting -/

/-- The regions that begin below a base come first. -/
theorem Canonical.mem_below (h : index.Canonical) (base : UInt32) (region : Region) :
    region ∈ index.regions.takeWhile (Region.startsBelow base) ↔
      region ∈ index.regions ∧ region.range.base.toNat < base.toNat := by
  rw [mem_takeWhile_iff (h.startsBelow_mono base), Region.startsBelow, decide_eq_true_eq]

/-- The regions that do not come last. -/
theorem Canonical.mem_above (h : index.Canonical) (base : UInt32) (region : Region) :
    region ∈ index.regions.dropWhile (Region.startsBelow base) ↔
      region ∈ index.regions ∧ base.toNat ≤ region.range.base.toNat := by
  rw [mem_dropWhile_iff (h.startsBelow_mono base), Region.startsBelow, decide_eq_true_eq,
    Nat.not_lt]

/-- The neighbours of a base are regions, in their order. -/
theorem neighbours_sublist (index : RangeIndex) (base : UInt32) :
    (index.neighbours base).Sublist index.regions := by
  have hbelow := List.sublist_append_right
    ((index.regions.takeWhile (Region.startsBelow base)).take
      ((index.regions.takeWhile (Region.startsBelow base)).length - 1))
    (index.regions.takeWhile (Region.startsBelow base)).getLast?.toList
  rw [List.take_append_getLast?] at hbelow
  have habove := List.take_sublist 1 (index.regions.dropWhile (Region.startsBelow base))
  rw [List.take_one] at habove
  have hboth := hbelow.append habove
  rwa [List.takeWhile_append_dropWhile] at hboth

/-- **Two neighbours**: if a region overlaps a range, then so does a neighbour of the
range's base that begins no later than the region. -/
theorem exists_neighbour (h : index.Canonical) {range : AddressRange} {region : Region}
    (hregion : region ∈ index.regions)
    (hoverlap : region.range.overlaps range = true) :
    ∃ neighbour ∈ index.neighbours range.base,
      neighbour.range.overlaps range = true ∧
        neighbour.range.base.toNat ≤ region.range.base.toNat := by
  obtain ⟨hstart, hstop⟩ := (AddressRange.overlaps_iff ..).mp hoverlap
  by_cases hbelow : region.range.base.toNat < range.base.toNat
  · have hin := (h.mem_below range.base region).mpr ⟨hregion, hbelow⟩
    obtain ⟨last, hlast⟩ :=
      Option.isSome_iff_exists.mp (List.getLast?_isSome.mpr (List.ne_nil_of_mem hin))
    have hneighbour : last ∈ index.neighbours range.base :=
      List.mem_append_left _ (Option.mem_toList.mpr hlast)
    obtain rfl | hbefore := h.before_last hlast hin
    · exact ⟨region, hneighbour, hoverlap, Nat.le_refl _⟩
    · have hlow := ((h.mem_below range.base last).mp (List.mem_of_getLast? hlast)).2
      exact absurd (Nat.lt_trans (Nat.lt_of_lt_of_le hstop hbefore) hlow) (Nat.lt_irrefl _)
  · have hin := (h.mem_above range.base region).mpr ⟨hregion, Nat.not_lt.mp hbelow⟩
    obtain ⟨first, hfirst⟩ :=
      Option.isSome_iff_exists.mp (List.isSome_head?.mpr (List.ne_nil_of_mem hin))
    have hneighbour : first ∈ index.neighbours range.base :=
      List.mem_append_right _ (Option.mem_toList.mpr hfirst)
    obtain rfl | hbefore := h.head_before hfirst hin
    · exact ⟨region, hneighbour, hoverlap, Nat.le_refl _⟩
    · obtain ⟨hmem, hhigh⟩ := (h.mem_above range.base first).mp (List.mem_of_head? hfirst)
      have hfirststop : first.range.base.toNat < first.range.stop :=
        Nat.lt_add_of_pos_right (h.nonempty first hmem)
      have hle : first.range.base.toNat ≤ region.range.base.toNat :=
        Nat.le_trans (AddressRange.base_le_stop _) hbefore
      have hoverlaps : first.range.overlaps range = true :=
        (AddressRange.overlaps_iff ..).mpr
          ⟨Nat.lt_of_le_of_lt hle hstart, Nat.lt_of_le_of_lt hhigh hfirststop⟩
      exact ⟨first, hneighbour, hoverlaps, hle⟩

/-- A range is refused as empty exactly if it has no addresses. -/
theorem insert_eq_empty_iff (index : RangeIndex) (range : AddressRange) (slot : Nat) :
    index.insert range slot = .error .empty ↔ range.span.toNat = 0 := by
  rw [← AddressRange.isEmpty_iff, insert]
  split
  next hempty => simp [hempty]
  next hempty => split <;> simp [hempty]

/-- A range that is refused for an overlap overlaps the region that is named, and no
region that begins earlier. -/
theorem insert_eq_overlaps (h : index.Canonical) {range : AddressRange} {slot other : Nat}
    (hinsert : index.insert range slot = .error (.overlaps other)) :
    0 < range.span.toNat ∧
      ∃ region ∈ index.regions, region.slot = other ∧ region.range.overlaps range = true ∧
        ∀ rival ∈ index.regions, rival.range.overlaps range = true →
          region.range.base.toNat ≤ rival.range.base.toNat := by
  rw [insert] at hinsert
  split at hinsert
  next hempty => cases hinsert
  next hempty =>
    split at hinsert
    next region hfind =>
      obtain ⟨hoverlap, earlier, later, hsplit, hclear⟩ := List.find?_eq_some_iff_append.mp hfind
      have hsub := neighbours_sublist index range.base
      have hordered := h.base_lt.sublist hsub
      rw [hsplit] at hsub hordered
      refine ⟨Nat.pos_of_ne_zero (mt (AddressRange.isEmpty_iff _).mpr hempty), region,
        hsub.subset (List.mem_append_right _ List.mem_cons_self), ?_, hoverlap, ?_⟩
      · cases hinsert
        rfl
      · intro rival hrival hrivals
        obtain ⟨neighbour, hmem, hneighbours, hle⟩ := exists_neighbour h hrival hrivals
        refine Nat.le_trans ?_ hle
        rw [hsplit] at hmem
        obtain hearlier | hlater := List.mem_append.mp hmem
        · have hnot := hclear neighbour hearlier
          rw [hneighbours] at hnot
          cases hnot
        · obtain rfl | hlater := List.mem_cons.mp hlater
          · exact Nat.le_refl _
          · have htail := (List.pairwise_append.mp hordered).2.1
            exact Nat.le_of_lt ((List.pairwise_cons.mp htail).1 _ hlater)
    next hnone => cases hinsert

/-- What an accepted range is like, and where it goes. -/
theorem insert_eq_ok {after : RangeIndex} {range : AddressRange} {slot : Nat}
    (hinsert : index.insert range slot = .ok after) :
    0 < range.span.toNat ∧
      (∀ region ∈ index.neighbours range.base, ¬ region.range.overlaps range = true) ∧
      after.regions = index.regions.takeWhile (Region.startsBelow range.base) ++
        ⟨range, slot⟩ :: index.regions.dropWhile (Region.startsBelow range.base) := by
  rw [insert] at hinsert
  split at hinsert
  next hempty => cases hinsert
  next hempty =>
    split at hinsert
    next region hfind => cases hinsert
    next hnone =>
      cases hinsert
      exact ⟨Nat.pos_of_ne_zero (mt (AddressRange.isEmpty_iff _).mpr hempty),
        List.find?_eq_none.mp hnone, rfl⟩

/-- An accepted range is added to those of the index. -/
theorem mem_insert {after : RangeIndex} {range : AddressRange} {slot : Nat}
    (hinsert : index.insert range slot = .ok after) (region : Region) :
    region ∈ after.regions ↔ region = ⟨range, slot⟩ ∨ region ∈ index.regions := by
  rw [(insert_eq_ok hinsert).2.2, List.mem_append, List.mem_cons, or_left_comm, ← List.mem_append,
    List.takeWhile_append_dropWhile]

/-- An accepted range shares no address with a range of the index. -/
theorem disjoint_of_insert (h : index.Canonical) {after : RangeIndex} {range : AddressRange}
    {slot : Nat} (hinsert : index.insert range slot = .ok after) {region : Region}
    (hregion : region ∈ index.regions) : region.range.Disjoint range := by
  obtain ⟨hspan, hclear, -⟩ := insert_eq_ok hinsert
  refine (AddressRange.not_overlaps_iff (h.nonempty region hregion) hspan).mp fun hoverlap => ?_
  obtain ⟨neighbour, hmem, hneighbour, -⟩ := exists_neighbour h hregion hoverlap
  exact hclear neighbour hmem hneighbour

/-- **Acceptance**: a range is accepted exactly if it has addresses and shares none
with a range of the index. -/
theorem insert_isOk_iff (h : index.Canonical) (range : AddressRange) (slot : Nat) :
    (∃ after, index.insert range slot = .ok after) ↔
      0 < range.span.toNat ∧ ∀ region ∈ index.regions, region.range.Disjoint range := by
  constructor
  · rintro ⟨after, hinsert⟩
    exact ⟨(insert_eq_ok hinsert).1, fun region => disjoint_of_insert h hinsert⟩
  · rintro ⟨hspan, hdisjoint⟩
    cases hinsert : index.insert range slot with
    | ok after => exact ⟨after, rfl⟩
    | error conflict =>
        cases conflict with
        | empty =>
            rw [(insert_eq_empty_iff ..).mp hinsert] at hspan
            exact absurd hspan (Nat.lt_irrefl 0)
        | overlaps other =>
            obtain ⟨-, region, hregion, -, hoverlap, -⟩ := insert_eq_overlaps h hinsert
            have hclear := (AddressRange.not_overlaps_iff (h.nonempty region hregion) hspan).mpr
              (hdisjoint region hregion)
            exact absurd hoverlap hclear

/-- An accepted range leaves the index canonical. -/
theorem canonical_insert (h : index.Canonical) {after : RangeIndex} {range : AddressRange}
    {slot : Nat} (hinsert : index.insert range slot = .ok after) : after.Canonical where
  nonempty := by
    intro region hregion
    obtain rfl | hregion := (mem_insert hinsert region).mp hregion
    · exact (insert_eq_ok hinsert).1
    · exact h.nonempty region hregion
  ordered := by
    have hspan := (insert_eq_ok hinsert).1
    have hbelow : ∀ a ∈ index.regions.takeWhile (Region.startsBelow range.base),
        a.range.Before range := by
      intro a ha
      obtain ⟨hmem, hlow⟩ := (h.mem_below range.base a).mp ha
      exact (disjoint_of_insert h hinsert hmem).before hspan (Nat.le_of_lt hlow)
    have habove : ∀ b ∈ index.regions.dropWhile (Region.startsBelow range.base),
        range.Before b.range := by
      intro b hb
      obtain ⟨hmem, hhigh⟩ := (h.mem_above range.base b).mp hb
      have hdisjoint : range.Disjoint b.range :=
        Std.Symm.symm _ _ (disjoint_of_insert h hinsert hmem)
      exact hdisjoint.before (h.nonempty b hmem) hhigh
    have hcut := h.ordered
    rw [← List.takeWhile_append_dropWhile (p := Region.startsBelow range.base)
      (l := index.regions), List.pairwise_append] at hcut
    rw [(insert_eq_ok hinsert).2.2, List.pairwise_append]
    refine ⟨hcut.1, List.pairwise_cons.mpr ⟨habove, hcut.2.1⟩, ?_⟩
    intro a ha b hb
    obtain rfl | hb := List.mem_cons.mp hb
    · exact hbelow a ha
    · exact hcut.2.2 a ha b hb

/-! ## an index of a list of ranges -/

/-- The index holds the ranges of a list, each under its position. -/
structure Indexes (index : RangeIndex) (ranges : List AddressRange) : Prop where
  canonical : index.Canonical
  mem_iff : ∀ range slot, ⟨range, slot⟩ ∈ index.regions ↔ ranges[slot]? = some range

theorem indexes_nil : empty.Indexes [] where
  canonical := canonical_empty
  mem_iff := by simp [empty]

/-- **Step**: to accept a range is to append it to the list. -/
theorem Indexes.insert {ranges : List AddressRange} (h : index.Indexes ranges)
    {after : RangeIndex} {range : AddressRange}
    (hinsert : index.insert range ranges.length = .ok after) :
    after.Indexes (ranges ++ [range]) where
  canonical := canonical_insert h.canonical hinsert
  mem_iff := by
    intro other slot
    rw [mem_insert hinsert, h.mem_iff, Region.mk.injEq]
    constructor
    · rintro (⟨rfl, rfl⟩ | hold)
      · exact List.getElem?_concat_length
      · exact (List.getElem?_append_left (List.getElem?_eq_some_iff.mp hold).1).trans hold
    · intro hnew
      by_cases hslot : slot < ranges.length
      · exact .inr ((List.getElem?_append_left hslot).symm.trans hnew)
      · rw [List.getElem?_append_right (Nat.not_lt.mp hslot), List.getElem?_singleton,
          Option.ite_none_right_eq_some] at hnew
        obtain ⟨hlast, hother⟩ := hnew
        exact .inl ⟨(Option.some.inj hother).symm, by omega⟩

section

variable {ranges : List AddressRange}

theorem Indexes.mem {range : AddressRange} (h : index.Indexes ranges) (hrange : range ∈ ranges) :
    ∃ slot, ⟨range, slot⟩ ∈ index.regions ∧ ranges[slot]? = some range := by
  obtain ⟨slot, hslot⟩ := List.mem_iff_getElem?.mp hrange
  exact ⟨slot, (h.mem_iff range slot).mpr hslot, hslot⟩

/-- The ranges are not empty. -/
theorem Indexes.nonempty (h : index.Indexes ranges) {range : AddressRange}
    (hrange : range ∈ ranges) : 0 < range.span.toNat := by
  obtain ⟨slot, hregion, -⟩ := h.mem hrange
  exact h.canonical.nonempty _ hregion

/-- An address lies in the range of one slot at most. -/
theorem Indexes.slot_unique (h : index.Indexes ranges) {i j : Nat} {a b : AddressRange}
    (ha : ranges[i]? = some a) (hb : ranges[j]? = some b) {n : Nat} (hna : a.Covers n)
    (hnb : b.Covers n) : i = j := by
  by_contra hne
  have hregions : (⟨a, i⟩ : Region) ≠ ⟨b, j⟩ := fun heq => hne (Region.mk.inj heq).2
  exact h.canonical.disjoint ((h.mem_iff a i).mpr ha) ((h.mem_iff b j).mpr hb) hregions n
    ⟨hna, hnb⟩

/-- No two ranges share an address. -/
theorem Indexes.pairwise (h : index.Indexes ranges) :
    ranges.Pairwise AddressRange.Disjoint := by
  rw [List.pairwise_iff_getElem]
  intro i j hi hj hlt n hn
  have hsame := h.slot_unique (List.getElem?_eq_getElem hi) (List.getElem?_eq_getElem hj) hn.1 hn.2
  exact absurd hsame (Nat.ne_of_lt hlt)

/-- A look-up finds the position of the range that contains the address. -/
theorem Indexes.lookup_eq_some_iff (h : index.Indexes ranges) (address : UInt32) (slot : Nat) :
    index.lookup address = some slot ↔
      ∃ range, ranges[slot]? = some range ∧ range.contains address = true := by
  rw [RangeIndex.lookup_eq_some_iff h.canonical]
  constructor
  · rintro ⟨⟨range, slot⟩, hregion, hcontains, rfl⟩
    exact ⟨range, (h.mem_iff range slot).mp hregion, hcontains⟩
  · rintro ⟨range, hrange, hcontains⟩
    exact ⟨⟨range, slot⟩, (h.mem_iff range slot).mpr hrange, hcontains, rfl⟩

/-- A look-up finds nothing if no range of the list contains the address. -/
theorem Indexes.lookup_eq_none_iff (h : index.Indexes ranges) (address : UInt32) :
    index.lookup address = none ↔ ∀ range ∈ ranges, ¬ range.contains address = true := by
  rw [RangeIndex.lookup_eq_none_iff h.canonical]
  constructor
  · intro hnone range hrange
    obtain ⟨slot, hregion, -⟩ := h.mem hrange
    exact hnone _ hregion
  · intro hnone region hregion
    exact hnone _ (List.mem_of_getElem? ((h.mem_iff region.range region.slot).mp hregion))

end

end RangeIndex

end BoardSim
