import BoardSim.Proofs.Bus.Dispatch

/-!
# BoardSim.Proofs.Bus.Refresh

Rebuilding the index from a list of mounts that may be anything.

The index is emptied and the mounts are inserted one by one, up to the first that is not
accepted.  What is indexed then are the mounts before that one (`indexFrom_eq_error`), or
all of them (`indexes_indexFrom`).  Either way it is a number of mounts from the front of
the list, and accesses go to these alone, each to the one whose range contains the address
(`Serves`).  That stays so whatever goes on at the bus (`IndexesFirst.handle`), until the
list or the index is changed.

`routing_of_refresh` puts this together with what the refusal says.
-/

namespace BoardSim.Bus

variable {bus : Bus} {count : Nat}

/-! ## an index of the first mounts -/

/-- The index holds the ranges of the first `count` mounts, each under its slot, and no
others. -/
def IndexesFirst (bus : Bus) (count : Nat) : Prop := bus.index.Indexes (bus.ranges.take count)

theorem IndexesFirst.update (h : bus.IndexesFirst count) (slot : Nat) (device : Device)
    (board : Board) : (bus.update slot device board).IndexesFirst count := by
  unfold IndexesFirst
  rw [ranges_update]
  exact h

theorem IndexesFirst.reset (h : bus.IndexesFirst count) : bus.reset.IndexesFirst count := by
  unfold IndexesFirst
  rw [ranges_reset]
  exact h

/-- What goes on at the bus leaves the index and the ranges of the mounts alone. -/
theorem IndexesFirst.handle (h : bus.IndexesFirst count) (traffic : Traffic) :
    (bus.handle traffic).IndexesFirst count :=
  @handle_induction (fun bus => bus.IndexesFirst count) (fun _ _ h => h)
    (fun _ _ _ _ _ h => h.update ..) (fun _ _ _ _ _ _ h => h.update ..) (fun _ h => h.reset)
    (fun _ _ h => h) bus h traffic

theorem IndexesFirst.handleAll (h : bus.IndexesFirst count) (traffic : List Traffic) :
    (traffic.foldl Bus.handle bus).IndexesFirst count := by
  induction traffic generalizing bus with
  | nil => exact h
  | cons first rest ih => exact ih (h.handle first)

/-- A look-up finds the one of the first mounts whose range contains the address. -/
theorem IndexesFirst.lookup_eq_some_iff (h : bus.IndexesFirst count) (address : UInt32)
    (slot : Nat) :
    bus.index.lookup address = some slot ↔
      slot < count ∧
        ∃ mount, bus.mounts[slot]? = some mount ∧ mount.range.contains address = true := by
  rw [RangeIndex.Indexes.lookup_eq_some_iff h, List.getElem?_take, getElem?_ranges]
  by_cases hslot : slot < count <;> simp [hslot]

/-- A look-up finds nothing where none of the first mounts' ranges contains the address. -/
theorem IndexesFirst.lookup_eq_none (h : bus.IndexesFirst count) {address : UInt32}
    (hnone : ∀ mount ∈ bus.mounts.take count, ¬ mount.range.contains address = true) :
    bus.index.lookup address = none := by
  rw [RangeIndex.Indexes.lookup_eq_none_iff h, ranges, ← List.map_take]
  intro range hrange
  obtain ⟨mount, hmount, rfl⟩ := List.mem_map.mp hrange
  exact hnone mount hmount

/-! ## accesses to the first mounts -/

/-- Accesses go to the first `count` mounts and to no others: an address in the range of
one of these is in no other's, and is owned and handled by that one at its offset in the
range; an address in none of the ranges is unmapped. -/
structure Serves (bus : Bus) (count : Nat) : Prop where
  owned : ∀ {slot mount address}, slot < count → bus.mounts[slot]? = some mount →
    mount.range.contains address = true →
      (∀ other rival, other < count → bus.mounts[other]? = some rival →
        rival.range.contains address = true → other = slot) ∧
      bus.owner? address = some mount.name ∧
      ∀ {α : Type} (request : Access)
        (use : Device → Board → (offset : UInt32) → Reply (Device × Board) α),
        request.address = address → 4 ∣ address.toNat → bus.faultAfter ≠ some 0 →
          bus.access request use =
            (bus.policy.conclude
                (use mount.device bus.board (address - mount.range.base)).result,
              (bus.noted request).update slot
                (use mount.device bus.board (address - mount.range.base)).state.1
                (use mount.device bus.board (address - mount.range.base)).state.2)
  unmapped : ∀ {address},
    (∀ mount ∈ bus.mounts.take count, ¬ mount.range.contains address = true) →
      bus.owner? address = none ∧
      ∀ {α : Type} (request : Access)
        (use : Device → Board → (offset : UInt32) → Reply (Device × Board) α),
        request.address = address → 4 ∣ address.toNat → bus.faultAfter ≠ some 0 →
          bus.access request use = (bus.policy.onFault (.unmapped address), bus.noted request)

/-- Accesses go where the index says. -/
theorem IndexesFirst.serves (h : bus.IndexesFirst count) : bus.Serves count where
  owned := by
    intro slot mount address hslot hmount hcontains
    have hlookup := (h.lookup_eq_some_iff address slot).mpr ⟨hslot, mount, hmount, hcontains⟩
    refine ⟨?_, ?_, ?_⟩
    · intro other rival hother hrival hrivals
      have hagain := (h.lookup_eq_some_iff address other).mpr ⟨hother, rival, hrival, hrivals⟩
      exact Option.some.inj (hagain.symm.trans hlookup)
    · simp [owner?, hlookup, hmount]
    · rintro α request use rfl halign hcountdown
      exact access_of_target (target?_eq_some_iff.mpr ⟨halign, hlookup, hmount, rfl⟩) hcountdown use
  unmapped := by
    intro address hnone
    have hlookup := h.lookup_eq_none hnone
    refine ⟨by simp [owner?, hlookup], ?_⟩
    rintro α request use rfl halign hcountdown
    have haligned : ¬ request.address.toNat % 4 ≠ 0 := by omega
    have htarget : (bus.noted request).target? request.address = none := by
      rw [target?, if_neg haligned, index_noted, hlookup, Option.bind_none]
    rw [access_eq, if_neg hcountdown, dispatch_eq, htarget, if_neg haligned, policy_noted]

/-! ## the mounts that are indexed -/

/-- Where the indexing stops, the mounts before are indexed and the next is the first whose
range is not accepted. -/
theorem indexFrom_eq_error {index after : RangeIndex} {earlier more : List Mount}
    {failure : Failure MountError} (h : index.Indexes (earlier.map Mount.range))
    (hindex : bus.indexFrom earlier.length index more = (.error failure, after)) :
    ∃ accepted mount later conflict, more = accepted ++ mount :: later ∧
      after.Indexes ((earlier ++ accepted).map Mount.range) ∧
      after.insert mount.range (earlier ++ accepted).length = .error conflict ∧
      failure = bus.mountError mount.name mount.range conflict := by
  induction more generalizing index earlier with
  | nil => cases hindex
  | cons mount rest ih =>
      rw [indexFrom] at hindex
      split at hindex
      next next hinsert =>
        have hlonger : next.Indexes ((earlier ++ [mount]).map Mount.range) := by
          rw [List.map_append]
          exact h.insert (by rwa [List.length_map])
        obtain ⟨accepted, refused, later, conflict, rfl, hafter, hrefused, hfailure⟩ :=
          ih hlonger (by rwa [List.length_append])
        rw [List.append_assoc] at hafter hrefused
        exact ⟨mount :: accepted, refused, later, conflict, rfl, hafter, hrefused, hfailure⟩
      next conflict hinsert =>
        obtain ⟨hfailure, rfl⟩ := Prod.mk.inj hindex
        refine ⟨[], mount, rest, conflict, rfl, ?_, ?_, (Except.error.inj hfailure).symm⟩
        · rwa [List.append_nil]
        · rwa [List.append_nil]

/-- Only the list of mounts has a part in the indexing. -/
theorem indexFrom_congr {other : Bus} (h : other.mounts = bus.mounts) (slot : Nat)
    (index : RangeIndex) (more : List Mount) :
    other.indexFrom slot index more = bus.indexFrom slot index more := by
  have herror : other.mountError = bus.mountError := by
    funext name range conflict
    simp only [mountError, h]
  induction more generalizing slot index with
  | nil => rfl
  | cons mount rest ih =>
      rw [indexFrom, indexFrom, herror]
      split
      next => exact ih _ _
      next => rfl

/-- A refresh changes the index and nothing else. -/
theorem refresh_eq (bus : Bus) :
    bus.refresh.2 = { bus with index := bus.refresh.2.index } := rfl

/-- Buses with the same mounts are refreshed alike. -/
theorem refresh_congr {other : Bus} (h : other.mounts = bus.mounts) :
    other.refresh = (bus.refresh.1, { other with index := bus.refresh.2.index }) := by
  have hindex := indexFrom_congr h 0 .empty bus.mounts
  simp only [refresh, h, hindex]

/-- To refresh once more gives the same again. -/
theorem refresh_refresh (bus : Bus) : bus.refresh.2.refresh = bus.refresh := refresh_congr rfl

/-- The ranges of indexed mounts are not empty and do not overlap. -/
theorem clear_of_indexes {index : RangeIndex} {mounts : List Mount}
    (h : index.Indexes (mounts.map Mount.range)) :
    (∀ mount ∈ mounts, mount.range.span ≠ 0) ∧
      mounts.Pairwise fun a b => ¬ a.range.overlaps b.range = true := by
  have hspan : ∀ mount ∈ mounts, 0 < mount.range.span.toNat := fun mount hmem =>
    h.nonempty (List.mem_map_of_mem hmem)
  constructor
  · intro mount hmem hzero
    exact absurd (hspan mount hmem) (by simp [hzero])
  · refine (List.pairwise_map.mp h.pairwise).imp_of_mem fun ha hb hdisjoint => ?_
    exact (AddressRange.not_overlaps_iff (hspan _ ha) (hspan _ hb)).mpr hdisjoint

/-- Why a mount is not indexed beside those before it. -/
inductive Refused (earlier : List Mount) (mount : Mount) : Failure MountError → Prop where
  /-- Its range has no addresses. -/
  | empty (hspan : mount.range.span = 0) :
      Refused earlier mount (.refused (.empty mount.name mount.range.base))
  /-- It overlaps the range of an earlier one; of these the one that begins first is
  named. -/
  | overlapping (hspan : mount.range.span ≠ 0) (other : Mount) (hother : other ∈ earlier)
      (hoverlap : other.range.overlaps mount.range = true)
      (hfirst : ∀ rival ∈ earlier, rival.range.overlaps mount.range = true →
        other.range.base ≤ rival.range.base) :
      Refused earlier mount (.refused (.overlapping mount.name mount.range other.name))

/-- A conflict with indexed mounts is told by the name of the one that is in the way. -/
theorem refused_of_conflict {index : RangeIndex} {earlier later : List Mount} {mount : Mount}
    {slot : Nat} {conflict : RangeIndex.Conflict} (h : index.Indexes (earlier.map Mount.range))
    (hmounts : bus.mounts = earlier ++ later)
    (hinsert : index.insert mount.range slot = .error conflict) :
    Refused earlier mount (bus.mountError mount.name mount.range conflict) := by
  cases conflict with
  | empty =>
      have hspan := (RangeIndex.insert_eq_empty_iff ..).mp hinsert
      exact .empty (UInt32.toNat_inj.mp hspan)
  | overlaps named =>
      obtain ⟨hspan, region, hregion, rfl, hoverlap, hfirst⟩ :=
        RangeIndex.insert_eq_overlaps h.canonical hinsert
      have hrange := (h.mem_iff region.range region.slot).mp hregion
      rw [List.getElem?_map] at hrange
      obtain ⟨other, hother, hsame⟩ := Option.map_eq_some_iff.mp hrange
      have hlisted : bus.mounts[region.slot]? = some other := by
        rw [hmounts, List.getElem?_append_left (List.getElem?_eq_some_iff.mp hother).1, hother]
      rw [mountError, hlisted]
      refine .overlapping ?_ other (List.mem_of_getElem? hother) (hsame ▸ hoverlap) ?_
      · exact fun hzero => absurd hspan (by simp [hzero])
      · intro rival hrival hrivals
        obtain ⟨slot, hslot⟩ := List.mem_iff_getElem?.mp hrival
        have hindexed : (⟨rival.range, slot⟩ : RangeIndex.Region) ∈ index.regions :=
          (h.mem_iff ..).mpr (by rw [List.getElem?_map, hslot, Option.map_some])
        rw [UInt32.le_iff_toNat_le, hsame]
        exact hfirst _ hindexed hrivals

/-- A mount that is refused is in the way of mounts that are all clear of each other. -/
theorem Refused.not_clear {earlier : List Mount} {mount : Mount} {failure : Failure MountError}
    (h : Refused earlier mount failure) (later : List Mount) :
    ¬ ((∀ other ∈ earlier ++ mount :: later, other.range.span ≠ 0) ∧
      (earlier ++ mount :: later).Pairwise fun a b => ¬ a.range.overlaps b.range = true) := by
  rintro ⟨hspans, hpairs⟩
  cases h with
  | empty hspan => exact hspans mount (by simp) hspan
  | overlapping _ other hother hoverlap =>
      exact (List.pairwise_append.mp hpairs).2.2 other hother mount (by simp) hoverlap

/-! ## refreshing -/

/-- A refresh that is accepted indexes all mounts. -/
theorem indexesFirst_refresh (h : bus.refresh.1 = .ok ()) :
    bus.refresh.2.IndexesFirst bus.mounts.length := by
  have hindexed := indexed_refresh (Prod.ext h rfl : bus.refresh = (.ok (), bus.refresh.2))
  rw [IndexesFirst, ranges, ← List.map_take, refresh_eq, List.take_length]
  exact hindexed

/-- A refresh that is refused indexes the mounts before the one that is refused. -/
theorem refresh_eq_error {failure : Failure MountError} (h : bus.refresh.1 = .error failure) :
    ∃ earlier mount later, bus.mounts = earlier ++ mount :: later ∧
      bus.refresh.2.index.Indexes (earlier.map Mount.range) ∧ Refused earlier mount failure := by
  have hindex : bus.indexFrom 0 .empty bus.mounts = (.error failure, bus.refresh.2.index) :=
    Prod.ext h rfl
  obtain ⟨earlier, mount, later, conflict, hmounts, hafter, hinsert, rfl⟩ :=
    @indexFrom_eq_error bus .empty _ [] bus.mounts _ RangeIndex.indexes_nil hindex
  exact ⟨earlier, mount, later, hmounts, hafter, refused_of_conflict hafter hmounts hinsert⟩

/-- **Refresh**: whatever the list of mounts and the index are, a refresh does not break
off, changes the index alone, and gives the same if it is repeated.  It is accepted exactly
if no range is empty and no two overlap, and then all mounts are served.  Else the refusal
is that of the first mount in the list that is empty or overlaps an earlier one, and from
then on the mounts before it are served and no others. -/
theorem routing_of_refresh (bus : Bus) :
    let after := bus.refresh.2
    (∀ defect, bus.refresh.1 ≠ .error (.broken defect)) ∧
    after = { bus with index := after.index } ∧
    after.refresh = bus.refresh ∧
    (bus.refresh.1 = .ok () ↔
      (∀ mount ∈ bus.mounts, mount.range.span ≠ 0) ∧
        bus.mounts.Pairwise fun a b => ¬ a.range.overlaps b.range = true) ∧
    (bus.refresh.1 = .ok () →
      ∀ traffic : List Traffic, (traffic.foldl handle after).Serves bus.mounts.length) ∧
    ∀ failure, bus.refresh.1 = .error failure →
      ∃ earlier mount later, bus.mounts = earlier ++ mount :: later ∧
        (∀ other ∈ earlier, other.range.span ≠ 0) ∧
        (earlier.Pairwise fun a b => ¬ a.range.overlaps b.range = true) ∧
        Refused earlier mount failure ∧
        ∀ traffic : List Traffic, (traffic.foldl handle after).Serves earlier.length := by
  intro after
  refine ⟨?_, bus.refresh_eq, bus.refresh_refresh, ?_, ?_, ?_⟩
  · intro defect hbroken
    obtain ⟨_, _, _, _, _, hrefused⟩ := refresh_eq_error hbroken
    cases hrefused
  · cases hresult : bus.refresh.1 with
    | ok value =>
        have hindexed := indexed_refresh (Prod.ext hresult rfl : bus.refresh = (.ok (), after))
        simpa using @clear_of_indexes _ bus.mounts hindexed
    | error failure =>
        obtain ⟨earlier, mount, later, hmounts, -, hrefused⟩ := refresh_eq_error hresult
        rw [hmounts]
        simpa using hrefused.not_clear later
  · intro hresult traffic
    exact ((indexesFirst_refresh hresult).handleAll traffic).serves
  · intro failure hresult
    obtain ⟨earlier, mount, later, hmounts, hindexed, hrefused⟩ := refresh_eq_error hresult
    have hfirst : after.IndexesFirst earlier.length := by
      have hlisted : after.mounts.take earlier.length = earlier := by
        change bus.mounts.take earlier.length = earlier
        rw [hmounts, List.take_left]
      rw [IndexesFirst, ranges, ← List.map_take, hlisted]
      exact hindexed
    obtain ⟨hspans, hpairs⟩ := clear_of_indexes hindexed
    exact ⟨earlier, mount, later, hmounts, hspans, hpairs, hrefused,
      fun traffic => (hfirst.handleAll traffic).serves⟩

end BoardSim.Bus
