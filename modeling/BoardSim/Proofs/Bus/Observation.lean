import BoardSim.Proofs.Bus.Requests
import BoardSim.Proofs.Device.History
import Mathlib.Algebra.BigOperators.Group.Finset.Piecewise
import Mathlib.Data.FinEnum

/-!
# BoardSim.Proofs.Bus.Observation

What observers of a bus hold, and what they cost.

The firmware reads and writes while the host asks for faults, resets the bus, attaches
observers, clears them and detaches them (`Event`).  How each request ends is left to
devices of any service.

1. An observer holds the requests since it was attached or last cleared, in their order,
   each as an access (`told`), however they ended (`record_of_run`).
2. A trace lists them and a tally counts them (`Tally.Counts`), so that a trace and a tally
   of the same requests agree with each other and with the bus's own count.
3. Observers have no part in anything else: a run is the run on a bus without observers
   (`unobserved_of_run`).
-/

namespace BoardSim

/-! ## tallies -/

/-- Does the tally count exactly these accesses? -/
structure Tally.Counts (tally : Tally) (accesses : List Access) : Prop where
  reads : tally.reads = accesses.countP fun access => access.kind = .read
  writes : tally.writes = accesses.countP fun access => access.kind = .write
  count (address : UInt32) :
    tally.count address = accesses.countP fun access => access.address = address

theorem Tally.counts_nil : Counts {} [] where
  reads := rfl
  writes := rfl
  count _ := rfl

theorem Tally.count_note (tally : Tally) (access : Access) (address : UInt32) :
    (tally.note access).count address =
      tally.count address + if access.address = address then 1 else 0 := by
  simp only [count, note, SortedMap.get?_insert]
  by_cases h : access.address = address
  · simp [h]
  · rw [if_neg (Ne.symm h), if_neg h, Nat.add_zero]

theorem Tally.Counts.concat {tally : Tally} {accesses : List Access} (h : tally.Counts accesses)
    (access : Access) : (tally.note access).Counts (accesses ++ [access]) where
  reads := by simp [note, h.reads, List.countP_append, List.countP_singleton]
  writes := by simp [note, h.writes, List.countP_append, List.countP_singleton]
  count address := by
    simp [count_note, h.count address, List.countP_append, List.countP_singleton]

/-- Every access is a read or a write. -/
theorem Tally.Counts.total {tally : Tally} {accesses : List Access} (h : tally.Counts accesses) :
    tally.reads + tally.writes = accesses.length := by
  have hkind (access : Access) : access.kind = .write ↔ ¬access.kind = .read := by
    cases access.kind <;> simp
  rw [h.reads, h.writes]
  simp only [hkind]
  simpa using (accesses.length_eq_countP_add_countP fun access => access.kind = .read).symm

/-- Every access goes to one address. -/
theorem sum_countP_address (accesses : List Access) :
    ∑ address, accesses.countP (fun access => access.address = address) = accesses.length := by
  induction accesses with
  | nil => simp
  | cons access rest ih => simp [List.countP_cons, Finset.sum_add_distrib, ih]

theorem Tally.Counts.sum {tally : Tally} {accesses : List Access} (h : tally.Counts accesses) :
    ∑ address, tally.count address = accesses.length := by
  simp only [h.count]
  exact sum_countP_address accesses

namespace Bus

/-! ## what goes on at an observed bus -/

/-- What the firmware and the host do at a bus with observers. -/
inductive Event where
  | request (request : Request)
  | requestFault (accesses : Nat)
  | cancelFault
  | reset
  | attach (record : Record)
  /-- The records in these slots are cleared, with nothing in between. -/
  | clear (slots : List Nat)
  | detachAll
deriving DecidableEq

namespace Event

/-- The access that observers are told of. -/
def access? : Event → Option Access
  | .request asked => some asked.access
  | _ => none

/-- Does the event clear the observer in this slot? -/
def clears (slot : Nat) : Event → Bool
  | .clear slots => slot ∈ slots
  | _ => false

/-- Is it the host who attends to the observers? -/
def isObservation : Event → Bool
  | .attach _ | .clear _ | .detachAll => true
  | _ => false

/-- The record in a slot after the event, if its observer is attached. -/
def onRecord (slot : Nat) (event : Event) (record : Record) : Record :=
  match event with
  | .request asked => record.note asked.access
  | .clear slots => if slot ∈ slots then record.clear else record
  | _ => record

end Event

/-- What the observer in a slot was told since it was last cleared. -/
def told (slot : Nat) (events : List Event) : List Access :=
  (History.since (Event.clears slot) events).filterMap Event.access?

/-- The bus without its observers. -/
def unobserved (bus : Bus) : Bus := { bus with observers := [] }

variable (service : Service)

/-- The bus after an event. -/
def occur (bus : Bus) : Event → Bus
  | .request request => (bus.serveBy service request).2
  | .requestFault accesses => bus.requestFault accesses
  | .cancelFault => bus.cancelFault
  | .reset => bus.reset
  | .attach record => bus.attach record
  | .clear slots => slots.foldl clearRecord bus
  | .detachAll => bus.detachAll

/-- How the request ends, if the event is one. -/
def ending? (bus : Bus) : Event → Option (Outcome (Option UInt32))
  | .request request => some (bus.serveBy service request).1
  | _ => none

/-- The bus after a sequence of events. -/
def occurAll (bus : Bus) (events : List Event) : Bus := events.foldl (occur service) bus

/-- How the requests of a sequence end, first to last. -/
def endings (bus : Bus) : List Event → List (Outcome (Option UInt32))
  | [] => []
  | event :: rest => (bus.ending? service event).toList ++ endings (bus.occur service event) rest

variable (bus : Bus) (event : Event) (events : List Event)

theorem occurAll_append (later : List Event) :
    bus.occurAll service (events ++ later) = (bus.occurAll service events).occurAll service later :=
  List.foldl_append

/-- A clear starts the record again, and any other event adds what it tells. -/
theorem told_concat (slot : Nat) :
    told slot (events ++ [event]) =
      if event.clears slot then [] else told slot events ++ event.access?.toList := by
  rw [told, History.since_concat]
  split
  next => rfl
  next => exact History.filterMap_concat ..

/-- Observers that are cleared together were told the same. -/
theorem told_congr {slot other : Nat} {events : List Event}
    (h : ∀ slots, .clear slots ∈ events → (slot ∈ slots ↔ other ∈ slots)) :
    told slot events = told other events := by
  induction events using List.reverseRecOn with
  | nil => rfl
  | append_singleton events event ih =>
      have hclears : event.clears slot = event.clears other := by
        cases event with
        | clear slots => simpa [Event.clears] using h slots (by simp)
        | _ => rfl
      rw [told_concat, told_concat, hclears,
        ih fun slots hslots => h slots (List.mem_append_left _ hslots)]

/-! ## the record of an observer -/

theorem observers_serveBy (request : Request) :
    (bus.serveBy service request).2.observers = bus.observers.map (Observer.note request.access) :=
  bus.observers_afterAll service [request]

theorem observer_clearAll (slots : List Nat) (slot : Nat) {record : Record}
    (h : bus.observers[slot]? = some { record }) :
    (slots.foldl clearRecord bus).observers[slot]? =
      some { record := if slot ∈ slots then record.clear else record } := by
  induction slots generalizing bus record with
  | nil => exact h
  | cons first rest ih =>
      have hfirst : (bus.clearRecord first).observers[slot]? =
          some { record := if slot = first then record.clear else record } := by
        rw [clearRecord, List.getElem?_modify, h]
        by_cases heq : first = slot
        · simp [heq]
        · simp [heq, Ne.symm heq]
      have htwice : record.clear.clear = record.clear := by cases record <;> rfl
      rw [List.foldl_cons, ih _ hfirst]
      by_cases heq : slot = first <;> simp [heq, htwice]

/-- **Step**: the record of an attached observer after an event. -/
theorem observer_occur {slot : Nat} {record : Record}
    (h : bus.observers[slot]? = some { record }) (hkept : event ≠ .detachAll) :
    (bus.occur service event).observers[slot]? =
      some { record := event.onRecord slot record } := by
  cases event with
  | request request =>
      rw [occur, observers_serveBy, List.getElem?_map, h]
      rfl
  | requestFault accesses => exact h
  | cancelFault => exact h
  | reset => exact h
  | attach other =>
      have hslot : slot < bus.observers.length := (List.getElem?_eq_some_iff.mp h).1
      rw [occur, Bus.attach, List.getElem?_append_left hslot, h]
      rfl
  | clear slots => exact bus.observer_clearAll slots slot h
  | detachAll => exact absurd rfl hkept

/-- **Run**: what is so of a record when it is cleared, and with each access that it notes, is
so of the record of an attached observer and what the observer was told. -/
theorem record_of_run (Holds : List Access → Record → Prop)
    (hclear : ∀ accesses record, Holds accesses record → Holds [] record.clear)
    (hnote : ∀ accesses record access, Holds accesses record →
      Holds (accesses ++ [access]) (record.note access))
    {slot : Nat} {first : Record} (h : bus.observers[slot]? = some { record := first })
    (hfirst : Holds [] first) (hkept : .detachAll ∉ events) :
    ∃ record, (bus.occurAll service events).observers[slot]? = some { record } ∧
      Holds (told slot events) record := by
  -- Induction from the right: only the last event decides whether the record was just cleared.
  induction events using List.reverseRecOn with
  | nil => exact ⟨first, h, hfirst⟩
  | append_singleton events event ih =>
      rw [List.mem_append, List.mem_singleton, not_or] at hkept
      obtain ⟨record, hrecord, hholds⟩ := ih hkept.1
      refine ⟨event.onRecord slot record, ?_, ?_⟩
      · rw [occurAll_append]
        exact observer_occur service _ event hrecord (Ne.symm hkept.2)
      · rw [told_concat]
        cases event with
        | request request => exact hnote _ record request.access hholds
        | clear slots =>
            by_cases hslot : slot ∈ slots
            · simpa [Event.clears, Event.onRecord, hslot] using hclear _ record hholds
            · simpa [Event.clears, Event.onRecord, hslot, Event.access?] using hholds
        | _ => simpa [Event.clears, Event.onRecord, Event.access?] using hholds

/-- A trace lists what it was told. -/
theorem trace_of_run {slot : Nat} (h : bus.observers[slot]? = some { record := .trace [] })
    (hkept : .detachAll ∉ events) :
    (bus.occurAll service events).observers[slot]? =
      some { record := .trace (told slot events) } := by
  obtain ⟨record, hrecord, rfl⟩ := record_of_run service bus events
    (fun accesses record => record = .trace accesses)
    (fun accesses record hholds => by rw [hholds, Record.clear])
    (fun accesses record access hholds => by rw [hholds, Record.note]) h rfl hkept
  exact hrecord

/-- A tally counts what it was told. -/
theorem tally_of_run {slot : Nat} (h : bus.observers[slot]? = some { record := .tally {} })
    (hkept : .detachAll ∉ events) :
    ∃ counts, (bus.occurAll service events).observers[slot]? = some { record := .tally counts } ∧
      counts.Counts (told slot events) := by
  obtain ⟨record, hrecord, counts, rfl, hcounts⟩ := record_of_run service bus events
    (fun accesses record => ∃ counts, record = .tally counts ∧ counts.Counts accesses)
    (fun accesses record ⟨counts, hholds, _⟩ => ⟨{}, by rw [hholds, Record.clear],
      Tally.counts_nil⟩)
    (fun accesses record access ⟨counts, hholds, hcounts⟩ => ⟨counts.note access,
      by rw [hholds, Record.note], hcounts.concat access⟩) h ⟨{}, rfl, Tally.counts_nil⟩ hkept
  exact ⟨counts, hrecord, hcounts⟩

/-! ## the count of the bus -/

theorem accesses_clearAll (slots : List Nat) :
    (slots.foldl clearRecord bus).accesses = bus.accesses := by
  induction slots generalizing bus with
  | nil => rfl
  | cons slot rest ih => exact ih (bus.clearRecord slot)

theorem accesses_occur :
    (bus.occur service event).accesses = bus.accesses + event.access?.toList.length := by
  cases event with
  | request request => exact bus.accesses_afterAll service [request]
  | clear slots => exact bus.accesses_clearAll slots
  | _ => rfl

/-- The bus counts the accesses that it tells of. -/
theorem accesses_occurAll :
    (bus.occurAll service events).accesses =
      bus.accesses + (events.filterMap Event.access?).length := by
  induction events using List.reverseRecOn with
  | nil => rfl
  | append_singleton events event ih =>
      rw [occurAll_append, History.filterMap_concat, List.length_append, ← Nat.add_assoc, ← ih]
      exact accesses_occur service _ event

/-- What an observer was told is what was counted since it was last cleared. -/
theorem accesses_since (slot : Nat) :
    (bus.occurAll service events).accesses =
      (bus.occurAll service (History.upTo (Event.clears slot) events)).accesses +
        (told slot events).length := by
  have hsplit : History.upTo (Event.clears slot) events ++
      History.since (Event.clears slot) events = events := List.rdropWhile_append_rtakeWhile ..
  rw [told, ← accesses_occurAll, ← occurAll_append, hsplit]

/-! ## what observers have no part in -/

theorem unobserved_clearAll (slots : List Nat) :
    (slots.foldl clearRecord bus).unobserved = bus.unobserved := by
  induction slots generalizing bus with
  | nil => rfl
  | cons slot rest ih => exact ih (bus.clearRecord slot)

/-- What the host does with observers changes nothing beside them. -/
theorem unobserved_observation (h : event.isObservation = true) :
    (bus.occur service event).unobserved = bus.unobserved ∧ bus.ending? service event = none := by
  cases event with
  | attach record => exact ⟨rfl, rfl⟩
  | clear slots => exact ⟨bus.unobserved_clearAll slots, rfl⟩
  | detachAll => exact ⟨rfl, rfl⟩
  | _ => cases h

/-- Anything else is the same with observers and without. -/
theorem unobserved_occur (h : event.isObservation = false) :
    (bus.occur service event).unobserved = bus.unobserved.occur service event ∧
      bus.ending? service event = bus.unobserved.ending? service event := by
  cases event with
  | request request =>
      have haccesses : (bus.serveBy service request).2.accesses = bus.accesses + 1 :=
        bus.accesses_afterAll service [request]
      have hserve : bus.unobserved.serveBy service request =
          ((bus.serveBy service request).1,
            { (bus.serveBy service request).2 with
              observers := []
              accesses := bus.accesses + 1 }) :=
        bus.serveBy_with service [] bus.accesses request
      rw [← haccesses] at hserve
      exact ⟨(congrArg Prod.snd hserve).symm, congrArg some (congrArg Prod.fst hserve).symm⟩
  | requestFault accesses => exact ⟨rfl, rfl⟩
  | cancelFault => exact ⟨rfl, rfl⟩
  | reset => exact ⟨rfl, rfl⟩
  | _ => cases h

/-- **Run**: a run is the run on a bus without observers, in how its requests end and in all
that it leaves beside the observers. -/
theorem unobserved_of_run :
    bus.endings service events =
        bus.unobserved.endings service (events.filter fun event => !event.isObservation) ∧
      (bus.occurAll service events).unobserved =
        bus.unobserved.occurAll service (events.filter fun event => !event.isObservation) := by
  induction events generalizing bus with
  | nil => exact ⟨rfl, rfl⟩
  | cons event rest ih =>
      obtain ⟨hendings, hafter⟩ := ih (bus.occur service event)
      -- what the host does with observers is left out of the other run, which then stands still
      cases h : event.isObservation with
      | true =>
          obtain ⟨hbus, hnone⟩ := bus.unobserved_observation service event h
          rw [hbus] at hendings hafter
          rw [List.filter_cons_of_neg (by simp [h]), endings, hnone, hendings]
          exact ⟨rfl, hafter⟩
      | false =>
          obtain ⟨hbus, hending⟩ := bus.unobserved_occur service event h
          rw [hbus] at hendings hafter
          rw [List.filter_cons_of_pos (by simp [h]), endings, endings, hending, hendings]
          exact ⟨rfl, hafter⟩

/-- **Observers**: on any bus, with devices of any service and any fault policy, let a trace
and a tally be attached and then events of all kinds occur, of which the requests may end in
any way; the reads and writes of the bus are requests for one such service.

As long as observers are not detached and the two are cleared together, the trace lists the
requests since the last time, each as an access, in their order; the tally counts the same
accesses by kind and by address, its counts over all addresses add up to the reads and
writes, and the bus has counted as many since then.

Observers are not to be seen: with any events, those among them that attach, clear or detach
observers may be left out, and all observers with them, and the requests end alike and leave
the same bus. -/
theorem observers_of_run (bus : Bus) (service : Service) :
    (∀ (used : Bus) (request : Request), used.serve request = used.serveBy Request.use request) ∧
    (∀ events : List Event, .detachAll ∉ events →
      let trace := bus.observers.length
      let tally := bus.observers.length + 1
      (∀ slots, .clear slots ∈ events → (trace ∈ slots ↔ tally ∈ slots)) →
      let watched := (bus.attach (.trace [])).attach (.tally {})
      let after := watched.occurAll service events
      let noted := (History.since (Event.clears trace) events).filterMap Event.access?
      let cleared := watched.occurAll service (History.upTo (Event.clears trace) events)
      after.observers[trace]? = some { record := .trace noted } ∧
      ∃ counts, after.observers[tally]? = some { record := .tally counts } ∧
        counts.reads = noted.countP (fun access => access.kind = .read) ∧
        counts.writes = noted.countP (fun access => access.kind = .write) ∧
        (∀ address,
          counts.count address = noted.countP fun access => access.address = address) ∧
        counts.reads + counts.writes = ∑ address, counts.count address ∧
        after.accesses = cleared.accesses + (counts.reads + counts.writes)) ∧
    ∀ events : List Event,
      let others := events.filter fun event => !event.isObservation
      bus.endings service events = bus.unobserved.endings service others ∧
        (bus.occurAll service events).unobserved = bus.unobserved.occurAll service others := by
  refine ⟨serve_eq_serveBy, ?_, bus.unobserved_of_run service⟩
  intro events hkept trace tally hsame watched after noted cleared
  have htrace : watched.observers[trace]? = some { record := .trace [] } := by
    simp [watched, trace, attach]
  have htally : watched.observers[tally]? = some { record := .tally {} } := by
    simp [watched, tally, attach]
  -- both were cleared last at the same time, so that they were told the same
  have hnoted : told tally events = noted := (told_congr hsame).symm
  obtain ⟨counts, hrecord, hcounts⟩ := tally_of_run service watched events htally hkept
  rw [hnoted] at hcounts
  refine ⟨trace_of_run service watched events htrace hkept, counts, hrecord, hcounts.reads,
    hcounts.writes, hcounts.count, hcounts.total.trans hcounts.sum.symm, ?_⟩
  rw [hcounts.total]
  exact watched.accesses_since service events trace

/-- A trace and a tally that are cleared after one write, and then see a read that is served, a
write that was asked to fault and a read of an address that no device owns. -/
theorem observers_of_run_faults :
    let bus : Bus :=
      { mounts := [⟨"a", ⟨0x1000, 0x10⟩, .latch 7⟩]
        index := ⟨[⟨⟨0x1000, 0x10⟩, 0⟩]⟩
        policy := .error
        board := .fresh 0 0 }
    let events : List Event :=
      [.request (.write 0x1004 5), .clear [0, 1], .requestFault 1, .request (.read 0x1004),
        .request (.write 0x1002 6), .request (.read 0x3000)]
    let after := ((bus.attach (.trace [])).attach (.tally {})).occurAll Request.use events
    .detachAll ∉ events ∧
    (∀ slots, .clear slots ∈ events → (0 ∈ slots ↔ 1 ∈ slots)) ∧
    after.observers[0]? = some
      { record := .trace [⟨.read, 0x1004, 0⟩, ⟨.write, 0x1002, 6⟩, ⟨.read, 0x3000, 0⟩] } ∧
    ∃ counts, after.observers[1]? = some { record := .tally counts } ∧
      counts.reads = 2 ∧ counts.writes = 1 ∧ counts.count 0x1002 = 1 ∧
      ∑ address, counts.count address = 3 := by
  intro bus events after
  have hkept : .detachAll ∉ events := by decide
  have hsame : ∀ slots, .clear slots ∈ events → (0 ∈ slots ↔ 1 ∈ slots) := by
    simp [events]
  obtain ⟨htrace, counts, htally, hreads, hwrites, hcount, hsum, -⟩ :=
    (observers_of_run bus Request.use).2.1 events hkept hsame
  refine ⟨hkept, hsame, htrace, counts, htally, hreads, hwrites, hcount 0x1002, ?_⟩
  rw [← hsum, hreads, hwrites]
  rfl

end Bus

end BoardSim
