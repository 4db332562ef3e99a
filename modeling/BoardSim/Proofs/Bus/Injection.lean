import BoardSim.Proofs.Bus.Requests

/-!
# BoardSim.Proofs.Bus.Injection

A fault that is requested shows in one access and leaves no trace of itself.

Until it shows, a bus with a countdown is the bus without one, beside the countdown
(`afterAll_requestFault`), so that to replace the request, to take it back or to reset the
bus is the same on both.  The access for which the count is down faults whatever its
address and calls no device (`serveBy_requested`).  After it the bus is again the one
without a request, with one more access counted and told of, neither of which has a part
in what follows.
-/

namespace BoardSim.Bus

variable (service : Service) {bus : Bus}

/-! ## while the countdown runs -/

/-- A bus without a request has none after an access. -/
theorem faultAfter_serveBy (h : bus.faultAfter = none) (request : Request) :
    (bus.serveBy service request).2.faultAfter = none := by
  have hcountdown : bus.faultAfter ≠ some 0 := by simp [h]
  rw [serveBy, access_of_ne hcountdown]
  simp [countdown, h]

theorem faultAfter_afterAll (h : bus.faultAfter = none) (requests : List Request) :
    (bus.afterAll service requests).faultAfter = none := by
  induction requests generalizing bus with
  | nil => exact h
  | cons request rest ih => exact ih (faultAfter_serveBy service h request)

/-- **Step**: an access while the countdown runs is served as it is without a request,
and the count goes down by one. -/
theorem serveBy_requestFault (h : bus.faultAfter = none) (accesses : Nat) (request : Request) :
    (bus.requestFault (accesses + 1)).serveBy service request =
      ((bus.serveBy service request).1,
        (bus.serveBy service request).2.requestFault accesses) := by
  have hplain : bus.faultAfter ≠ some 0 := by simp [h]
  have hrequested : (bus.requestFault (accesses + 1)).faultAfter ≠ some 0 := by
    simp [requestFault]
  have hdispatch := bus.dispatch_with bus.observers (some (accesses + 1)) bus.accesses
    request.access.address (service request)
  rw [serveBy, serveBy, access_of_ne hplain, access_of_ne hrequested]
  simp only [requestFault, hdispatch, countdown]

/-- **Run**: so it is as long as the countdown runs. -/
theorem outcomes_requestFault (h : bus.faultAfter = none) {requests : List Request} {accesses : Nat}
    (hlength : requests.length ≤ accesses) :
    (bus.requestFault accesses).outcomes service requests = bus.outcomes service requests := by
  induction requests generalizing bus accesses with
  | nil => rfl
  | cons request rest ih =>
      obtain ⟨left, rfl⟩ : ∃ left, accesses = left + 1 :=
        Nat.exists_eq_add_one.mpr (Nat.lt_of_lt_of_le (Nat.succ_pos _) hlength)
      have hrest := ih (faultAfter_serveBy service h request) (Nat.le_of_succ_le_succ hlength)
      rw [outcomes_cons, outcomes_cons, serveBy_requestFault service h, hrest]

theorem afterAll_requestFault (h : bus.faultAfter = none) {requests : List Request} {accesses : Nat}
    (hlength : requests.length ≤ accesses) :
    (bus.requestFault accesses).afterAll service requests =
      (bus.afterAll service requests).requestFault (accesses - requests.length) := by
  induction requests generalizing bus accesses with
  | nil => rfl
  | cons request rest ih =>
      obtain ⟨left, rfl⟩ : ∃ left, accesses = left + 1 :=
        Nat.exists_eq_add_one.mpr (Nat.lt_of_lt_of_le (Nat.succ_pos _) hlength)
      have hrest := ih (faultAfter_serveBy service h request) (Nat.le_of_succ_le_succ hlength)
      rw [afterAll_cons, afterAll_cons, serveBy_requestFault service h, hrest, List.length_cons,
        Nat.add_sub_add_right]

/-! ## when the count is down -/

/-- The access for which a fault is requested faults without a device being called, and
leaves the bus that had no request, told of the access. -/
theorem serveBy_requested (h : bus.faultAfter = none) (request : Request) :
    (bus.requestFault 0).serveBy service request =
      (bus.policy.onFault (.injected request.address), bus.noted request.access) := by
  have hdown : (bus.requestFault 0).faultAfter = some 0 := rfl
  have hnoted : (bus.requestFault 0).noted request.access = bus.noted request.access := by
    simp [noted, notify, countdown, requestFault, h]
  rw [serveBy, access_eq, if_pos hdown, hnoted, Request.address_access]
  rfl

/-- Without a countdown, to note an access is to tell the observers and to count it. -/
theorem noted_of_none (h : bus.faultAfter = none) (request : Access) :
    bus.noted request =
      { bus with
        observers := bus.observers.map (Observer.note request)
        accesses := bus.accesses + 1 } := by
  simp [noted, notify, countdown, h]

/-- An access that was only noted has no part in what follows. -/
theorem outcomes_noted (h : bus.faultAfter = none) (request : Access) (later : List Request) :
    (bus.noted request).outcomes service later = bus.outcomes service later := by
  rw [noted_of_none h, outcomes_with]

theorem afterAll_noted (h : bus.faultAfter = none) (request : Access) (later : List Request) :
    (bus.noted request).afterAll service later =
      { bus.afterAll service later with
        observers := (bus.observers.map (Observer.note request)).map (Observer.noteAll later)
        accesses := (bus.afterAll service later).accesses + 1 } := by
  rw [noted_of_none h, afterAll_with, accesses_afterAll, Nat.add_right_comm]

/-- **Injected faults**: take a bus that hands faults to the caller, with devices of any
service in any state, once with a fault requested after so many accesses (`armed`) and
once with none (`plain`).  The reads and writes of the bus are requests for one such
service.  As long as the count is not down both end all requests alike
and are the same bus beside the countdown; a new request replaces the old one, and to
take it back or to reset makes them the same.  The next request then faults with its own
address, whatever the devices would make of it, and its bus is the plain one, told of it.
All that follows ends as on the plain bus without that request, and leaves that bus, with
one more access counted and told to the observers. -/
theorem injected_fault {bus : Bus} (hpolicy : bus.policy = .error) (service : Service)
    (accesses : Nat) :
    let armed := bus.requestFault accesses
    let plain := bus.cancelFault
    (∀ (used : Bus) (request : Request), used.serve request = used.serveBy Request.use request) ∧
    (∀ early : List Request, early.length ≤ accesses →
      armed.outcomes service early = plain.outcomes service early ∧
      armed.afterAll service early =
        { plain.afterAll service early with faultAfter := some (accesses - early.length) } ∧
      (∀ again, (armed.afterAll service early).requestFault again =
        (plain.afterAll service early).requestFault again) ∧
      (armed.afterAll service early).cancelFault = plain.afterAll service early ∧
      (armed.afterAll service early).reset = (plain.afterAll service early).reset) ∧
    (∀ (early : List Request) (hit : Request) (later : List Request), early.length = accesses →
      (∀ rival : Service, (armed.afterAll service early).serveBy rival hit =
        (.fault (.injected hit.address), (plain.afterAll service early).noted hit.access)) ∧
      armed.outcomes service (early ++ hit :: later) =
        plain.outcomes service early ++ .fault (.injected hit.address) ::
          (plain.afterAll service early).outcomes service later ∧
      plain.outcomes service (early ++ later) =
        plain.outcomes service early ++ (plain.afterAll service early).outcomes service later ∧
      armed.afterAll service (early ++ hit :: later) =
        { plain.afterAll service (early ++ later) with
          observers := bus.observers.map (Observer.noteAll (early ++ hit :: later))
          accesses := (plain.afterAll service (early ++ later)).accesses + 1 }) := by
  intro armed plain
  have hnone : plain.faultAfter = none := rfl
  have hstill (early : List Request) : (plain.afterAll service early).faultAfter = none :=
    faultAfter_afterAll service hnone early
  have hafter (early : List Request) (hlength : early.length ≤ accesses) :
      armed.afterAll service early =
        (plain.afterAll service early).requestFault (accesses - early.length) :=
    afterAll_requestFault service hnone hlength
  refine ⟨serve_eq_serveBy, fun early hlength => ⟨outcomes_requestFault service hnone hlength,
    hafter early hlength, fun again => ?_, ?_, ?_⟩, ?_⟩
  · rw [hafter early hlength]
    rfl
  · rw [hafter early hlength, requestFault, cancelFault, ← hstill early]
  · rw [hafter early hlength]
    rfl
  · intro early hit later hlength
    have hle : early.length ≤ accesses := Nat.le_of_eq hlength
    have herror : (plain.afterAll service early).policy = .error :=
      (policy_afterAll service plain early).trans hpolicy
    have hhit (rival : Service) : (armed.afterAll service early).serveBy rival hit =
        (.fault (.injected hit.address), (plain.afterAll service early).noted hit.access) := by
      rw [hafter early hle, hlength, Nat.sub_self, serveBy_requested rival (hstill early), herror]
      rfl
    have hobservers : ((plain.afterAll service early).observers.map
        (Observer.note hit.access)).map (Observer.noteAll later) =
          bus.observers.map (Observer.noteAll (early ++ hit :: later)) := by
      rw [observers_afterAll, List.map_map, List.map_map]
      exact List.map_congr_left fun observer _ =>
        (observer.noteAll_append early (hit :: later)).symm
    refine ⟨hhit, ?_, plain.outcomes_append service early later, ?_⟩
    · have hearly : armed.outcomes service early = plain.outcomes service early :=
        outcomes_requestFault service hnone hle
      have hlater := outcomes_noted service (hstill early) hit.access later
      rw [outcomes_append, outcomes_cons, hhit service, hearly, hlater]
    · rw [afterAll_append, afterAll_cons, hhit service,
        afterAll_noted service (hstill early) hit.access later, hobservers, ← afterAll_append]

/-- A fault is requested after one read, and shows in a write that is not aligned either. -/
theorem injected_fault_unaligned :
    let bus : Bus :=
      { mounts := [⟨"a", ⟨0x1000, 0x10⟩, .latch 7⟩]
        index := ⟨[⟨⟨0x1000, 0x10⟩, 0⟩]⟩
        policy := .error
        board := .fresh 0 0 }
    bus.policy = .error ∧
    (bus.requestFault 1).outcomes Request.use
        ([.read 0x1004] ++ .write 0x1002 5 :: [.read 0x1004]) =
      [.served (some 11), .fault (.injected 0x1002), .served (some 11)] := by
  intro bus
  have hpolicy : bus.policy = .error := rfl
  have hfirst : (bus.cancelFault.serveBy Request.use (.read 0x1004)).1 = .served (some 11) := rfl
  have hnext : bus.cancelFault.afterAll Request.use [.read 0x1004] =
      { bus.cancelFault with accesses := 1 } := rfl
  have hthen : ((bus.cancelFault.afterAll Request.use [.read 0x1004]).serveBy Request.use
      (.read 0x1004)).1 = .served (some 11) := by
    rw [hnext]
    rfl
  obtain ⟨-, hended, -⟩ := (injected_fault hpolicy Request.use 1).2.2 [.read 0x1004]
    (.write 0x1002 5) [.read 0x1004] rfl
  refine ⟨hpolicy, ?_⟩
  rw [hended, outcomes_cons, outcomes_nil, outcomes_cons, outcomes_nil, hfirst, hthen]
  rfl

end BoardSim.Bus
