import BoardSim.Proofs.Bus.Requests
import BoardSim.Proofs.Bus.Refresh

/-!
# BoardSim.Proofs.Bus.Policy

Two buses that differ in nothing but what they do about a fault.

1. a fault is found before the policy is asked, so that a request ends alike under all
   policies, and leaves the same bus, up to what is made of the fault
   (`serveBy_withPolicy`; through a sequence `outcomes_withPolicy`);
2. where a fault ends the simulation nothing comes after it (`untilEnd`), so that the
   requests before the first fault are all that the two buses have in common, and the next
   is the end of the one and an error of the other (`policies_of_run`);
3. mounts and refreshes do not ask for the policy.  A refresh that fails is always refused,
   and so is a mount, unless the index names a mount that is gone.
-/

namespace BoardSim

/-! ## outcomes under a policy -/

namespace Outcome

variable {α : Type}

/-- Is the caller told of a fault? -/
def isFault : Outcome α → Bool
  | .fault _ => true
  | _ => false

/-- Does the simulation end? -/
def isEnded : Outcome α → Bool
  | .ended _ => true
  | _ => false

theorem isFault_iff {outcome : Outcome α} :
    outcome.isFault = true ↔ ∃ cause, outcome = .fault cause := by
  cases outcome <;> simp [isFault]

theorem map_ne_crashed {β : Type} (f : α → β) {outcome : Outcome α} {defect : Defect}
    (h : outcome ≠ .crashed defect) : outcome.map f ≠ .crashed defect := by
  cases outcome with
  | crashed other => simpa [map] using h
  | served | fault | ended => simp [map]

end Outcome

namespace FaultPolicy

variable {α : Type}

/-- The outcome under a policy, told from that under any other. -/
def settle (policy : FaultPolicy) : Outcome α → Outcome α
  | .fault cause | .ended cause => policy.onFault cause
  | .served value => .served value
  | .crashed defect => .crashed defect

@[simp] theorem settle_onFault (policy other : FaultPolicy) (cause : Fault) :
    policy.settle (other.onFault cause : Outcome α) = policy.onFault cause := by
  cases other <;> rfl

@[simp] theorem settle_conclude (policy other : FaultPolicy)
    (result : Except (Failure Violation) α) :
    policy.settle (other.conclude result) = policy.conclude result := by
  cases result with
  | ok value => rfl
  | error failure =>
      cases failure with
      | refused cause => exact policy.settle_onFault other _
      | broken defect => rfl

theorem isFault_settle_abort (outcome : Outcome α) : (abort.settle outcome).isFault = false := by
  cases outcome <;> rfl

theorem isEnded_settle_error (outcome : Outcome α) : (error.settle outcome).isEnded = false := by
  cases outcome <;> rfl

/-- The policy has no say where there is no fault. -/
theorem settle_eq_self (policy : FaultPolicy) {outcome : Outcome α}
    (hfault : outcome.isFault = false) (hended : outcome.isEnded = false) :
    policy.settle outcome = outcome := by
  cases outcome with
  | fault cause => cases hfault
  | ended cause => cases hended
  | served | crashed => rfl

end FaultPolicy

namespace Bus

/-- The bus under another policy. -/
def withPolicy (bus : Bus) (policy : FaultPolicy) : Bus := { bus with policy }

@[simp] theorem withPolicy_withPolicy (bus : Bus) (policy other : FaultPolicy) :
    (bus.withPolicy policy).withPolicy other = bus.withPolicy other := rfl

variable (service : Service) (bus : Bus)

/-! ## requests under a policy -/

theorem dispatch_withPolicy {α : Type} (policy : FaultPolicy) (address : UInt32)
    (use : Device → Board → (offset : UInt32) → Reply (Device × Board) α) :
    (bus.withPolicy policy).dispatch address use =
      (policy.settle (bus.dispatch address use).1,
        (bus.dispatch address use).2.withPolicy policy) := by
  have htarget : (bus.withPolicy policy).target? address = bus.target? address := rfl
  rw [dispatch_eq, dispatch_eq, htarget]
  cases bus.target? address with
  | none =>
      rw [FaultPolicy.settle_onFault]
      rfl
  | some target =>
      rw [FaultPolicy.settle_conclude]
      rfl

/-- **Step**: a request does the same under another policy, which has its say about the
fault alone. -/
theorem serveBy_withPolicy (policy : FaultPolicy) (request : Request) :
    (bus.withPolicy policy).serveBy service request =
      (policy.settle (bus.serveBy service request).1,
        (bus.serveBy service request).2.withPolicy policy) := by
  have hcountdown : (bus.withPolicy policy).faultAfter = bus.faultAfter := rfl
  rw [serveBy, serveBy, access_eq, access_eq, hcountdown]
  split
  next =>
    rw [FaultPolicy.settle_onFault]
    rfl
  next => exact (bus.noted request.access).dispatch_withPolicy policy _ _

/-- **Run**: so it is through a sequence of requests. -/
theorem outcomes_withPolicy (policy : FaultPolicy) (requests : List Request) :
    (bus.withPolicy policy).outcomes service requests =
      (bus.outcomes service requests).map policy.settle := by
  induction requests generalizing bus with
  | nil => rfl
  | cons request rest ih =>
      rw [outcomes_cons, outcomes_cons, List.map_cons, serveBy_withPolicy, ih]

theorem afterAll_withPolicy (policy : FaultPolicy) (requests : List Request) :
    (bus.withPolicy policy).afterAll service requests =
      (bus.afterAll service requests).withPolicy policy := by
  induction requests generalizing bus with
  | nil => rfl
  | cons request rest ih => rw [afterAll_cons, afterAll_cons, serveBy_withPolicy, ih]

/-- Under `error` no request ends the simulation. -/
theorem isEnded_of_mem_outcomes {requests : List Request} {outcome : Outcome (Option UInt32)}
    (hmem : outcome ∈ (bus.withPolicy .error).outcomes service requests) :
    outcome.isEnded = false := by
  rw [outcomes_withPolicy] at hmem
  obtain ⟨other, -, rfl⟩ := List.mem_map.mp hmem
  exact FaultPolicy.isEnded_settle_error other

/-- Under `abort` the caller is told of no fault. -/
theorem isFault_of_mem_outcomes {requests : List Request} {outcome : Outcome (Option UInt32)}
    (hmem : outcome ∈ (bus.withPolicy .abort).outcomes service requests) :
    outcome.isFault = false := by
  rw [outcomes_withPolicy] at hmem
  obtain ⟨other, -, rfl⟩ := List.mem_map.mp hmem
  exact FaultPolicy.isFault_settle_abort other

/-! ## mounts and refreshes under a policy -/

theorem mount_withPolicy (policy : FaultPolicy) (name : String) (range : AddressRange)
    (device : Device) :
    (bus.withPolicy policy).mount name range device =
      (bus.mount name range device).map fun after => after.withPolicy policy := by
  simp only [Bus.mount, withPolicy]
  split <;> rfl

theorem refresh_withPolicy (policy : FaultPolicy) :
    (bus.withPolicy policy).refresh = (bus.refresh.1, bus.refresh.2.withPolicy policy) :=
  refresh_congr rfl

/-! ## the end of the simulation -/

/-- How requests end up to the one that ends the simulation, and the bus after all of them
if none does. -/
def untilEnd (bus : Bus) : List Request → List (Outcome (Option UInt32)) × Option Bus
  | [] => ([], some bus)
  | request :: rest =>
      if (bus.serveBy service request).1.isEnded then ([(bus.serveBy service request).1], none)
      else
        ((bus.serveBy service request).1 :: (untilEnd (bus.serveBy service request).2 rest).1,
          (untilEnd (bus.serveBy service request).2 rest).2)

/-- The end only cuts the outcomes short. -/
theorem untilEnd_prefix (requests : List Request) :
    (bus.untilEnd service requests).1 <+: bus.outcomes service requests := by
  induction requests generalizing bus with
  | nil => exact List.prefix_rfl
  | cons request rest ih =>
      rw [untilEnd, outcomes_cons]
      split
      next => exact List.prefix_append [_] _
      next => exact List.prefix_cons_inj _ |>.mpr (ih _)

/-- Requests of which none ends the simulation are all served, and then the next ones. -/
theorem untilEnd_append {early : List Request}
    (h : ∀ outcome ∈ bus.outcomes service early, outcome.isEnded = false)
    (later : List Request) :
    bus.untilEnd service (early ++ later) =
      (bus.outcomes service early ++ ((bus.afterAll service early).untilEnd service later).1,
        ((bus.afterAll service early).untilEnd service later).2) := by
  induction early generalizing bus with
  | nil => rfl
  | cons request rest ih =>
      have hfirst := h _ List.mem_cons_self
      have hrest := ih (bus.serveBy service request).2 fun outcome hmem =>
        h outcome (List.mem_cons_of_mem _ hmem)
      rw [List.cons_append, untilEnd, hfirst, hrest]
      rfl

theorem untilEnd_eq {requests : List Request}
    (h : ∀ outcome ∈ bus.outcomes service requests, outcome.isEnded = false) :
    bus.untilEnd service requests =
      (bus.outcomes service requests, some (bus.afterAll service requests)) := by
  have happend := bus.untilEnd_append service h []
  rwa [List.append_nil, untilEnd, List.append_nil] at happend

/-- A request that ends the simulation is the last. -/
theorem untilEnd_cons_of_ended {request : Request} {cause : Fault}
    (h : (bus.serveBy service request).1 = .ended cause) (rest : List Request) :
    bus.untilEnd service (request :: rest) = ([.ended cause], none) := by
  rw [untilEnd, h]
  rfl

/-! ## the first fault -/

/-- The caller is told of no fault. -/
def Faultless (requests : List Request) : Prop :=
  ∀ outcome ∈ bus.outcomes service requests, outcome.isFault = false

/-- The first fault that the caller is told of is that of `hit`, which comes after `early`. -/
structure FirstFault (early : List Request) (hit : Request) (cause : Fault) : Prop where
  faultless : bus.Faultless service early
  fault : ((bus.afterAll service early).serveBy service hit).1 = .fault cause

/-- Among requests that are not without fault there is a first one that faults. -/
theorem faultless_or_firstFault (requests : List Request) :
    bus.Faultless service requests ∨
      ∃ early hit later cause, requests = early ++ hit :: later ∧
        bus.FirstFault service early hit cause := by
  induction requests generalizing bus with
  | nil => exact .inl fun _ hmem => nomatch hmem
  | cons request rest ih =>
      cases hfirst : (bus.serveBy service request).1.isFault with
      | true =>
          obtain ⟨cause, hcause⟩ := Outcome.isFault_iff.mp hfirst
          exact .inr ⟨[], request, rest, cause, rfl, fun _ hmem => (nomatch hmem), hcause⟩
      | false =>
          obtain hrest | ⟨early, hit, later, cause, rfl, hearly, hhit⟩ :=
            ih (bus.serveBy service request).2
          · exact .inl (List.forall_mem_cons.mpr ⟨hfirst, hrest⟩)
          · exact .inr ⟨request :: early, hit, later, cause, rfl,
              List.forall_mem_cons.mpr ⟨hfirst, hearly⟩, hhit⟩

section

variable {service bus} {requests early : List Request} {hit : Request} {cause : Fault}

theorem Faultless.outcomes_abort (h : (bus.withPolicy .error).Faultless service requests) :
    (bus.withPolicy .abort).outcomes service requests =
      (bus.withPolicy .error).outcomes service requests := by
  have hsettle : ∀ outcome ∈ (bus.withPolicy .error).outcomes service requests,
      FaultPolicy.abort.settle outcome = outcome := fun outcome hmem =>
    FaultPolicy.abort.settle_eq_self (h outcome hmem) (bus.isEnded_of_mem_outcomes service hmem)
  rw [← bus.withPolicy_withPolicy .error .abort, outcomes_withPolicy]
  exact (List.map_congr_left hsettle).trans (List.map_id _)

/-- Without a fault nothing ends the simulation. -/
theorem Faultless.isEnded_abort (h : (bus.withPolicy .error).Faultless service requests) :
    ∀ outcome ∈ (bus.withPolicy .abort).outcomes service requests, outcome.isEnded = false := by
  rw [h.outcomes_abort]
  exact fun _ hmem => bus.isEnded_of_mem_outcomes service hmem

/-- Without a fault all requests are served under `abort` as under `error`. -/
theorem Faultless.untilEnd_abort (h : (bus.withPolicy .error).Faultless service requests) :
    (bus.withPolicy .abort).untilEnd service requests =
      ((bus.withPolicy .error).outcomes service requests,
        some (((bus.withPolicy .error).afterAll service requests).withPolicy .abort)) := by
  rw [untilEnd_eq _ _ h.isEnded_abort, h.outcomes_abort, ← afterAll_withPolicy,
    withPolicy_withPolicy]

/-- The first fault ends the simulation under `abort`. -/
theorem FirstFault.untilEnd_abort (h : (bus.withPolicy .error).FirstFault service early hit cause)
    (later : List Request) :
    (bus.withPolicy .abort).untilEnd service (early ++ hit :: later) =
      ((bus.withPolicy .error).outcomes service early ++ [.ended cause], none) := by
  have hhit : (((bus.withPolicy .abort).afterAll service early).serveBy service hit).1 =
      .ended cause := by
    rw [← bus.withPolicy_withPolicy .error .abort, afterAll_withPolicy, serveBy_withPolicy, h.fault]
    rfl
  rw [untilEnd_append _ _ h.faultless.isEnded_abort, h.faultless.outcomes_abort,
    untilEnd_cons_of_ended _ _ hhit]

/-- The first fault is told to the caller under `error`, and the next requests are served. -/
theorem FirstFault.untilEnd_error (h : (bus.withPolicy .error).FirstFault service early hit cause)
    (later : List Request) :
    (bus.withPolicy .error).untilEnd service (early ++ hit :: later) =
      ((bus.withPolicy .error).outcomes service early ++ .fault cause ::
          (((bus.withPolicy .error).afterAll service early).serveBy service hit).2.outcomes
            service later,
        some ((bus.withPolicy .error).afterAll service (early ++ hit :: later))) := by
  rw [untilEnd_eq _ _ fun _ hmem => bus.isEnded_of_mem_outcomes service hmem, outcomes_append,
    outcomes_cons, h.fault]

/-! ## sound devices -/

theorem Sound.serveBy (h : bus.Sound) (request : Request) :
    (bus.serveBy Request.use request).2.Sound := by
  rw [← serve_eq_serveBy]
  cases request with
  | read address => exact h.handle (.read address)
  | write address value => exact h.handle (.write address value)

theorem Sound.serveBy_ne_crashed (h : bus.Sound) (request : Request) (defect : Defect) :
    (bus.serveBy Request.use request).1 ≠ .crashed defect := by
  rw [← serve_eq_serveBy]
  cases request with
  | read address => exact Outcome.map_ne_crashed some (h.read_ne_crashed address defect)
  | write address value => exact Outcome.map_ne_crashed _ (h.write_ne_crashed address value defect)

/-- No request of a sequence breaks off, wherever the index leads it. -/
theorem Sound.outcomes_ne_crashed (h : bus.Sound) (requests : List Request) :
    ∀ outcome ∈ bus.outcomes Request.use requests, ∀ defect, outcome ≠ .crashed defect := by
  induction requests generalizing bus with
  | nil => exact fun _ hmem => nomatch hmem
  | cons request rest ih =>
      exact List.forall_mem_cons.mpr ⟨h.serveBy_ne_crashed request, ih (h.serveBy request)⟩

/-! ## mounts and refreshes that fail -/

/-- A refresh that fails is refused. -/
theorem refused_of_refresh {failure : Failure MountError} (h : bus.refresh.1 = .error failure) :
    ∃ cause, failure = .refused cause := by
  obtain ⟨_, _, _, _, _, hrefused⟩ := refresh_eq_error h
  cases hrefused with
  | empty => exact ⟨_, rfl⟩
  | overlapping => exact ⟨_, rfl⟩

/-- A mount that fails beside an index in step with the mounts is refused. -/
theorem Indexed.refused_of_mount (h : bus.Indexed) {name : String} {range : AddressRange}
    {device : Device} {failure : Failure MountError}
    (hmount : bus.mount name range device = .error failure) :
    ∃ cause, failure = .refused cause := by
  obtain ⟨hfailure, -⟩ | ⟨other, -, hfailure, -⟩ := h.mount_refused hmount
  · exact ⟨_, hfailure⟩
  · exact ⟨_, hfailure⟩

end

/-! ## the two policies -/

/-- **Fault policies**: any bus, under `abort` and under `error`, whatever its devices are.
Requests of which none faults end alike under both and leave the same bus.  Else they do so
up to the first that faults; this ends the simulation under the one, and under the other the
caller is told and the next requests are served.  So under `abort` the caller is told of no
fault, and under `error` no request ends the simulation; nor does one break off where the
devices are sound.  Mounts and refreshes are the same under both policies.  What fails there
is refused, but for a mount that is in the way of an indexed range whose mount is gone. -/
theorem policies_of_run (bus : Bus) :
    let strict := bus.withPolicy .abort
    let lenient := bus.withPolicy .error
    (∀ (service : Service) (requests : List Request),
      (lenient.Faultless service requests ∧
          strict.untilEnd service requests =
            (lenient.outcomes service requests,
              some ((lenient.afterAll service requests).withPolicy .abort)) ∨
        ∃ early hit later cause, requests = early ++ hit :: later ∧
          lenient.FirstFault service early hit cause ∧
          strict.untilEnd service early =
            (lenient.outcomes service early,
              some ((lenient.afterAll service early).withPolicy .abort)) ∧
          strict.untilEnd service requests =
            (lenient.outcomes service early ++ [.ended cause], none) ∧
          lenient.untilEnd service requests =
            (lenient.outcomes service early ++ .fault cause ::
                ((lenient.afterAll service early).serveBy service hit).2.outcomes service later,
              some (lenient.afterAll service requests))) ∧
      (∀ outcome ∈ (strict.untilEnd service requests).1, outcome.isFault = false) ∧
      (∀ outcome ∈ lenient.outcomes service requests, outcome.isEnded = false) ∧
      lenient.untilEnd service requests =
        (lenient.outcomes service requests, some (lenient.afterAll service requests))) ∧
    (∀ request, bus.serve request = bus.serveBy Request.use request) ∧
    (bus.Sound → ∀ policy requests,
      ∀ outcome ∈ (bus.withPolicy policy).outcomes Request.use requests,
        ∀ defect, outcome ≠ .crashed defect) ∧
    (∀ policy name range device, (bus.withPolicy policy).mount name range device =
      (bus.mount name range device).map fun after => after.withPolicy policy) ∧
    (∀ name range device defect, bus.mount name range device = .error (.broken defect) ↔
      defect = .noSuchMount ∧ ∃ slot, bus.mounts.length ≤ slot ∧
        bus.index.insert range bus.mounts.length = .error (.overlaps slot)) ∧
    (bus.Indexed → ∀ name range device failure, bus.mount name range device = .error failure →
      ∃ cause, failure = .refused cause) ∧
    (∀ policy, (bus.withPolicy policy).refresh =
      (bus.refresh.1, bus.refresh.2.withPolicy policy)) ∧
    ∀ failure, bus.refresh.1 = .error failure → ∃ cause, failure = .refused cause := by
  intro strict lenient
  refine ⟨fun service requests => ⟨?_, ?_, ?_, ?_⟩, bus.serve_eq_serveBy, ?_,
    bus.mount_withPolicy, bus.mount_eq_broken_iff, ?_, bus.refresh_withPolicy, ?_⟩
  · obtain hnone | ⟨early, hit, later, cause, rfl, hfirst⟩ :=
      lenient.faultless_or_firstFault service requests
    · exact .inl ⟨hnone, hnone.untilEnd_abort⟩
    · exact .inr ⟨early, hit, later, cause, rfl, hfirst, hfirst.faultless.untilEnd_abort,
        hfirst.untilEnd_abort later, hfirst.untilEnd_error later⟩
  · intro outcome hmem
    have hfront := strict.untilEnd_prefix service requests
    exact bus.isFault_of_mem_outcomes service (hfront.subset hmem)
  · exact fun outcome hmem => bus.isEnded_of_mem_outcomes service hmem
  · exact untilEnd_eq _ _ fun outcome hmem => bus.isEnded_of_mem_outcomes service hmem
  · intro hsound policy requests
    have hpolicy : (bus.withPolicy policy).Sound := hsound
    exact hpolicy.outcomes_ne_crashed requests
  · exact fun hindexed name range device failure => hindexed.refused_of_mount
  · exact fun failure => refused_of_refresh

/-- Of two mounts the first is removed.  Another one that overlaps the second is then not
refused for it, under either policy: the index has the second in a slot that is gone. -/
theorem mount_after_removal :
    let removed (policy : FaultPolicy) := (fresh policy (.fresh 0 0)).hostRun
      [.operate (.mount "a" ⟨0x1000, 0x100⟩ (.latch 0)),
        .operate (.mount "b" ⟨0x2000, 0x100⟩ (.latch 0)), .remove 0]
    (removed .abort).mounts = [⟨"b", ⟨0x2000, 0x100⟩, .latch 0⟩] ∧
    (removed .error).mounts = [⟨"b", ⟨0x2000, 0x100⟩, .latch 0⟩] ∧
    (removed .abort).mount "c" ⟨0x2000, 0x100⟩ (.latch 0) = .error (.broken .noSuchMount) ∧
    (removed .error).mount "c" ⟨0x2000, 0x100⟩ (.latch 0) = .error (.broken .noSuchMount) := by
  refine ⟨rfl, rfl, rfl, rfl⟩

end Bus

end BoardSim
