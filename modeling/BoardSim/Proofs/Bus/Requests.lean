import BoardSim.Proofs.Bus.Access

/-!
# BoardSim.Proofs.Bus.Requests

Sequences of reads and writes, with what the firmware is told of each.

A request is served by handing it on to a device, and how devices serve requests is left
open (`Service`): the devices of this library serve them by `Device.read` and
`Device.write` (`Request.use`), which makes `serve` the reads and writes of the bus
(`serve_eq_serveBy`).  What is said of every service is said of devices of any kind.

Two things have no part in what the firmware is told, and what becomes of them is known
beforehand: the count of accesses, and the records of the observers, who are told of each
request before it is served (`afterAll_with`).
-/

namespace BoardSim

/-- The same outcome, with the value read as another one. -/
def Outcome.map {α β : Type} (f : α → β) : Outcome α → Outcome β
  | .served value => .served (f value)
  | .fault cause => .fault cause
  | .ended cause => .ended cause
  | .crashed defect => .crashed defect

/-- The same reply, with the value read as another one. -/
def Reply.mapValue {σ α β : Type} (f : α → β) (reply : Reply σ α) : Reply σ β :=
  ⟨reply.result.map f, reply.state⟩

@[simp] theorem Reply.result_mapValue {σ α β : Type} (f : α → β) (reply : Reply σ α) :
    (reply.mapValue f).result = reply.result.map f := rfl

@[simp] theorem Reply.state_mapValue {σ α β : Type} (f : α → β) (reply : Reply σ α) :
    (reply.mapValue f).state = reply.state := rfl

@[simp] theorem FaultPolicy.conclude_map {α β : Type} (policy : FaultPolicy) (f : α → β)
    (result : Except (Failure Violation) α) :
    policy.conclude (result.map f) = (policy.conclude result).map f := by
  cases result with
  | ok value => rfl
  | error failure =>
      cases failure with
      | refused cause => cases policy <;> rfl
      | broken defect => rfl

/-- An access as the firmware asks for it. -/
inductive Request where
  | read (address : UInt32)
  | write (address value : UInt32)
deriving DecidableEq

/-- How devices serve requests; a read gives a word. -/
abbrev Service : Type :=
  Request → Device → Board → (offset : UInt32) → Reply (Device × Board) (Option UInt32)

namespace Request

/-- The address that is asked for. -/
def address : Request → UInt32
  | .read address | .write address _ => address

/-- The access that observers are told of. -/
def access : Request → Access
  | .read address => ⟨.read, address, 0⟩
  | .write address value => ⟨.write, address, value⟩

@[simp] theorem address_access (request : Request) : request.access.address = request.address := by
  cases request <;> rfl

/-- The service of the devices: they are read or written. -/
def use : Service
  | .read _ => fun device board offset => (device.read board offset).mapValue some
  | .write _ value => fun device board offset =>
      (device.write board offset value).mapValue fun _ => none

end Request

/-- The record of an observer who is told of requests, first to last. -/
def Observer.noteAll (requests : List Request) (observer : Observer) : Observer :=
  requests.foldl (fun observer request => observer.note request.access) observer

@[simp] theorem Observer.noteAll_nil : noteAll [] = id := rfl

theorem Observer.noteAll_append (early later : List Request) (observer : Observer) :
    observer.noteAll (early ++ later) = (observer.noteAll early).noteAll later :=
  List.foldl_append ..

namespace Bus

/-! ## one request -/

/-- How a request ends and the bus after it. -/
def serve (bus : Bus) : Request → Outcome (Option UInt32) × Bus
  | .read address => ((bus.read address).1.map some, (bus.read address).2)
  | .write address value =>
      ((bus.write address value).1.map fun _ => none, (bus.write address value).2)

/-- How a request ends, and the bus after it, for devices of a given service. -/
def serveBy (service : Service) (bus : Bus) (request : Request) : Outcome (Option UInt32) × Bus :=
  bus.access request.access (service request)

theorem dispatch_mapValue {α β : Type} (bus : Bus) (address : UInt32) (f : α → β)
    (use : Device → Board → (offset : UInt32) → Reply (Device × Board) α) :
    bus.dispatch address (fun device board offset => (use device board offset).mapValue f) =
      ((bus.dispatch address use).1.map f, (bus.dispatch address use).2) := by
  have hfault (cause : Fault) :
      (bus.policy.onFault cause : Outcome β) = (bus.policy.onFault cause : Outcome α).map f := by
    cases bus.policy <;> rfl
  simp only [dispatch]
  split
  next => simp [hfault]
  next =>
    split
    next => simp [hfault]
    next => split <;> simp [hfault]

theorem access_mapValue {α β : Type} (bus : Bus) (request : Access) (f : α → β)
    (use : Device → Board → (offset : UInt32) → Reply (Device × Board) α) :
    bus.access request (fun device board offset => (use device board offset).mapValue f) =
      ((bus.access request use).1.map f, (bus.access request use).2) := by
  rw [access_eq, access_eq]
  split
  next => cases bus.policy <;> rfl
  next => exact (bus.noted request).dispatch_mapValue request.address f use

/-- The reads and writes of the bus are what the devices make of requests. -/
theorem serve_eq_serveBy (bus : Bus) (request : Request) :
    bus.serve request = bus.serveBy Request.use request := by
  cases request with
  | read address => exact (bus.access_mapValue _ some Device.read).symm
  | write address value =>
      exact (bus.access_mapValue _ (fun _ => none) fun device board offset =>
        device.write board offset value).symm

/-! ## sequences of requests -/

/-- How requests end, first to last. -/
def outcomes (service : Service) (bus : Bus) : List Request → List (Outcome (Option UInt32))
  | [] => []
  | request :: rest =>
      (bus.serveBy service request).1 :: outcomes service (bus.serveBy service request).2 rest

/-- The bus after a sequence of requests. -/
def afterAll (service : Service) (bus : Bus) (requests : List Request) : Bus :=
  requests.foldl (fun bus request => (bus.serveBy service request).2) bus

variable (service : Service) (bus : Bus)

@[simp] theorem outcomes_nil : bus.outcomes service [] = [] := rfl

@[simp] theorem outcomes_cons (request : Request) (rest : List Request) :
    bus.outcomes service (request :: rest) =
      (bus.serveBy service request).1 ::
        (bus.serveBy service request).2.outcomes service rest := rfl

@[simp] theorem afterAll_nil : bus.afterAll service [] = bus := rfl

@[simp] theorem afterAll_cons (request : Request) (rest : List Request) :
    bus.afterAll service (request :: rest) =
      (bus.serveBy service request).2.afterAll service rest := rfl

theorem outcomes_append (early later : List Request) :
    bus.outcomes service (early ++ later) =
      bus.outcomes service early ++ (bus.afterAll service early).outcomes service later := by
  induction early generalizing bus with
  | nil => rfl
  | cons request rest ih => simp [ih]

theorem afterAll_append (early later : List Request) :
    bus.afterAll service (early ++ later) =
      (bus.afterAll service early).afterAll service later :=
  List.foldl_append ..

/-- The fault policy is not for devices to change. -/
theorem policy_serveBy (request : Request) :
    (bus.serveBy service request).2.policy = bus.policy := by
  obtain hstate | ⟨slot, mount, offset, -, hstate⟩ :=
    bus.access_cases request.access (service request)
  · rw [serveBy, hstate, policy_noted]
  · rw [serveBy, hstate, policy_update, policy_noted]

theorem policy_afterAll (requests : List Request) :
    (bus.afterAll service requests).policy = bus.policy := by
  induction requests generalizing bus with
  | nil => rfl
  | cons request rest ih => rw [afterAll_cons, ih, policy_serveBy]

/-! ## what has no part in the outcomes -/

/-- **Step**: the observers and the count change as they do anyway, and nothing else
depends on them. -/
theorem serveBy_with (observers : List Observer) (accesses : Nat) (request : Request) :
    ({ bus with observers, accesses } : Bus).serveBy service request =
      ((bus.serveBy service request).1,
        { (bus.serveBy service request).2 with
          observers := observers.map (Observer.note request.access)
          accesses := accesses + 1 }) := by
  simp only [serveBy]
  by_cases hcountdown : bus.faultAfter = some 0
  · rw [access_eq, access_eq, if_pos hcountdown, if_pos hcountdown]
    rfl
  · have hsame : ({ bus with observers, accesses } : Bus).faultAfter ≠ some 0 := hcountdown
    rw [access_of_ne hcountdown, access_of_ne hsame, dispatch_with]
    rfl

/-- **Run**: so it is through a sequence of requests. -/
theorem outcomes_with (observers : List Observer) (accesses : Nat) (requests : List Request) :
    ({ bus with observers, accesses } : Bus).outcomes service requests =
      bus.outcomes service requests := by
  induction requests generalizing bus observers accesses with
  | nil => rfl
  | cons request rest ih => rw [outcomes_cons, outcomes_cons, serveBy_with, ih]

theorem afterAll_with (observers : List Observer) (accesses : Nat) (requests : List Request) :
    ({ bus with observers, accesses } : Bus).afterAll service requests =
      { bus.afterAll service requests with
        observers := observers.map (Observer.noteAll requests)
        accesses := accesses + requests.length } := by
  induction requests generalizing bus observers accesses with
  | nil => simp
  | cons request rest ih =>
      rw [afterAll_cons, afterAll_cons, serveBy_with, ih, List.map_map, List.length_cons,
        Nat.add_right_comm, Nat.add_assoc]
      rfl

/-- The observers are told of each request and of nothing else. -/
theorem observers_afterAll (requests : List Request) :
    (bus.afterAll service requests).observers = bus.observers.map (Observer.noteAll requests) :=
  congrArg Bus.observers (bus.afterAll_with service bus.observers bus.accesses requests)

/-- Each request is counted, and nothing else is. -/
theorem accesses_afterAll (requests : List Request) :
    (bus.afterAll service requests).accesses = bus.accesses + requests.length :=
  congrArg Bus.accesses (bus.afterAll_with service bus.observers bus.accesses requests)

end Bus

end BoardSim
