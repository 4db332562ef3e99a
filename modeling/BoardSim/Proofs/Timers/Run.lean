import Mathlib.Data.List.Basic
import BoardSim.Proofs.Device.PowerUp

/-!
# BoardSim.Proofs.Timers.Run

Runs of a timer bank, whose accesses are made at clock readings.

A bank is no more than its timers: whatever an access does, it does to each timer
apart from the others (`TimedAccess.effect`), so that the timer at an index after
an access is told from that timer alone (`getElem?_act`).  The tick and the number
of timers stay what they are at power-up.
-/

namespace BoardSim.Timers

/-! ## accesses at clock readings -/

/-- An access to a bank, made at a clock reading in nanoseconds. -/
structure TimedAccess where
  now : UInt64
  access : DeviceAccess
deriving DecidableEq

/-- The bank after an access. -/
def act (bank : Timers) (event : TimedAccess) : Timers :=
  match event.access with
  | .read offset => (bank.read event.now offset).state
  | .write offset value => (bank.write event.now offset value).state
  | .reset => bank.reset

/-- The bank after accesses, first to last. -/
def actAll (bank : Timers) (events : List TimedAccess) : Timers := events.foldl act bank

@[simp] theorem actAll_nil (bank : Timers) : bank.actAll [] = bank := rfl

@[simp] theorem actAll_cons (bank : Timers) (event : TimedAccess) (rest : List TimedAccess) :
    bank.actAll (event :: rest) = (bank.act event).actAll rest := rfl

/-- What an access does to the timer at an index, whatever the other timers are. -/
def TimedAccess.effect (event : TimedAccess) (tick index : Nat) : Timer → Timer :=
  match event.access with
  | .read offset => fun timer =>
      if indexOf? offset = some index then timer.catchUp tick event.now.toNat else timer
  | .write offset value => fun timer =>
      if indexOf? offset = some index then timer.rewrite value event.now.toNat else timer
  | .reset => fun _ => {}

/-! ## what stays -/

/-- No access changes the tick. -/
@[simp] theorem tick_act (bank : Timers) (event : TimedAccess) :
    (bank.act event).tick = bank.tick := by
  obtain ⟨now, access⟩ := event
  cases access with
  | read offset =>
      have htick := congrArg tick (bank.reset_read now offset)
      exact htick
  | write offset value =>
      have htick := congrArg tick (bank.reset_write now offset value)
      exact htick
  | reset => rfl

@[simp] theorem tick_actAll (bank : Timers) (events : List TimedAccess) :
    (bank.actAll events).tick = bank.tick := by
  induction events generalizing bank with
  | nil => rfl
  | cons event rest ih => rw [actAll_cons, ih, tick_act]

/-! ## timers one by one -/

/-- A timer that is read is brought up to the clock, and the others stay. -/
theorem timers_read (bank : Timers) (now : UInt64) {offset : UInt32} {target : Nat}
    (h : indexOf? offset = some target) :
    (bank.read now offset).state.timers =
      bank.timers.modify target (·.catchUp bank.tick now.toNat) := by
  rw [read, h, List.modify_eq_set_getElem?]
  simp only [readTimer]
  cases bank.timers[target]? <;> rfl

/-- A timer that is written has the new word, and the others stay. -/
theorem timers_write (bank : Timers) (now : UInt64) {offset : UInt32} {target : Nat}
    (h : indexOf? offset = some target) (value : UInt32) :
    (bank.write now offset value).state.timers =
      bank.timers.modify target (·.rewrite value now.toNat) := by
  rw [write, h, List.modify_eq_set_getElem?]
  cases htimer : bank.timers[target]? <;> simp [htimer]

/-- No access changes the number of timers. -/
theorem length_act {bank : Timers} (h : bank.timers.length = timerCount) (event : TimedAccess) :
    (bank.act event).timers.length = timerCount := by
  obtain ⟨now, access⟩ := event
  cases access with
  | read offset =>
      cases hindex : indexOf? offset with
      | none => simp [act, read, hindex, h]
      | some target =>
          have htimers := bank.timers_read now hindex
          simp [act, htimers, h]
  | write offset value =>
      cases hindex : indexOf? offset with
      | none => simp [act, write, hindex, h]
      | some target =>
          have htimers := bank.timers_write now hindex value
          simp [act, htimers, h]
  | reset => simp [act, reset]

theorem length_actAll {bank : Timers} (h : bank.timers.length = timerCount)
    (events : List TimedAccess) : (bank.actAll events).timers.length = timerCount := by
  induction events generalizing bank with
  | nil => exact h
  | cons event rest ih => exact ih (length_act h event)

/-- **Timers apart**: an access does to each timer what it does to that timer alone. -/
theorem getElem?_act {bank : Timers} (h : bank.timers.length = timerCount) (event : TimedAccess)
    (index : Nat) :
    (bank.act event).timers[index]? = bank.timers[index]?.map (event.effect bank.tick index) := by
  obtain ⟨now, access⟩ := event
  cases access with
  | read offset =>
      cases hindex : indexOf? offset with
      | none => simp [act, TimedAccess.effect, read, hindex]
      | some target =>
          have htimers := bank.timers_read now hindex
          simp [act, TimedAccess.effect, hindex, htimers, List.getElem?_modify]
  | write offset value =>
      cases hindex : indexOf? offset with
      | none => simp [act, TimedAccess.effect, write, hindex]
      | some target =>
          have htimers := bank.timers_write now hindex value
          simp [act, TimedAccess.effect, hindex, htimers, List.getElem?_modify]
  | reset =>
      cases htimer : bank.timers[index]? with
      | none =>
          rw [List.getElem?_eq_none_iff, h] at htimer
          simpa [act, reset] using htimer
      | some timer =>
          have hlt : index < timerCount := h ▸ (List.getElem?_eq_some_iff.mp htimer).1
          simp [act, TimedAccess.effect, reset, hlt]

end BoardSim.Timers
