import BoardSim.Proofs.Platform.FlashHistory

/-!
# BoardSim.Proofs.Platform.Reset

A board that was used and then reset cannot be told from one that was just built.

What a reset leaves is known in full: the devices as they were mounted, the pins low,
the chips erased at their sizes, and no fault requested (`Standard.reset_eq`).  Only
the clock goes on, and the policy, the observers and the count of accesses, which
belong to the host, are kept.

The observers and the count have no part in how anything is served.  Buses that
differ in nothing else (`Bus.Agree`) give the same answers to every sequence of
actions (`answers_eq_of_agree`), so the board that was reset answers as a fresh one
does that shares its clock.
-/

namespace BoardSim

/-! ## buses that differ in what only the host sees -/

/-- The buses differ at most in their observers and in how many accesses there were. -/
structure Bus.Agree (a b : Bus) : Prop where
  mounts : a.mounts = b.mounts
  index : a.index = b.index
  policy : a.policy = b.policy
  faultAfter : a.faultAfter = b.faultAfter
  board : a.board = b.board

namespace Bus

variable {a b : Bus}

theorem agree_with (bus : Bus) (observers : List Observer) (accesses : Nat) :
    Agree bus { bus with observers, accesses } where
  mounts := rfl
  index := rfl
  policy := rfl
  faultAfter := rfl
  board := rfl

theorem Agree.eq_with (h : Agree a b) :
    b = { a with observers := b.observers, accesses := b.accesses } := by
  obtain ⟨hmounts, hindex, hpolicy, hfault, hboard⟩ := h
  cases a
  cases b
  simp_all

/-- **Step**: an access ends alike on both buses, and they differ no more after it. -/
theorem Agree.access (h : Agree a b) {α : Type} (request : Access)
    (use : Device → Board → (offset : UInt32) → Reply (Device × Board) α) :
    (a.access request use).1 = (b.access request use).1 ∧
      Agree (a.access request use).2 (b.access request use).2 := by
  rw [h.eq_with]
  by_cases hcountdown : a.faultAfter = some 0
  · rw [access_eq, access_eq, if_pos hcountdown, if_pos hcountdown]
    exact ⟨rfl, rfl, rfl, rfl, rfl, rfl⟩
  · have hsame : ({ a with observers := b.observers, accesses := b.accesses } : Bus).faultAfter ≠
        some 0 := hcountdown
    have hdispatch := a.dispatch_with b.observers a.faultAfter b.accesses request.address use
    rw [access_of_ne hcountdown, access_of_ne hsame, hdispatch]
    exact ⟨rfl, rfl, rfl, rfl, rfl, rfl⟩

theorem Agree.read (h : Agree a b) (address : UInt32) :
    (a.read address).1 = (b.read address).1 ∧ Agree (a.read address).2 (b.read address).2 :=
  h.access ⟨.read, address, 0⟩ Device.read

theorem Agree.write (h : Agree a b) (address value : UInt32) :
    (a.write address value).1 = (b.write address value).1 ∧
      Agree (a.write address value).2 (b.write address value).2 :=
  h.access ⟨.write, address, value⟩ fun device board offset => device.write board offset value

theorem Agree.handle (h : Agree a b) (traffic : Traffic) :
    Agree (a.handle traffic) (b.handle traffic) := by
  cases traffic with
  | read address => exact (h.read address).2
  | write address value => exact (h.write address value).2
  | reset =>
      rw [h.eq_with]
      exact ⟨rfl, rfl, rfl, rfl, rfl⟩
  | requestFault accesses => exact ⟨h.mounts, h.index, h.policy, rfl, h.board⟩
  | cancelFault => exact ⟨h.mounts, h.index, h.policy, rfl, h.board⟩

end Bus

namespace Platform

/-! ## actions and their answers -/

/-- What is done to a board or to the bus around it: the host may also read the clock,
change the fault policy, and attach and detach observers. -/
inductive Action where
  | operation (operation : Operation)
  | readClock
  | setPolicy (policy : FaultPolicy)
  | attach (record : Record)
  | detachAll
  | clearRecord (i : Nat)
deriving DecidableEq

/-- The bus after an action. -/
def act (bus : Bus) : Action → Bus
  | .operation operation => perform bus operation
  | .readClock => bus
  | .setPolicy policy => { bus with policy }
  | .attach record => bus.attach record
  | .detachAll => bus.detachAll
  | .clearRecord i => bus.clearRecord i

/-- The bus after a sequence of actions. -/
def actAll (bus : Bus) (actions : List Action) : Bus := actions.foldl act bus

@[simp] theorem actAll_nil (bus : Bus) : actAll bus [] = bus := rfl

@[simp] theorem actAll_cons (bus : Bus) (action : Action) (rest : List Action) :
    actAll bus (action :: rest) = actAll (act bus action) rest := rfl

/-- What the one who acts is told. -/
inductive Answer where
  | word (outcome : Outcome UInt32)
  | written (outcome : Outcome Unit)
  | loaded (result : Except Preload.Error Unit)
  | time (nanos : UInt64)
  | nothing

/-- The answer to an action. -/
def answer (bus : Bus) : Action → Answer
  | .operation (.traffic (.read address)) => .word (bus.read address).1
  | .operation (.traffic (.write address value)) => .written (bus.write address value).1
  | .operation (.loadFlash chip offset bytes) =>
      .loaded ((Preload.intoFlash bus.board.flash chip offset bytes).map fun _ => ())
  | .readClock => .time bus.board.clock
  | _ => .nothing

/-- The answers to a sequence of actions, in order. -/
def answers (bus : Bus) : List Action → List Answer
  | [] => []
  | action :: rest => answer bus action :: answers (act bus action) rest

/-! ## the answers of buses that differ in what only the host sees -/

section

variable {a b : Bus}

theorem agree_changeNamed (h : a.Agree b) (name : String) (change : Device → Device) :
    (changeNamed a name change).Agree (changeNamed b name change) := by
  rw [h.eq_with]
  simp only [changeNamed, Bus.deviceNamed?, Bus.replaceNamed, Bus.slotOf?]
  split
  next =>
    split
    next => exact ⟨rfl, rfl, rfl, rfl, rfl⟩
    next => exact a.agree_with b.observers b.accesses
  next => exact a.agree_with b.observers b.accesses

theorem agree_perform (h : a.Agree b) (operation : Operation) :
    (perform a operation).Agree (perform b operation) := by
  cases operation with
  | traffic traffic => exact h.handle traffic
  | setOutputs | setInputs | advanceClock | setClock =>
      rw [h.eq_with]
      exact ⟨rfl, rfl, rfl, rfl, rfl⟩
  | loadFlash chip offset bytes =>
      rw [perform, perform, h.board]
      split
      next => exact ⟨h.mounts, h.index, h.policy, h.faultAfter, rfl⟩
      next => exact h
  | preloadMemory | pushMailbox | preloadMailbox => exact agree_changeNamed h _ _

/-- **Step**: an action leaves the buses differing no more than they did. -/
theorem agree_act (h : a.Agree b) (action : Action) : (act a action).Agree (act b action) := by
  cases action with
  | operation operation => exact agree_perform h operation
  | readClock => exact h
  | setPolicy policy => exact ⟨h.mounts, h.index, rfl, h.faultAfter, h.board⟩
  | attach | detachAll | clearRecord =>
      exact ⟨h.mounts, h.index, h.policy, h.faultAfter, h.board⟩

theorem answer_eq_of_agree (h : a.Agree b) (action : Action) :
    answer a action = answer b action := by
  cases action with
  | operation operation =>
      cases operation with
      | traffic traffic =>
          cases traffic with
          | read address => exact congrArg Answer.word (h.read address).1
          | write address value => exact congrArg Answer.written (h.write address value).1
          | reset | requestFault | cancelFault => rfl
      | loadFlash chip offset bytes =>
          have hflash : a.board.flash = b.board.flash := by rw [h.board]
          exact congrArg (fun flash : Flash.Pair =>
            Answer.loaded ((Preload.intoFlash flash chip offset bytes).map fun _ => ())) hflash
      | setOutputs | setInputs | advanceClock | setClock | preloadMemory | pushMailbox
      | preloadMailbox => rfl
  | readClock =>
      have hclock : a.board.clock = b.board.clock := by rw [h.board]
      exact congrArg Answer.time hclock
  | setPolicy | attach | detachAll | clearRecord => rfl

/-- **Run**: such buses answer every sequence of actions alike. -/
theorem answers_eq_of_agree (h : a.Agree b) (actions : List Action) :
    answers a actions = answers b actions := by
  induction actions generalizing a b with
  | nil => rfl
  | cons action rest ih =>
      rw [answers, answers, answer_eq_of_agree h, ih (agree_act h action)]

end

/-! ## what a reset leaves -/

variable {manifest : Manifest} {bus : Bus}

theorem Standard.act (h : Standard manifest bus) (action : Action) :
    Standard manifest (act bus action) := by
  cases action with
  | operation operation => exact h.perform operation
  | readClock | setPolicy | attach | detachAll | clearRecord => exact ⟨h.index, h.placed⟩

theorem Standard.actAll (h : Standard manifest bus) (actions : List Action) :
    Standard manifest (actAll bus actions) := by
  induction actions generalizing bus with
  | nil => exact h
  | cons action rest ih => exact ih (h.act action)

theorem Standard.size_act (h : Standard manifest bus) (action : Action) (chip : Flash.Chip) :
    ((Platform.act bus action).board.flash.image chip).size =
      (bus.board.flash.image chip).size := by
  cases action with
  | operation operation => exact (h.changed_perform operation).size chip
  | readClock | setPolicy | attach | detachAll | clearRecord => rfl

/-- No action changes the size of a chip. -/
theorem Standard.size_actAll (h : Standard manifest bus) (actions : List Action)
    (chip : Flash.Chip) :
    ((Platform.actAll bus actions).board.flash.image chip).size =
      (bus.board.flash.image chip).size := by
  induction actions generalizing bus with
  | nil => rfl
  | cons action rest ih => rw [actAll_cons, ih (h.act action), h.size_act]

/-- Chips of the same sizes are the same after they were erased as a whole. -/
theorem reset_flash_eq {before after : Flash.Pair}
    (h : ∀ chip, (after.image chip).size = (before.image chip).size) :
    after.reset = before.reset := by
  have hbmc : after.bmc.size = before.bmc.size := h .bmc
  have hpch : after.pch.size = before.pch.size := h .pch
  rw [Flash.Pair.reset, Flash.Pair.reset, Flash.Image.reset, Flash.Image.reset, Flash.Image.reset,
    Flash.Image.reset, hbmc, hpch]

/-- A reset returns the devices, the pins and the chips to their state at power-up, and
drops a requested fault. -/
theorem Standard.reset_eq (h : Standard manifest bus) :
    bus.reset =
      { bus with
        mounts := mounts manifest
        faultAfter := none
        board := { bus.board with pins := {}, flash := bus.board.flash.reset } } := by
  have hmounts : bus.reset.mounts = mounts manifest := by rw [Bus.mounts_reset, h.placed]
  rw [← hmounts, ← h.board_reset]
  rfl

/-- The board that was built, with the clock of a board that was used and with what the
host keeps there, is the board that the reset leaves. -/
theorem reset_actAll_eq {plan : Plan} {environment : Option String} {bus : Bus}
    (hbuild : plan.build environment = .ok bus) (actions : List Action) :
    (actAll bus actions).reset =
      { bus with
        board := { bus.board with clock := (actAll bus actions).board.clock }
        policy := (actAll bus actions).policy
        observers := (actAll bus actions).observers
        accesses := (actAll bus actions).accesses } := by
  obtain ⟨bmcSize, pchSize, -, -, -, rfl⟩ := (build_eq_ok_iff plan environment bus).mp hbuild
  have hstandard :=
    standard_assembled plan.manifest (plan.resolvedPolicy environment) bmcSize pchSize
  have hused := hstandard.actAll actions
  have hflash := reset_flash_eq (hstandard.size_actAll actions)
  rw [hused.reset_eq, hused.index, hflash]
  rfl

/-- **Reset**: a board that was built from a plan, used in any way and then reset has the
devices, the pins and the chips of a board that was just built from the plan, and no
fault is requested.  Under any fault policy it answers all that is done afterwards as a
fresh board does that shares its clock, so it does under its own if that was not
changed; and a second reset changes nothing. -/
theorem reset_like_fresh {plan : Plan} {environment : Option String} {bus : Bus}
    (hbuild : plan.build environment = .ok bus) (actions : List Action) :
    let used := actAll bus actions
    let fresh : Bus := { bus with board := { bus.board with clock := used.board.clock } }
    used.reset.mounts = bus.mounts ∧
    used.reset.board.pins = bus.board.pins ∧
    used.reset.board.flash = bus.board.flash ∧
    used.reset.faultAfter = none ∧
    (∀ policy later,
      answers { used.reset with policy } later = answers { fresh with policy } later) ∧
    (used.policy = bus.policy → ∀ later, answers used.reset later = answers fresh later) ∧
    used.reset.reset = used.reset := by
  intro used fresh
  have hreset : used.reset =
      { fresh with
        policy := used.policy, observers := used.observers, accesses := used.accesses } :=
    reset_actAll_eq hbuild actions
  have hanswers (policy : FaultPolicy) (later : List Action) :
      answers { used.reset with policy } later = answers { fresh with policy } later := by
    rw [hreset]
    exact (answers_eq_of_agree (Bus.agree_with { fresh with policy } _ _) later).symm
  obtain ⟨bmcSize, pchSize, -, -, -, hbus⟩ := (build_eq_ok_iff plan environment bus).mp hbuild
  have hused : Standard plan.manifest used :=
    (hbus ▸ standard_assembled plan.manifest _ bmcSize pchSize).actAll actions
  refine ⟨?_, ?_, ?_, ?_, hanswers, ?_, ?_⟩
  · rw [hreset]
  · rw [hreset]
  · rw [hreset]
  · rw [hused.reset_eq]
  · intro hpolicy later
    have hown : used.reset = { used.reset with policy := bus.policy } := by rw [hreset, hpolicy]
    rw [hown]
    exact hanswers bus.policy later
  · rw [hused.reset.reset_eq, hused.reset_eq]
    rfl

/-- A small board with a timer armed, the message of a session half fed, a byte waiting
in the mailbox, bytes loaded into the selected chip and a fault requested, after the
clock moved on and the policy changed. -/
theorem reset_like_fresh_small :
    let plan : Plan := { policy := some .error, flashSizes := some (16, 16) }
    let bus := assembled {} .error 16 16
    let actions : List Action :=
      [.operation (.setOutputs 0x40), .operation (.loadFlash .bmc 0 [1, 2, 3, 4]),
        .operation (.traffic (.write 0x1100 0x80005)), .operation (.traffic (.write 0x1308 8)),
        .operation (.traffic (.write 0x1300 2)), .operation (.traffic (.write 0x1304 7)),
        .operation (.pushMailbox [9]), .attach (.trace []),
        .operation (.traffic (.requestFault 5)), .operation (.setClock 1000000000),
        .setPolicy .abort]
    let later : List Action :=
      [.operation (.traffic (.read 0x1100)), .operation (.traffic (.write 0x1304 7)),
        .operation (.traffic (.read 0x2038)), .operation (.traffic (.read 0x04000000)), .readClock]
    plan.build none = .ok bus ∧
    (actAll bus actions).faultAfter = some 5 ∧
    (actAll bus actions).board.clock = 1000000000 ∧
    (actAll bus actions).reset.faultAfter = none ∧
    (actAll bus actions).reset.mounts = bus.mounts ∧
    (actAll bus actions).reset.board.flash = bus.board.flash ∧
    answers { (actAll bus actions).reset with policy := .error } later =
      answers
        { bus with
          board := { bus.board with clock := (actAll bus actions).board.clock }
          policy := .error }
        later := by
  intro plan bus actions later
  have hbuild : plan.build none = .ok bus :=
    (build_eq_ok_iff plan none bus).mpr ⟨16, 16, rfl, by decide, by decide, rfl⟩
  obtain ⟨hmounts, -, hflash, hfault, hanswers, -⟩ := reset_like_fresh hbuild actions
  exact ⟨hbuild, rfl, rfl, hfault, hmounts, hflash, hanswers .error later⟩

end Platform

end BoardSim
