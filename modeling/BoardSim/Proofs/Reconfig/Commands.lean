import BoardSim.Proofs.Device.History
import BoardSim.Proofs.Device.PowerUp

/-!
# BoardSim.Proofs.Reconfig.Commands

What the reconfiguration block shows, told from the accesses that it accepted since
power-up or the last reset.

1. the block is *busy* while it was polled fewer times than it is to be since the last
   command (`BusyAfter`); it refuses commands exactly then;
2. the counters are the numbers of commands with the bit for them;
3. the active image is the one that was selected when a reconfiguration was triggered
   last, and the reason tells whether that was the primary one.

`Shows` states this of a block and a history, and is kept by each access (`shows_read`,
`shows_write`); with a reset the history starts over (`Follows`).  A refused command is no
part of the history, so it starts nothing over.
-/

namespace BoardSim.Reconfig

open RegisterDevice (perform run accepted results)
open History (since upTo last? since_noted since_concat upTo_concat last?_concat)

instance : RegisterDevice Reconfig where
  readAt := read
  writeAt := write
  powerUp := reset

/-! ## what counts of an access -/

/-- The offset of the register that takes the command. -/
def Command.offset : Command → UInt32
  | .control => 0x00
  | .selection => 0x08

/-- Is a command written? -/
def isCommand : DeviceAccess → Bool
  | .write offset _ => offset = 0x00 || offset = 0x08
  | _ => false

/-- Is a command written to the control register with this bit set? -/
def isControl (bit : Nat) : DeviceAccess → Bool
  | .write offset value => offset = 0x00 && hasBit value bit
  | _ => false

/-- Is a reconfiguration triggered? -/
def isTrigger : DeviceAccess → Bool := isControl 0

/-- Is the busy register read? -/
def isPoll : DeviceAccess → Bool
  | .read offset => offset = 0x0C
  | _ => false

/-- The image that is selected, if one is. -/
def selected? : DeviceAccess → Option BootImage
  | .write offset value =>
      if offset = 0x08 then some (if hasBit value 1 then .secondary else .primary) else none
  | _ => none

theorem isControl_eq_false {access : DeviceAccess} (h : isCommand access = false) (bit : Nat) :
    isControl bit access = false := by
  cases access with
  | write offset value =>
      rw [isCommand, Bool.or_eq_false_iff] at h
      rw [isControl, h.1, Bool.false_and]
  | read | reset => rfl

theorem selected?_eq_none {access : DeviceAccess} (h : isCommand access = false) :
    selected? access = none := by
  cases access with
  | write offset value =>
      rw [isCommand, Bool.or_eq_false_iff] at h
      rw [selected?, if_neg (of_decide_eq_false h.2)]
  | read | reset => rfl

/-! ## what a history tells -/

/-- How often the busy register was read since the last command. -/
def pollCount (history : List DeviceAccess) : Nat := (since isCommand history).countP isPoll

/-- Is a block with this number of busy reads busy after the history? -/
def BusyAfter (polls : Nat) (history : List DeviceAccess) : Prop :=
  history.any isCommand = true ∧ pollCount history < polls

instance (polls : Nat) (history : List DeviceAccess) : Decidable (BusyAfter polls history) :=
  inferInstanceAs (Decidable (_ ∧ _))

/-- The image that was selected last; the primary one if none was. -/
def imageSelected (history : List DeviceAccess) : BootImage :=
  (last? selected? history).getD .primary

/-- The image that was selected when a reconfiguration was triggered last. -/
def imageTriggered (history : List DeviceAccess) : BootImage :=
  imageSelected (upTo isTrigger history)

theorem pollCount_concat (history : List DeviceAccess) (access : DeviceAccess) :
    pollCount (history ++ [access]) =
      if isCommand access then 0 else pollCount history + if isPoll access then 1 else 0 := by
  rw [pollCount, since_concat]
  split
  next => rfl
  next => rw [List.countP_append, List.countP_singleton, pollCount]

theorem imageSelected_concat (history : List DeviceAccess) (access : DeviceAccess) :
    imageSelected (history ++ [access]) = (selected? access).getD (imageSelected history) := by
  rw [imageSelected, last?_concat]
  cases selected? access <;> rfl

theorem imageTriggered_concat (history : List DeviceAccess) (access : DeviceAccess) :
    imageTriggered (history ++ [access]) =
      if isTrigger access then imageSelected (history ++ [access]) else imageTriggered history := by
  rw [imageTriggered, upTo_concat]
  split <;> rfl

/-! ## the block and its history -/

theorem reconfigure_eq (block : Reconfig) :
    block.reconfigure =
      { block with
        reason := if block.selectedImage = .primary then primaryReason else 0
        activeImage := block.selectedImage
        reconfigurations := block.reconfigurations + 1 } := by
  rw [reconfigure]
  cases block.selectedImage <;> rfl

/-- What a word written to the control register does, bit by bit. -/
theorem controlEffect_eq (value : UInt32) (block : Reconfig) :
    controlEffect value block =
      { block with
        watchdogResets := block.watchdogResets + if hasBit value 1 then 1 else 0
        reconfigurations := block.reconfigurations + if hasBit value 0 then 1 else 0
        activeImage := if hasBit value 0 then block.selectedImage else block.activeImage
        reason :=
          if hasBit value 0 then if block.selectedImage = .primary then primaryReason else 0
          else block.reason } := by
  cases hwatchdog : hasBit value 1 <;> cases htrigger : hasBit value 0 <;>
    simp [controlEffect, reconfigure_eq, selectedImage, hwatchdog, htrigger]

/-- The block shows what the history tells. -/
structure Shows (history : List DeviceAccess) (block : Reconfig) : Prop where
  selected : block.selectedImage = imageSelected history
  remaining : block.busyRemaining =
    if history.any isCommand then block.busyPolls - pollCount history else 0
  reconfigurations : block.reconfigurations = history.countP (isControl 0)
  watchdogResets : block.watchdogResets = history.countP (isControl 1)
  image : block.activeImage = imageTriggered history
  reason : block.reason =
    if history.any isTrigger ∧ imageTriggered history = .primary then primaryReason else 0

theorem shows_fresh (polls : Nat) : Shows [] (fresh polls) where
  selected := by simp [fresh, selectedImage, hasBit, imageSelected]
  remaining := rfl
  reconfigurations := rfl
  watchdogResets := rfl
  image := rfl
  reason := rfl

namespace Shows

variable {history : List DeviceAccess} {block : Reconfig}

theorem isBusy_iff (h : Shows history block) :
    block.isBusy = true ↔ BusyAfter block.busyPolls history := by
  rw [isBusy, decide_eq_true_eq, h.remaining, BusyAfter]
  split
  next hcommand => rw [Nat.sub_pos_iff_lt, and_iff_right hcommand]
  next hcommand => simp [hcommand]

/-- An access that is no command has a part in what is shown only if it is a poll. -/
theorem aside (h : Shows history block) {access : DeviceAccess}
    (hcommand : isCommand access = false) (watchdog : UInt32) :
    Shows (history ++ [access])
      { block with
        watchdog
        busyRemaining := block.busyRemaining - if isPoll access then 1 else 0 } := by
  have hcontrol (bit : Nat) : isControl bit access = false := isControl_eq_false hcommand bit
  have hselected : selected? access = none := selected?_eq_none hcommand
  have htrigger : isTrigger access = false := hcontrol 0
  refine ⟨?_, ?_, ?_, ?_, ?_, ?_⟩
  · rw [imageSelected_concat, hselected]
    exact h.selected
  · simp only [List.any_append, List.any_cons, List.any_nil, hcommand, Bool.or_false,
      pollCount_concat, Bool.false_eq_true, if_false, h.remaining]
    split
    next => exact Nat.sub_sub ..
    next => exact Nat.zero_sub _
  · simpa [hcontrol 0] using h.reconfigurations
  · simpa [hcontrol 1] using h.watchdogResets
  · rw [imageTriggered_concat, htrigger]
    exact h.image
  · rw [imageTriggered_concat, htrigger]
    simpa [htrigger] using h.reason

/-- A selection takes effect with the next trigger. -/
theorem selection (h : Shows history block) (value : UInt32) :
    Shows (history ++ [.write 0x08 value])
      { block with busyRemaining := block.busyPolls, selection := value &&& 3 } := by
  have hcommand : isCommand (.write 0x08 value) = true := rfl
  have hcontrol (bit : Nat) : isControl bit (.write 0x08 value) = false := rfl
  have htrigger : isTrigger (.write 0x08 value) = false := rfl
  refine ⟨?_, ?_, ?_, ?_, ?_, ?_⟩
  · have hmask : hasBit 3 1 = true := by decide
    rw [imageSelected_concat, selectedImage, hasBit_and, hmask, Bool.and_true]
    rfl
  · simp [hcommand, pollCount_concat]
  · simpa [hcontrol 0] using h.reconfigurations
  · simpa [hcontrol 1] using h.watchdogResets
  · rw [imageTriggered_concat, htrigger]
    exact h.image
  · rw [imageTriggered_concat, htrigger]
    simpa [htrigger] using h.reason

/-- A word written to the control register counts and triggers what its bits say. -/
theorem control (h : Shows history block) (value : UInt32) :
    Shows (history ++ [.write 0x00 value])
      (controlEffect value { block with busyRemaining := block.busyPolls }) := by
  have hcommand : isCommand (.write 0x00 value) = true := rfl
  have hcontrol (bit : Nat) : isControl bit (.write 0x00 value) = hasBit value bit := rfl
  have htrigger : isTrigger (.write 0x00 value) = hasBit value 0 := rfl
  have hselected : imageSelected (history ++ [.write 0x00 value]) = block.selectedImage :=
    (imageSelected_concat ..).trans h.selected.symm
  rw [controlEffect_eq]
  -- A trigger takes the image that is selected already: this write selects none.
  refine ⟨hselected.symm, ?_, ?_, ?_, ?_, ?_⟩
  · simp [hcommand, pollCount_concat]
  · simp [hcontrol, h.reconfigurations]
  · simp [hcontrol, h.watchdogResets]
  · rw [imageTriggered_concat, htrigger, hselected, ← h.image]
    rfl
  · rw [imageTriggered_concat, htrigger, hselected]
    simp only [List.any_append, List.any_cons, List.any_nil, Bool.or_false, htrigger]
    cases hasBit value 0 with
    | false => simpa using h.reason
    | true => simp [selectedImage]

end Shows

/-! ## single accesses -/

/-- Where a register stands. -/
def Register.offset : Register → UInt32
  | .control => 0x00
  | .watchdog => 0x04
  | .selection => 0x08
  | .busy => 0x0C
  | .reason => 0x10
  | .currentImage => 0x1C

theorem Register.eq_offset {offset : UInt32} {register : Register}
    (h : ofOffset? offset = some register) : offset = register.offset := by
  grind [Register.ofOffset?, Register.offset]

/-- Only a poll changes the block when it reads. -/
theorem state_read (block : Reconfig) {offset : UInt32} (hpoll : offset ≠ 0x0C) :
    (block.read offset).state = block := by
  rw [read]
  cases hregister : Register.ofOffset? offset with
  | none => rfl
  | some register =>
      cases register with
      | busy => exact absurd (Register.eq_offset hregister) hpoll
      | control | watchdog | selection | reason | currentImage => rfl

/-- A register read. -/
theorem shows_read {history : List DeviceAccess} {block : Reconfig} (h : Shows history block)
    (offset : UInt32) :
    Shows (if (block.read offset).result.isOk then history ++ [.read offset] else history)
      (block.read offset).state := by
  have hcommand : isCommand (.read offset) = false := rfl
  by_cases hpoll : offset = 0x0C
  · subst hpoll
    exact h.aside hcommand block.watchdog
  · rw [block.state_read hpoll]
    split
    next => simpa [isPoll, hpoll] using h.aside hcommand block.watchdog
    next => exact h

/-- A register write. -/
theorem shows_write {history : List DeviceAccess} {block : Reconfig} (h : Shows history block)
    (offset value : UInt32) :
    Shows
      (if (block.write offset value).result.isOk then history ++ [.write offset value] else history)
      (block.write offset value).state := by
  rw [write]
  cases hregister : Register.ofOffset? offset with
  | none => exact h
  | some register =>
      obtain rfl := Register.eq_offset hregister
      cases register with
      | watchdog => exact h.aside rfl value
      | busy | reason | currentImage => exact h.aside rfl block.watchdog
      | control =>
          dsimp only [runCommand]
          split
          next => exact h
          next => exact h.control value
      | selection =>
          dsimp only [runCommand]
          split
          next => exact h
          next => exact h.selection value

/-! ## runs -/

/-- The block shows what it has had since its last reset. -/
structure Follows (polls : Nat) (history : List DeviceAccess) (block : Reconfig) : Prop where
  shows : Shows (since (· = .reset) history) block
  busyPolls : block.busyPolls = polls

theorem follows_perform {polls : Nat} (history : List DeviceAccess) (block : Reconfig)
    (access : DeviceAccess) (h : Follows polls history block) :
    Follows polls
      (if (perform block access).result.isOk then history ++ [access] else history)
      (perform block access).state := by
  cases access with
  | read offset =>
      refine ⟨?_, (congrArg Reconfig.busyPolls (block.reset_read offset)).trans h.busyPolls⟩
      simp only [perform, isOk_map]
      rw [since_noted _ history (.read offset) rfl]
      exact shows_read h.shows offset
  | write offset value =>
      refine ⟨?_, (congrArg Reconfig.busyPolls (block.reset_write offset value)).trans h.busyPolls⟩
      simp only [perform, isOk_map]
      rw [since_noted _ history (.write offset value) rfl]
      exact shows_write h.shows offset value
  | reset =>
      refine ⟨?_, h.busyPolls⟩
      simp only [perform, isOk_ok, if_true, since_concat, decide_true]
      exact shows_fresh block.busyPolls

theorem follows_run (polls : Nat) (accesses : List DeviceAccess) :
    Follows polls (accepted (fresh polls) accesses) (run (fresh polls) accesses) :=
  RegisterDevice.holds_of_run ⟨shows_fresh polls, rfl⟩ follows_perform accesses

/-! ## commands and polling -/

/-- A busy block turns down both commands, an idle one neither. -/
theorem result_command (block : Reconfig) (command : Command) (value : UInt32) :
    (block.write command.offset value).result =
      if block.isBusy then refuse (.commandWhileBusy command) else .ok () := by
  have hrun (effect : Reconfig → Reconfig) : (block.runCommand command effect).result =
      if block.isBusy then refuse (.commandWhileBusy command) else .ok () := by
    rw [runCommand]
    split <;> rfl
  cases command <;> exact hrun _

theorem busyRemaining_command {block : Reconfig} (h : block.isBusy = false) (command : Command)
    (value : UInt32) :
    (block.write command.offset value).state.busyRemaining = block.busyPolls := by
  cases command with
  | control => simp [write, Command.offset, Register.ofOffset?, runCommand, h, controlEffect_eq]
  | selection => simp [write, Command.offset, Register.ofOffset?, runCommand, h]

/-- Polling a block shows it busy as often as is still to come, and then idle. -/
theorem results_polls {block : Reconfig} {remaining : Nat} (h : block.busyRemaining = remaining) :
    results block (List.replicate (remaining + 1) (.read 0x0C)) =
      List.replicate remaining (.ok (some 1)) ++ [.ok (some 0)] := by
  have hpoll : (perform block (.read 0x0C)).result = .ok (some (if block.isBusy then 1 else 0)) :=
    rfl
  induction remaining generalizing block with
  | zero =>
      have hidle : block.isBusy = false := by simp [isBusy, h]
      rw [List.replicate_one, results, hpoll, hidle]
      rfl
  | succ remaining ih =>
      have hbusy : block.isBusy = true := by simp [isBusy, h]
      have hrest : (block.read 0x0C).state.busyRemaining = remaining :=
        congrArg (· - 1) h
      rw [List.replicate_succ, results, hpoll, hbusy, List.replicate_succ (n := remaining)]
      exact congrArg (_ :: ·) (ih hrest rfl)

/-- **What the block shows** after every run, from the accesses that it accepted since it
was reset: when it is busy, how long it can be polled, and what its counters, the image and
the reason are. -/
theorem commands_of_run (polls : Nat) (accesses : List DeviceAccess) :
    let block := run (fresh polls) accesses
    let history := since (· = .reset) (accepted (fresh polls) accesses)
    (∀ command value, (block.write (Command.offset command) value).result =
        if BusyAfter polls history then refuse (.commandWhileBusy command) else .ok ()) ∧
      (block.read 0x0C).result = .ok (if BusyAfter polls history then 1 else 0) ∧
      (∀ command value, ¬BusyAfter polls history →
        results (block.write (Command.offset command) value).state
            (List.replicate (polls + 1) (.read 0x0C)) =
          List.replicate polls (.ok (some 1)) ++ [.ok (some 0)]) ∧
      block.reconfigurations = history.countP (isControl 0) ∧
      block.watchdogResets = history.countP (isControl 1) ∧
      block.activeImage = imageTriggered history ∧
      (block.read 0x10).result =
        .ok (if history.any isTrigger ∧ imageTriggered history = .primary then 0x4000 else 0) := by
  intro block history
  obtain ⟨hshows, hpolls⟩ := follows_run polls accesses
  have hbusy : block.isBusy = true ↔ BusyAfter polls history := hpolls ▸ hshows.isBusy_iff
  refine ⟨fun command value => ?_, ?_, fun command value hidle => ?_, hshows.reconfigurations,
    hshows.watchdogResets, hshows.image, congrArg Except.ok hshows.reason⟩
  · simp only [result_command, hbusy]
  · refine congrArg Except.ok ?_
    simp only [hbusy]
  · have hfree : block.isBusy = false := Bool.eq_false_iff.mpr (hidle ∘ hbusy.mp)
    have hremaining := busyRemaining_command hfree command value
    exact results_polls (hremaining.trans hpolls)

example :
    results (fresh 2) [.write 0x08 2, .read 0x0C, .write 0x00 1, .read 0x0C, .read 0x0C] =
      [.ok none, .ok (some 1), refuse (.commandWhileBusy .control), .ok (some 1), .ok (some 0)] :=
  rfl

end BoardSim.Reconfig
