import BoardSim.Proofs.Bus.Dispatch
import BoardSim.Proofs.Platform.Standard
import BoardSim.Proofs.Timers.Countdown

/-!
# BoardSim.Proofs.Platform.Safety

Nothing that is done to a standard board makes an access break off.

The devices are sound at power-up (`sound_assembled`) and stay so, since all that the
host does through its handles leaves them sound, too (`sound_perform`).  What each
device rests on can be read off its soundness in every state of the board: the crypto
block has room for what it awaits, the serial memory has a byte at its address, the
timers and registers that an offset leads to are there, and what is taken off a timer
is no more than it has.
-/

namespace BoardSim

/-- The device of a name is one of the sound devices of the bus. -/
theorem Bus.Sound.named {bus : Bus} (h : bus.Sound) {name : String} {device : Device}
    (hnamed : bus.deviceNamed? name = some device) : device.Sound := by
  rw [deviceNamed?] at hnamed
  obtain ⟨mount, hfind, rfl⟩ := Option.map_eq_some_iff.mp hnamed
  exact h mount (List.mem_of_find?_eq_some hfind)

/-- What a read takes off a timer is no more than it has. -/
theorem Timer.remaining_catchUp_add {timer : Timer} {tick now : Nat}
    (hrunning : timer.isRunning = true)
    (hticks : (now - timer.reference) / tick < timer.remaining) :
    (timer.catchUp tick now).remaining + (now - timer.reference) / tick = timer.remaining := by
  obtain ⟨hactive, hremaining⟩ : timer.active = true ∧ 0 < timer.remaining := by
    simpa [isRunning] using hrunning
  obtain ⟨hall, -⟩ | ⟨-, -, hnext⟩ | ⟨hnone, hnext⟩ := catchUp_cases hactive hremaining tick now
  · omega
  · rw [hnext]
    exact Nat.sub_add_cancel (Nat.le_of_lt hticks)
  · rw [hnext, hnone, Nat.add_zero]

namespace Platform

/-! ## the devices of the board are sound -/

theorem sound_assembled (manifest : Manifest) (policy : FaultPolicy) (bmcSize pchSize : Nat) :
    (assembled manifest policy bmcSize pchSize).Sound := by
  intro mount hmount
  apply mounts_cases hmount
  case timers => exact Timers.sound_fresh _
  case cryptoBlock => exact CryptoBlock.sound_fresh _
  case serialMemory => exact SerialMemory.sound_fresh
  case flashController => exact FlashController.sound_fresh
  all_goals trivial

variable {bus : Bus}

theorem sound_changeNamed (h : bus.Sound) (name : String) {change : Device → Device}
    (hchange : ∀ device, device.Sound → (change device).Sound) :
    (changeNamed bus name change).Sound := by
  rw [changeNamed]
  split
  next device hnamed =>
    rw [Bus.replaceNamed]
    split
    next slot _ => exact h.update slot (hchange device (h.named hnamed)) bus.board
    next => exact h
  next => exact h

/-- **Step**: whatever is done to a board leaves its devices sound. -/
theorem sound_perform (h : bus.Sound) (operation : Operation) : (perform bus operation).Sound := by
  cases operation with
  | traffic traffic => exact h.handle traffic
  | setOutputs | setInputs | advanceClock | setClock => exact h
  | loadFlash =>
      rw [perform]
      split <;> exact h
  | preloadMemory address bytes =>
      refine sound_changeNamed h _ fun device hdevice => ?_
      cases device with
      | serialMemory memory => exact SerialMemory.Sound.preload hdevice address bytes
      | _ => exact hdevice
  | pushMailbox | preloadMailbox =>
      refine sound_changeNamed h _ fun device hdevice => ?_
      cases device <;> exact hdevice

/-- **Run**: the devices of a board are sound whatever was done to it. -/
theorem sound_run (h : bus.Sound) (operations : List Operation) : (run bus operations).Sound := by
  induction operations generalizing bus with
  | nil => exact h
  | cons operation rest ih => exact ih (sound_perform h operation)

/-! ## the devices by name -/

variable {manifest : Manifest}

/-- Under each name there is the standard device, whatever has become of it. -/
theorem Standard.named (h : Standard manifest bus) (slot : Nat) (name : String)
    (hname : (memoryMap.map Prod.fst).findIdx? (· = name) = some slot) {place : Mount}
    (hplace : (mounts manifest)[slot]? = some place) :
    ∃ device, device.poweredUp = place.device ∧ bus.deviceNamed? name = some device := by
  obtain ⟨device, hdevice, hmount⟩ := h.mount_at slot hplace
  exact ⟨device, hdevice, by rw [h.deviceNamed? slot hname, hmount, Option.map_some]⟩

theorem Standard.crypto_named (h : Standard manifest bus) :
    ∃ block, bus.deviceNamed? cryptoName = some (.cryptoBlock block) := by
  obtain ⟨device, hdevice, hnamed⟩ := h.named 3 cryptoName (by decide) rfl
  cases device with
  | cryptoBlock block => exact ⟨block, hnamed⟩
  | _ => cases hdevice

theorem Standard.serialMemory_named (h : Standard manifest bus) :
    ∃ memory, bus.deviceNamed? serialMemoryName = some (.serialMemory memory) := by
  obtain ⟨device, hdevice, hnamed⟩ := h.named 4 serialMemoryName (by decide) rfl
  cases device with
  | serialMemory memory => exact ⟨memory, hnamed⟩
  | _ => cases hdevice

theorem Standard.controller_named (h : Standard manifest bus) :
    ∃ controller, bus.deviceNamed? flashControllerName = some (.flashController controller) := by
  obtain ⟨device, hdevice, hnamed⟩ := h.named 5 flashControllerName (by decide) rfl
  cases device with
  | flashController controller => exact ⟨controller, hnamed⟩
  | _ => cases hdevice

theorem Standard.timers_named (h : Standard manifest bus) :
    ∃ bank, bus.deviceNamed? timersName = some (.timers bank) := by
  obtain ⟨device, hdevice, hnamed⟩ := h.named 1 timersName (by decide) rfl
  cases device with
  | timers bank => exact ⟨bank, hnamed⟩
  | _ => cases hdevice

/-- The name of a chip's map of writable pages. -/
def pageMapName : Flash.Chip → String
  | .bmc => bmcPageMapName
  | .pch => pchPageMapName

/-- The map of a chip has a word for each of the addresses that are its own. -/
theorem Standard.pageMap_named (h : Standard manifest bus) (chip : Flash.Chip) :
    ∃ map, bus.deviceNamed? (pageMapName chip) = some (.pageMap map) ∧
      map.wordCount = (pageMapRange chip).span.toNat / 4 := by
  obtain ⟨device, hdevice, hnamed⟩ :
      ∃ device, device.poweredUp = .pageMap (.fresh chip (pageMapRange chip).span) ∧
        bus.deviceNamed? (pageMapName chip) = some device := by
    cases chip with
    | bmc => exact h.named 7 bmcPageMapName (by decide) rfl
    | pch => exact h.named 8 pchPageMapName (by decide) rfl
  cases device with
  | pageMap map =>
      have hreset : map.reset = .fresh chip (pageMapRange chip).span := Device.pageMap.inj hdevice
      exact ⟨map, hnamed, congrArg PageMap.wordCount hreset⟩
  | _ => cases hdevice

/-! ## what each device rests on -/

/-- **Safety**: whatever is done to a board that was built and hands faults to the caller,
every read and every write is answered or refused.  The crypto block has room for the
words that it awaits, the address of the serial memory lies in its store, the registers
of the flash controller, the words of the page maps and the timers that an offset leads
to are there, the ticks that are taken off a timer fit into a word and are no more than
it has, and an address that leads to a device is not below its base. -/
theorem safe_of_run {plan : Plan} {environment : Option String} {bus : Bus}
    (hbuild : plan.build environment = .ok bus) (hpolicy : bus.policy = .error)
    (operations : List Operation) :
    let after := run bus operations
    (∀ address, (after.read address).1.isAnswered = true) ∧
    (∀ address value, (after.write address value).1.isAnswered = true) ∧
    (∃ block, after.deviceNamed? cryptoName = some (.cryptoBlock block) ∧
      (block.phase = .acceptHashData → block.input.length < block.length.toNat) ∧
      (block.phase = .acceptVerifyData → block.operands.length < 9 ∧
        (∀ operand ∈ block.operands, operand.length = 32) ∧
        block.operandBytes.length + 4 ≤ 32)) ∧
    (∃ memory, after.deviceNamed? serialMemoryName = some (.serialMemory memory) ∧
      memory.store.length = 1024 ∧ memory.address < 1024) ∧
    (∃ controller, after.deviceNamed? flashControllerName = some (.flashController controller) ∧
      ∀ offset ≤ FlashController.dataHigh, offset.toNat / 4 < controller.registers.length) ∧
    (∀ chip, ∃ map, after.deviceNamed? (pageMapName chip) = some (.pageMap map) ∧
      ∀ offset < (pageMapRange chip).span, offset.toNat / 4 < map.wordCount) ∧
    (∃ bank, after.deviceNamed? timersName = some (.timers bank) ∧ 0 < bank.tick ∧
      (∀ offset index, Timers.indexOf? offset = some index → index < bank.timers.length) ∧
      ∀ timer ∈ bank.timers, ∀ now, timer.isRunning = true →
        (now - timer.reference) / bank.tick < timer.remaining →
          (now - timer.reference) / bank.tick < UInt32.size ∧
          (timer.catchUp bank.tick now).remaining + (now - timer.reference) / bank.tick =
            timer.remaining) ∧
    ∀ address slot mount offset, after.target? address = some (slot, mount, offset) →
      address.toNat = mount.range.base.toNat + offset.toNat ∧
        offset.toNat < mount.range.span.toNat := by
  obtain ⟨bmcSize, pchSize, -, -, -, rfl⟩ := (build_eq_ok_iff plan environment bus).mp hbuild
  intro after
  have hstandard : Standard plan.manifest after := (standard_assembled _ _ bmcSize pchSize).run _
  have hsound : after.Sound := sound_run (sound_assembled _ _ bmcSize pchSize) operations
  have herror : after.policy = .error := (policy_run _ operations).trans hpolicy
  obtain ⟨block, hblock⟩ := hstandard.crypto_named
  obtain ⟨memory, hmemory⟩ := hstandard.serialMemory_named
  obtain ⟨controller, hcontroller⟩ := hstandard.controller_named
  obtain ⟨bank, hbank⟩ := hstandard.timers_named
  have hblocksound : block.Sound := hsound.named hblock
  have hmemorysound : memory.Sound := hsound.named hmemory
  have hcontrollersound : controller.Sound := hsound.named hcontroller
  have hbanksound : bank.Sound := hsound.named hbank
  refine ⟨hsound.read_isAnswered herror, hsound.write_isAnswered herror,
    ⟨block, hblock, hblocksound.input_lt, hblocksound.operands_lt⟩,
    ⟨memory, hmemory, hmemorysound.size, hmemorysound.address⟩,
    ⟨controller, hcontroller, fun offset => hcontrollersound.index_lt⟩, ?_,
    ⟨bank, hbank, hbanksound.tick, ?_, ?_⟩, hstandard.indexed.inside⟩
  · intro chip
    obtain ⟨map, hmap, hcount⟩ := hstandard.pageMap_named chip
    refine ⟨map, hmap, fun offset hoffset => ?_⟩
    have hlt := UInt32.lt_iff_toNat_lt.mp hoffset
    have hspan : (pageMapRange chip).span.toNat = 0x800 := by cases chip <;> rfl
    omega
  · intro offset index hindex
    rw [hbanksound.size]
    exact Timers.index_lt hindex
  · intro timer htimer now hrunning hticks
    exact ⟨hbanksound.ticks_lt htimer hticks, Timer.remaining_catchUp_add hrunning hticks⟩

/-- A board on which a message of eight bytes is half fed. -/
theorem safe_of_run_small :
    let plan : Plan := { policy := some .error, flashSizes := some (16, 16) }
    let bus := assembled {} .error 16 16
    let operations : List Operation :=
      [.traffic (.write 0x1308 8), .traffic (.write 0x1300 2), .traffic (.write 0x1304 7)]
    let after := run bus operations
    plan.build none = .ok bus ∧ bus.policy = .error ∧
    (after.read 0x1301).1.isAnswered = true ∧
    (after.write 0x1304 9).1.isAnswered = true ∧
    (∃ block, after.deviceNamed? cryptoName = some (.cryptoBlock block) ∧
      block.phase = .acceptHashData ∧ block.input.length < block.length.toNat) ∧
    ∃ memory, after.deviceNamed? serialMemoryName = some (.serialMemory memory) ∧
      memory.store.length = 1024 ∧ memory.address < 1024 := by
  intro plan bus operations after
  have hbuild : plan.build none = .ok bus :=
    (build_eq_ok_iff plan none bus).mpr ⟨16, 16, rfl, by decide, by decide, rfl⟩
  obtain ⟨hread, hwrite, ⟨block, hblock, hinput, -⟩, hmemory, -⟩ :=
    safe_of_run hbuild rfl operations
  have hphase : (after.deviceNamed? cryptoName).map
      (fun | .cryptoBlock block => block.phase | _ => .idle) = some .acceptHashData := by
    decide +kernel
  rw [hblock] at hphase
  have hawaited : block.phase = .acceptHashData := Option.some.inj hphase
  refine ⟨hbuild, rfl, hread 0x1301, hwrite 0x1304 9, ⟨block, hblock, hawaited, hinput hawaited⟩,
    hmemory⟩

end Platform

end BoardSim
