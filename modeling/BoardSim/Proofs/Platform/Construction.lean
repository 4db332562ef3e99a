import BoardSim.Proofs.Platform.FlashHistory
import BoardSim.Proofs.Platform.Safety

/-!
# BoardSim.Proofs.Platform.Construction

Which manifests a board can be built from, and what the check of a manifest is good for.

A board is built exactly if both sizes can be read and neither exceeds the flash window
(`build_isOk_iff`); the memory map never stands in the way (`build_eq_error`).  A
manifest that passes its check meets that, and besides its sizes are multiples of the
flash granule (`sizes_of_validate`).  As images keep their sizes, a sector or a block
that begins inside an image then ends inside it, and its erase is accepted in every
state of the board (`Standard.erase_served`).
-/

namespace BoardSim

open Flash (Chip)

/-! ## acceptable sizes -/

namespace Manifest

variable {manifest : Manifest}

/-- A size is acceptable that can be read, is a multiple of the granule other than zero,
and is no larger than the window. -/
theorem validateSize_eq_ok_iff (chip : Chip) :
    manifest.validateSize chip = .ok () ↔
      ∃ bytes, manifest.flashBytes chip = .ok bytes ∧
        0 < bytes ∧ flashGranule ∣ bytes ∧ bytes ≤ maxFlashBytes := by
  rw [validateSize]
  cases manifest.flashBytes chip with
  | error failure => simp [Except.mapError, bind, Except.bind]
  | ok bytes =>
      simp only [Except.mapError, bind, Except.bind, Except.ok.injEq, exists_eq_left',
        Nat.dvd_iff_mod_eq_zero]
      split
      next huneven =>
        simp only [refuse, reduceCtorEq, false_iff]
        omega
      next heven =>
        split
        next hlarge =>
          simp only [refuse, reduceCtorEq, false_iff]
          omega
        next hsmall =>
          simp only [true_iff]
          omega

theorem validateSize_of_validate (h : manifest.validate = .ok ()) (chip : Chip) :
    manifest.validateSize chip = .ok () := by
  rw [validate] at h
  split at h
  next => cases h
  next =>
    cases hbmc : manifest.validateSize .bmc with
    | error failure => simp [hbmc, bind, Except.bind] at h
    | ok _ =>
        cases hpch : manifest.validateSize .pch with
        | error failure => simp [hbmc, hpch, bind, Except.bind] at h
        | ok _ => cases chip <;> assumption

/-- The sizes of a manifest that passes its check. -/
theorem sizes_of_validate (h : manifest.validate = .ok ()) (chip : Chip) :
    ∃ bytes, manifest.flashBytes chip = .ok bytes ∧
      0 < bytes ∧ flashGranule ∣ bytes ∧ bytes ≤ maxFlashBytes :=
  (validateSize_eq_ok_iff chip).mp (validateSize_of_validate h chip)

end Manifest

/-! ## the erase of a sector or a block -/

namespace FlashController

variable {controller : FlashController} {board : Board}

/-- The commands that erase, and how many bytes each of them erases. -/
def eraseLengths : List (UInt8 × Nat) := [(0x20, sectorSize), (0xD8, blockSize)]

theorem result_erase (controller : FlashController) (board : Board) (address : UInt32)
    (length : Nat) (count : FlashController → FlashController)
    (hfit : address.toNat + length ≤ board.selectedImage.size) :
    (controller.erase board address length count).result = .ok () := by
  have hcovers : board.selectedImage.covers address.toNat length = true := by
    simpa [Flash.Image.covers] using hfit
  rw [erase, Flash.Image.erase?, Flash.Image.fill?, if_pos hcovers]
  rfl

/-- An erase is accepted that lies in the selected image. -/
theorem result_write_erase {entry : UInt8 × Nat} (hentry : entry ∈ eraseLengths)
    {setting address value : UInt32} (hsetting : controller.get? commandSetting = some setting)
    (hopcode : setting.toUInt8 = entry.1) (haddress : controller.get? commandAddress = some address)
    (hfit : address.toNat + entry.2 ≤ board.selectedImage.size) (hstart : hasBit value 0 = true) :
    (controller.write board commandControl value).result = .ok () := by
  rw [write, if_pos rfl, if_pos hstart, execute, hsetting, haddress]
  simp only [hopcode]
  simp only [eraseLengths, List.mem_cons, List.not_mem_nil, or_false] at hentry
  obtain rfl | rfl := hentry
  · exact result_erase controller board address sectorSize _ hfit
  · exact result_erase controller board address blockSize _ hfit

end FlashController

namespace Platform

/-! ## building -/

/-- The sizes of the images are those of the manifest where no others are stated. -/
theorem imageSizes_eq (manifest : Manifest) (policy : Option FaultPolicy) :
    Plan.imageSizes { manifest, policy } =
      match manifest.flashBytes .bmc, manifest.flashBytes .pch with
      | .ok bmcSize, .ok pchSize => .ok (bmcSize, pchSize)
      | .error failure, _ => .error (failure.mapCause .size)
      | _, .error failure => .error (failure.mapCause .size) := by
  rw [Plan.imageSizes]
  cases manifest.flashBytes .bmc with
  | error failure => rfl
  | ok bmcSize => cases manifest.flashBytes .pch <;> rfl

theorem imageSizes_eq_ok_iff (manifest : Manifest) (policy : Option FaultPolicy)
    (bmcSize pchSize : Nat) :
    Plan.imageSizes { manifest, policy } = .ok (bmcSize, pchSize) ↔
      manifest.flashBytes .bmc = .ok bmcSize ∧ manifest.flashBytes .pch = .ok pchSize := by
  rw [imageSizes_eq]
  cases manifest.flashBytes .bmc with
  | error failure => simp
  | ok bmc => cases manifest.flashBytes .pch <;> simp

/-- **Building**: a board is built exactly if both sizes can be read and neither exceeds the
window. -/
theorem build_isOk_iff (manifest : Manifest) (policy : Option FaultPolicy)
    (environment : Option String) :
    (∃ bus, Plan.build { manifest, policy } environment = .ok bus) ↔
      ∀ chip, ∃ bytes, manifest.flashBytes chip = .ok bytes ∧
        bytes ≤ flashWindowRange.span.toNat := by
  simp only [build_eq_ok_iff, imageSizes_eq_ok_iff]
  constructor
  · rintro ⟨bus, bmcSize, pchSize, ⟨hbmc, hpch⟩, hbmcfit, hpchfit, -⟩ chip
    cases chip with
    | bmc => exact ⟨bmcSize, hbmc, hbmcfit⟩
    | pch => exact ⟨pchSize, hpch, hpchfit⟩
  · intro hsizes
    obtain ⟨bmcSize, hbmc, hbmcfit⟩ := hsizes .bmc
    obtain ⟨pchSize, hpch, hpchfit⟩ := hsizes .pch
    exact ⟨_, bmcSize, pchSize, ⟨hbmc, hpch⟩, hbmcfit, hpchfit, rfl⟩

/-- Why a board is not built: a size cannot be read, or one of them exceeds the window. -/
theorem build_eq_error {manifest : Manifest} {policy : Option FaultPolicy}
    {environment : Option String} {failure : Failure Error}
    (h : Plan.build { manifest, policy } environment = .error failure) :
    (∃ chip cause, manifest.flashBytes chip = .error cause ∧ failure = cause.mapCause .size) ∨
      ∃ bmcSize pchSize, manifest.flashBytes .bmc = .ok bmcSize ∧
        manifest.flashBytes .pch = .ok pchSize ∧
        (flashWindowRange.span.toNat < bmcSize ∨ flashWindowRange.span.toNat < pchSize) ∧
        failure = .refused (.excessiveImages bmcSize pchSize) := by
  cases hbmc : manifest.flashBytes .bmc with
  | error cause =>
      refine .inl ⟨.bmc, cause, hbmc, ?_⟩
      rw [Plan.build, imageSizes_eq, hbmc] at h
      exact (Except.error.inj h).symm
  | ok bmcSize =>
      cases hpch : manifest.flashBytes .pch with
      | error cause =>
          refine .inl ⟨.pch, cause, hpch, ?_⟩
          rw [Plan.build, imageSizes_eq, hbmc, hpch] at h
          exact (Except.error.inj h).symm
      | ok pchSize =>
          have hsizes := (imageSizes_eq_ok_iff manifest policy bmcSize pchSize).mpr ⟨hbmc, hpch⟩
          by_cases hexcess : flashWindowRange.span.toNat < bmcSize ∨
              flashWindowRange.span.toNat < pchSize
          · refine .inr ⟨bmcSize, pchSize, rfl, rfl, hexcess, ?_⟩
            simp only [Plan.build, hsizes, bind, Except.bind, if_pos hexcess] at h
            exact (Except.error.inj h).symm
          · have hbuild := (build_eq_ok_iff { manifest, policy } environment _).mpr
              ⟨bmcSize, pchSize, hsizes, by omega, by omega, rfl⟩
            rw [hbuild] at h
            cases h

/-- What a board is built of. -/
theorem of_build_eq_ok {manifest : Manifest} {policy : Option FaultPolicy}
    {environment : Option String} {bus : Bus}
    (h : Plan.build { manifest, policy } environment = .ok bus) :
    bus.mounts = mounts manifest ∧
      ∀ chip, manifest.flashBytes chip = .ok (bus.board.flash.image chip).size := by
  obtain ⟨bmcSize, pchSize, hsizes, -, -, rfl⟩ := (build_eq_ok_iff _ environment bus).mp h
  obtain ⟨hbmc, hpch⟩ := (imageSizes_eq_ok_iff manifest policy bmcSize pchSize).mp hsizes
  refine ⟨rfl, fun chip => ?_⟩
  cases chip with
  | bmc => exact hbmc
  | pch => exact hpch

/-! ## erasing on a board -/

variable {manifest : Manifest} {bus : Bus}

/-- **Erase**: where the images are multiples of the granule, the erase of a sector or a
block is accepted that begins inside the selected image at a multiple of its length. -/
theorem erase_accepted (hsizes : ∀ chip, 0x10000 ∣ (bus.board.flash.image chip).size)
    {controller : FlashController} {entry : UInt8 × Nat}
    (hentry : entry ∈ FlashController.eraseLengths) {setting address value : UInt32}
    (hsetting : controller.get? FlashController.commandSetting = some setting)
    (hopcode : setting.toUInt8 = entry.1)
    (haddress : controller.get? FlashController.commandAddress = some address)
    (halign : entry.2 ∣ address.toNat) (hinside : address.toNat < bus.board.selectedImage.size)
    (hstart : hasBit value 0 = true) :
    (controller.write bus.board FlashController.commandControl value).result = .ok () := by
  have hgranule : entry.2 ∣ 0x10000 := by
    simp only [FlashController.eraseLengths, List.mem_cons, List.not_mem_nil, or_false] at hentry
    obtain rfl | rfl := hentry <;> decide
  have hsize : entry.2 ∣ bus.board.selectedImage.size :=
    Nat.dvd_trans hgranule (hsizes bus.board.pins.selected)
  -- what is left of the image from the address on is a multiple of the length other than zero
  have hrest := Nat.le_of_dvd (Nat.sub_pos_of_lt hinside) (Nat.dvd_sub hsize halign)
  exact FlashController.result_write_erase hentry hsetting hopcode haddress (by omega) hstart

/-- A write to an address of the controller ends as the controller has it end. -/
theorem Standard.write_controller (h : Standard manifest bus) {controller : FlashController}
    (hmount : bus.mounts[5]? =
      some ⟨flashControllerName, ⟨0x1500, 0x40⟩, .flashController controller⟩)
    {address : UInt32} (hcontains : AddressRange.contains ⟨0x1500, 0x40⟩ address = true)
    (halign : 4 ∣ address.toNat) (hcountdown : bus.faultAfter ≠ some 0) (value : UInt32) :
    (bus.write address value).1 =
      bus.policy.conclude (controller.write bus.board (address - 0x1500) value).result := by
  rw [Bus.write, h.indexed.access_at hmount hcontains halign hcountdown]
  rfl

/-- A command that the controller accepts is served by the bus. -/
theorem Standard.command_served (h : Standard manifest bus) {controller : FlashController}
    (hnamed : bus.deviceNamed? flashControllerName = some (.flashController controller))
    {value : UInt32}
    (haccepted : (controller.write bus.board FlashController.commandControl value).result = .ok ())
    (hcountdown : bus.faultAfter ≠ some 0) :
    (bus.write commandRegister value).1 = .served () := by
  obtain ⟨other, hmount⟩ := h.controller_at
  rw [h.deviceNamed? 5 (by decide), hmount] at hnamed
  obtain rfl := Device.flashController.inj (Option.some.inj hnamed)
  have hoffset : commandRegister - 0x1500 = FlashController.commandControl := by decide
  rw [h.write_controller hmount (by decide) (by decide) hcountdown, hoffset, haccepted]
  rfl

/-- Nothing that is done to a board changes the size of an image. -/
theorem size_run {plan : Plan} {environment : Option String} {bus : Bus}
    (hbuild : plan.build environment = .ok bus) (operations : List Operation) (chip : Chip) :
    ((run bus operations).board.flash.image chip).size = (bus.board.flash.image chip).size := by
  obtain ⟨bmcSize, pchSize, -, -, -, rfl⟩ := (build_eq_ok_iff plan environment bus).mp hbuild
  exact ((standard_assembled _ _ bmcSize pchSize).changed_run operations).size chip

/-! ## boards from manifests -/

/-- **Boards from manifests**: where no other sizes are stated, a board is built exactly if
both sizes can be read and neither exceeds the window; else the failure is that of a
size or an excess, never one of a range.  A board that is built has the ten devices at
their places, and images of the stated sizes.  If the manifest passes its check, a board
is built, its images are multiples of the granule other than zero, and whatever is done
to it, an erase of a sector or a block at a multiple of its length inside the selected
image is accepted. -/
theorem build_of_manifest (manifest : Manifest) (policy : Option FaultPolicy)
    (environment : Option String) :
    let plan : Plan := { manifest, policy }
    ((∃ bus, plan.build environment = .ok bus) ↔
      ∀ chip, ∃ bytes, manifest.flashBytes chip = .ok bytes ∧
        bytes ≤ flashWindowRange.span.toNat) ∧
    (∀ failure, plan.build environment = .error failure →
      (∃ chip cause, manifest.flashBytes chip = .error cause ∧
        failure = cause.mapCause .size) ∨
      ∃ bmcSize pchSize, manifest.flashBytes .bmc = .ok bmcSize ∧
        manifest.flashBytes .pch = .ok pchSize ∧
        (flashWindowRange.span.toNat < bmcSize ∨ flashWindowRange.span.toNat < pchSize) ∧
        failure = .refused (.excessiveImages bmcSize pchSize)) ∧
    (∀ bus, plan.build environment = .ok bus →
      bus.mounts.length = 10 ∧
      bus.mounts.map (fun mount => (mount.name, mount.range)) = memoryMap ∧
      bus.mounts.map Mount.device = devices manifest ∧
      ∀ chip, manifest.flashBytes chip = .ok (bus.board.flash.image chip).size) ∧
    (manifest.validate = .ok () →
      ∃ bus, plan.build environment = .ok bus ∧
        (∀ chip, 0 < (bus.board.flash.image chip).size ∧
          0x10000 ∣ (bus.board.flash.image chip).size) ∧
        ∀ operations,
          let after := run bus operations
          ∃ controller,
            after.deviceNamed? flashControllerName = some (.flashController controller) ∧
            ∀ opcode length, (opcode, length) ∈ [(0x20, 0x1000), (0xD8, 0x10000)] →
              ∀ setting address, controller.get? FlashController.commandSetting = some setting →
                controller.get? FlashController.commandAddress = some address →
                setting.toUInt8 = opcode → length ∣ address.toNat →
                address.toNat < after.board.selectedImage.size →
                ∀ value, hasBit value 0 = true →
                  (controller.write after.board FlashController.commandControl value).result =
                      .ok () ∧
                    (after.faultAfter ≠ some 0 →
                      (after.write commandRegister value).1 = .served ())) := by
  intro plan
  refine ⟨build_isOk_iff manifest policy environment, fun failure hfailure =>
    build_eq_error hfailure, ?_, ?_⟩
  · intro bus hbuild
    obtain ⟨hmounts, hsizes⟩ := of_build_eq_ok hbuild
    rw [hmounts]
    exact ⟨rfl, rfl, rfl, hsizes⟩
  · intro hvalid
    obtain ⟨bus, hbuild⟩ := (build_isOk_iff manifest policy environment).mpr fun chip => by
      obtain ⟨bytes, hbytes, -, -, hfit⟩ := Manifest.sizes_of_validate hvalid chip
      exact ⟨bytes, hbytes, hfit⟩
    have hsizes (chip : Chip) : 0 < (bus.board.flash.image chip).size ∧
        0x10000 ∣ (bus.board.flash.image chip).size := by
      obtain ⟨bytes, hbytes, hpos, hgranule, -⟩ := Manifest.sizes_of_validate hvalid chip
      have hsize := (of_build_eq_ok hbuild).2 chip
      obtain rfl := Except.ok.inj (hbytes.symm.trans hsize)
      exact ⟨hpos, hgranule⟩
    refine ⟨bus, hbuild, hsizes, fun operations => ?_⟩
    intro after
    have hafter : Standard manifest after := by
      obtain ⟨bmcSize, pchSize, -, -, -, hbus⟩ := (build_eq_ok_iff _ environment bus).mp hbuild
      exact (hbus ▸ standard_assembled manifest _ bmcSize pchSize).run operations
    obtain ⟨controller, hnamed⟩ := hafter.controller_named
    refine ⟨controller, hnamed, ?_⟩
    intro opcode length hentry setting address hsetting haddress hopcode halign hinside value hstart
    have hkept (chip : Chip) : 0x10000 ∣ (after.board.flash.image chip).size := by
      rw [size_run hbuild operations chip]
      exact (hsizes chip).2
    have haccepted := erase_accepted hkept hentry hsetting hopcode haddress halign hinside hstart
    exact ⟨haccepted, hafter.command_served hnamed haccepted⟩

/-- The word that a flash controller holds at an offset. -/
def controllerWord? (offset : UInt32) : Device → Option UInt32
  | .flashController controller => controller.get? offset
  | _ => none

/-- On the board of the standard manifest the last block of the management controller's chip
is erased. -/
theorem build_of_manifest_standard :
    let bus := assembled {} .error 0x4000000 0x4000000
    let operations : List Operation :=
      [.setOutputs 0x40, .traffic (.write 0x151C 0xD8), .traffic (.write 0x1524 0x3FF0000)]
    Manifest.validate {} = .ok () ∧
    Plan.build { policy := some .error } none = .ok bus ∧
    ((run bus operations).write commandRegister 1).1 = .served () := by
  intro bus operations
  have hvalid : Manifest.validate {} = .ok () := by decide +kernel
  have hsize (chip : Chip) : Manifest.flashBytes {} chip = .ok 0x4000000 := by
    cases chip <;> decide +kernel
  have hbuild : Plan.build { policy := some .error } none = .ok bus :=
    (build_eq_ok_iff _ none bus).mpr ⟨0x4000000, 0x4000000,
      (imageSizes_eq_ok_iff {} (some .error) _ _).mpr ⟨hsize .bmc, hsize .pch⟩,
      by decide, by decide, rfl⟩
  obtain ⟨built, hbuilt, -, herase⟩ := (build_of_manifest {} (some .error) none).2.2.2 hvalid
  obtain rfl := Except.ok.inj (hbuild.symm.trans hbuilt)
  obtain ⟨controller, hnamed, herase⟩ := herase operations
  have hregisters : ((run bus operations).deviceNamed? flashControllerName).map
      (fun device => (controllerWord? FlashController.commandSetting device,
        controllerWord? FlashController.commandAddress device)) =
        some (some 0xD8, some 0x3FF0000) := by
    decide +kernel
  rw [hnamed] at hregisters
  obtain ⟨hsetting, haddress⟩ := Prod.mk.inj (Option.some.inj hregisters)
  refine ⟨hvalid, hbuild, ?_⟩
  exact (herase 0xD8 0x10000 (by decide) 0xD8 0x3FF0000 hsetting haddress rfl (by decide)
    (by decide +kernel) 1 rfl).2 (by decide +kernel)

end Platform

end BoardSim
