import BoardSim.Proofs.Platform.Construction
import BoardSim.Proofs.Platform.FlashHistory

/-!
# BoardSim.Proofs.Platform.FlashLoading

Content that is loaded into a flash chip, from the load to the reads of the firmware.

A load is carried out exactly if its bytes lie inside the image (`intoFlash_eq_ok_iff`); it then
puts them at their places and changes nothing else (`byte_loaded`, `byte_beside`), and else it
changes nothing.  A file is loaded as its content is (`fileIntoFlash_eq_ok_iff`).

As long as nothing changes the chips after a load, the window shows the loaded bytes wherever
a word of them is read, to the firmware of a board that was built (`Standard.read_loaded`).
-/

namespace BoardSim

open Flash (Chip Change Image Pair)

namespace Preload

/-! ## bytes in an image -/

section Load

variable {flash loaded : Pair} {chip : Chip} {offset : Nat} {bytes : List UInt8}

theorem intoFlash_eq :
    intoFlash flash chip offset bytes =
      if offset + bytes.length ≤ (flash.image chip).size then
        .ok (flash.withImage ((flash.image chip).overlay (fun _ new => new) offset bytes) chip)
      else .error (.pastImage bytes.length offset (flash.image chip).size) := by
  rw [intoFlash, Image.load?, Image.covers]
  by_cases hfits : offset + bytes.length ≤ (flash.image chip).size <;> simp [hfits]

/-- Bytes are loaded exactly if they lie inside the image. -/
theorem intoFlash_eq_ok_iff :
    intoFlash flash chip offset bytes = .ok loaded ↔
      offset + bytes.length ≤ (flash.image chip).size ∧
        loaded =
          flash.withImage ((flash.image chip).overlay (fun _ new => new) offset bytes) chip := by
  rw [intoFlash_eq]
  split
  next hfits => simp [hfits, eq_comm]
  next hmisfit => simp [hmisfit]

/-- Bytes that are not loaded would reach past the image, and the error says so. -/
theorem intoFlash_eq_error_iff {cause : Error} :
    intoFlash flash chip offset bytes = .error cause ↔
      (flash.image chip).size < offset + bytes.length ∧
        cause = .pastImage bytes.length offset (flash.image chip).size := by
  rw [intoFlash_eq]
  split
  next hfits => simp [hfits]
  next hmisfit => simp [Nat.lt_of_not_le hmisfit, eq_comm]

theorem changed_intoFlash (h : intoFlash flash chip offset bytes = .ok loaded) :
    Pair.Changed [.loaded chip offset bytes] flash loaded := by
  rw [intoFlash] at h
  split at h
  next image hload =>
    cases h
    exact Pair.changed_load hload
  next => cases h

/-- The loaded bytes stand at their places. -/
theorem byte_loaded (h : intoFlash flash chip offset bytes = .ok loaded) {k : Nat}
    (hk : k < bytes.length) : (loaded.image chip).byte (offset + k) = bytes[k] := by
  have hfits := (intoFlash_eq_ok_iff.mp h).1
  have hbyte := (changed_intoFlash h).byte chip (offset + k) (by omega)
  rw [hbyte]
  simp [Change.byteAfter, Change.supplied?, Change.programmed?, hk]

/-- All other bytes are as they were. -/
theorem byte_beside (h : intoFlash flash chip offset bytes = .ok loaded) {other : Chip}
    {place : Nat} (hinside : place < (flash.image other).size)
    (hbeside : other = chip → place < offset ∨ offset + bytes.length ≤ place) :
    (loaded.image other).byte place = (flash.image other).byte place := by
  have hsupplied : Change.supplied? other place (.loaded chip offset bytes) = none := by
    rw [Change.supplied?]
    split
    next hin =>
      obtain ⟨rfl, hfrom⟩ := hin
      rw [List.getElem?_eq_none_iff]
      have hout := hbeside rfl
      omega
    next => rfl
  rw [(changed_intoFlash h).byte other place hinside]
  simp [Change.byteAfter, hsupplied, Change.programmed?]

/-- The content of a file is loaded as bytes are, and counted. -/
theorem fileIntoFlash_eq_ok_iff {file : FileRead} {count : Nat} :
    fileIntoFlash flash chip offset file = .ok (count, loaded) ↔
      ∃ content, file.content = .ok content ∧
        intoFlash flash chip offset content = .ok loaded ∧ count = content.length := by
  rw [fileIntoFlash, contentOf]
  cases file.content with
  | error cause => simp [bind, Except.bind]
  | ok content =>
      cases hload : intoFlash flash chip offset content with
      | error cause => simp [bind, Except.bind, Except.mapError, hload]
      | ok after => simp [bind, Except.bind, Except.mapError, hload, and_comm, eq_comm]

/-- Nothing is loaded from a file that cannot be read or whose content does not fit; the error
names the file. -/
theorem fileIntoFlash_eq_error_iff {file : FileRead} {cause : Error} :
    fileIntoFlash flash chip offset file = .error cause ↔
      (∃ fault, file.content = .error fault ∧ cause = .unreadableFile file.path fault) ∨
        ∃ content misfit, file.content = .ok content ∧
          intoFlash flash chip offset content = .error misfit ∧
          cause = .fileMisfit file.path chip misfit := by
  rw [fileIntoFlash, contentOf]
  cases file.content with
  | error fault => simp [bind, Except.bind, eq_comm]
  | ok content =>
      cases hload : intoFlash flash chip offset content with
      | error misfit => simp [bind, Except.bind, Except.mapError, hload, eq_comm]
      | ok after => simp [bind, Except.bind, Except.mapError, hload]

end Load

end Preload

/-- Four bytes of an image are read as the word that they make. -/
theorem Flash.Image.wordAt_eq {image : Image} {offset : Nat} {bytes : List UInt8} {start : Nat}
    (hinside : start + 4 ≤ bytes.length)
    (hbytes : ∀ k (hk : k < 4), image.byte (offset + k) = bytes[start + k]) :
    image.wordAt offset = Bytes.toWord ((bytes.drop start).take 4) := by
  have hlist : (List.range 4).map (fun k => image.byte (offset + k)) =
      (bytes.drop start).take 4 := by
    refine List.ext_getElem (by simp; omega) fun k hk _ => ?_
    rw [List.length_map, List.length_range] at hk
    simp [hbytes k hk]
  rw [wordAt, hlist]

namespace Platform

variable {manifest : Manifest} {bus : Bus} {chip : Chip} {offset : Nat} {bytes : List UInt8}

/-! ## loads of a board -/

/-- A board holds the loaded chips. -/
theorem flash_loadFlash {loaded : Pair}
    (h : Preload.intoFlash bus.board.flash chip offset bytes = .ok loaded) :
    (perform bus (.loadFlash chip offset bytes)).board.flash = loaded := by
  simp [perform, h]

/-- A load that does not fit changes nothing. -/
theorem perform_loadFlash_of_lt
    (h : (bus.board.flash.image chip).size < offset + bytes.length) :
    perform bus (.loadFlash chip offset bytes) = bus := by
  have hfailed : Preload.intoFlash bus.board.flash chip offset bytes =
      .error (.pastImage bytes.length offset (bus.board.flash.image chip).size) :=
    Preload.intoFlash_eq_error_iff.mpr ⟨h, rfl⟩
  simp [perform, hfailed]

/-- Where bytes stand in the selected chip, the window shows their words. -/
theorem Standard.read_loaded (h : Standard manifest bus)
    (hwindow : (bus.board.flash.image chip).size ≤ flashWindowRange.span.toNat)
    (hfits : offset + bytes.length ≤ (bus.board.flash.image chip).size)
    (hbytes : ∀ k (hk : k < bytes.length),
      (bus.board.flash.image chip).byte (offset + k) = bytes[k])
    (hselected : bus.board.pins.selected = chip) (hcountdown : bus.faultAfter ≠ some 0)
    {place : Nat} (halign : 4 ∣ place) (hfrom : offset ≤ place)
    (hto : place + 4 ≤ offset + bytes.length) :
    (bus.read (flashWindowRange.base + UInt32.ofNat place)).1 =
      .served (Bytes.toWord ((bytes.drop (place - offset)).take 4)) := by
  have hspan : flashWindowRange.span.toNat = 0x04000000 := rfl
  have hbase : flashWindowRange.base.toNat = 0x04000000 := rfl
  have hplace : (UInt32.ofNat place).toNat = place := UInt32.toNat_ofNat_of_lt' (by
    rw [UInt32.size]
    omega)
  have haddress : (flashWindowRange.base + UInt32.ofNat place).toNat = 0x04000000 + place := by
    rw [UInt32.toNat_add, hbase, hplace]
    omega
  have hcontains :
      flashWindowRange.contains (flashWindowRange.base + UInt32.ofNat place) = true := by
    have hstop : flashWindowRange.stop = 0x08000000 := rfl
    rw [AddressRange.contains_iff, haddress, hbase, hstop]
    omega
  have hoffset : flashWindowRange.base + UInt32.ofNat place - flashWindowRange.base =
      UInt32.ofNat place := by
    rw [UInt32.add_comm, UInt32.add_sub_cancel]
  have hword : (bus.board.flash.image chip).wordAt place =
      Bytes.toWord ((bytes.drop (place - offset)).take 4) := by
    refine Image.wordAt_eq (by omega) fun k hk => ?_
    have hat := hbytes (place - offset + k) (by omega)
    rw [← hat]
    congr 1
    omega
  have hread := h.read_window hcontains (by omega) hcountdown
  have himage : bus.board.selectedImage = bus.board.flash.image chip := by
    rw [Board.selectedImage, hselected]
  simp only [hoffset, hplace, himage] at hread
  rw [hread, if_pos (by omega), hword]

/-- The images of a board that was built lie inside the window, whatever is done to it. -/
theorem size_le_window {plan : Plan} {environment : Option String} {built : Bus}
    (hbuild : plan.build environment = .ok built) (operations : List Operation) (chip : Chip) :
    ((run built operations).board.flash.image chip).size ≤ flashWindowRange.span.toNat := by
  rw [size_run hbuild]
  obtain ⟨bmcSize, pchSize, -, hbmc, hpch, rfl⟩ :=
    (build_eq_ok_iff plan environment built).mp hbuild
  cases chip with
  | bmc => exact hbmc
  | pch => exact hpch

/-- **Loaded words**: as long as nothing changes the chips after a load, the firmware reads the
words of the loaded bytes. -/
theorem read_after_load {plan : Plan} {environment : Option String} {built : Bus}
    (hbuild : plan.build environment = .ok built) {before later : List Operation} {loaded : Pair}
    (hloaded : Preload.intoFlash (run built before).board.flash chip offset bytes = .ok loaded)
    (hkept : changes (perform (run built before) (.loadFlash chip offset bytes)) later = []) :
    let after := run (perform (run built before) (.loadFlash chip offset bytes)) later
    after.board.pins.selected = chip → after.faultAfter ≠ some 0 →
    ∀ place, 4 ∣ place → offset ≤ place → place + 4 ≤ offset + bytes.length →
      (after.read (flashWindowRange.base + UInt32.ofNat place)).1 =
        .served (Bytes.toWord ((bytes.drop (place - offset)).take 4)) := by
  intro after hselected hcountdown place halign hfrom hto
  obtain ⟨bmcSize, pchSize, -, -, -, hbuilt⟩ :=
    (build_eq_ok_iff plan environment built).mp hbuild
  have hstandard : Standard plan.manifest (run built before) := by
    rw [hbuilt]
    exact (standard_assembled _ _ bmcSize pchSize).run before
  have hsame := (hstandard.perform (.loadFlash chip offset bytes)).changed_run later
  rw [hkept, flash_loadFlash hloaded] at hsame
  have hrun : after = run built (before ++ .loadFlash chip offset bytes :: later) := by
    rw [run, List.foldl_append]
    rfl
  have hwindow : (after.board.flash.image chip).size ≤ flashWindowRange.span.toNat := by
    rw [hrun]
    exact size_le_window hbuild _ chip
  have hsize : (loaded.image chip).size = ((run built before).board.flash.image chip).size :=
    (Preload.changed_intoFlash hloaded).size chip
  have hfits := (Preload.intoFlash_eq_ok_iff.mp hloaded).1
  have hbytes (k : Nat) (hk : k < bytes.length) :
      (after.board.flash.image chip).byte (offset + k) = bytes[k] := by
    rw [← Preload.byte_loaded hloaded hk]
    exact hsame.byte chip (offset + k) (by omega)
  have hafter : Standard plan.manifest after :=
    (hstandard.perform (.loadFlash chip offset bytes)).run later
  exact hafter.read_loaded hwindow (by rw [hsame.size]; omega) hbytes hselected hcountdown halign
    hfrom hto

/-- **Loading**: for any chips, bytes are loaded exactly if they lie inside the image; they then
stand at their places, with all other bytes as before; and a file is loaded as its content is,
which is counted.  On a board that was built, whatever was done to it, a load that does not fit
changes nothing; after one that does, as long as nothing changes the chips, the firmware reads
each word of the loaded bytes through the window, if their chip is selected and no fault was
requested. -/
theorem load_flash (flash : Pair) (chip : Chip) (offset : Nat) (bytes : List UInt8) :
    ((∃ loaded, Preload.intoFlash flash chip offset bytes = .ok loaded) ↔
      offset + bytes.length ≤ (flash.image chip).size) ∧
    (∀ loaded, Preload.intoFlash flash chip offset bytes = .ok loaded →
      (∀ other, (loaded.image other).size = (flash.image other).size) ∧
      (∀ k (hk : k < bytes.length), (loaded.image chip).byte (offset + k) = bytes[k]) ∧
      ∀ other place, place < (flash.image other).size →
        (other = chip → place < offset ∨ offset + bytes.length ≤ place) →
        (loaded.image other).byte place = (flash.image other).byte place) ∧
    (∀ path count loaded,
      Preload.fileIntoFlash flash chip offset ⟨path, .ok bytes⟩ = .ok (count, loaded) ↔
        Preload.intoFlash flash chip offset bytes = .ok loaded ∧ count = bytes.length) ∧
    (∀ path cause,
      Preload.fileIntoFlash flash chip offset ⟨path, .ok bytes⟩ = .error cause ↔
        ∃ misfit, Preload.intoFlash flash chip offset bytes = .error misfit ∧
          cause = .fileMisfit path chip misfit) ∧
    ∀ plan environment built operations, Plan.build plan environment = .ok built →
      let bus := run built operations
      bus.board.flash = flash →
      let loaded := perform bus (.loadFlash chip offset bytes)
      ((flash.image chip).size < offset + bytes.length → loaded = bus) ∧
      (offset + bytes.length ≤ (flash.image chip).size →
        Preload.intoFlash flash chip offset bytes = .ok loaded.board.flash ∧
        ∀ later, changes loaded later = [] →
          let after := run loaded later
          after.board.pins.selected = chip → after.faultAfter ≠ some 0 →
          ∀ place, 4 ∣ place → offset ≤ place → place + 4 ≤ offset + bytes.length →
            (after.read (flashWindowRange.base + UInt32.ofNat place)).1 =
              .served (Bytes.toWord ((bytes.drop (place - offset)).take 4))) := by
  refine ⟨⟨?_, ?_⟩, ?_, ?_, ?_, ?_⟩
  · rintro ⟨loaded, hloaded⟩
    exact (Preload.intoFlash_eq_ok_iff.mp hloaded).1
  · intro hfits
    exact ⟨_, Preload.intoFlash_eq_ok_iff.mpr ⟨hfits, rfl⟩⟩
  · intro loaded hloaded
    exact ⟨(Preload.changed_intoFlash hloaded).size, fun k hk => Preload.byte_loaded hloaded hk,
      fun other place => Preload.byte_beside hloaded⟩
  · intro path count loaded
    rw [Preload.fileIntoFlash_eq_ok_iff]
    simp
  · intro path cause
    rw [Preload.fileIntoFlash_eq_error_iff]
    simp
  · intro plan environment built operations hbuild bus hflash loaded
    subst hflash
    refine ⟨perform_loadFlash_of_lt, fun hfits => ?_⟩
    obtain ⟨pair, hpair⟩ :
        ∃ pair, Preload.intoFlash bus.board.flash chip offset bytes = .ok pair :=
      ⟨_, Preload.intoFlash_eq_ok_iff.mpr ⟨hfits, rfl⟩⟩
    have hstored : loaded.board.flash = pair := flash_loadFlash hpair
    rw [hstored]
    exact ⟨hpair, fun later hkept => read_after_load hbuild hpair hkept⟩

/-- Seven bytes are loaded into an image of eighteen, and the one word that lies among them is
read. -/
theorem load_flash_small :
    let plan : Plan := { policy := some .error, flashSizes := some (18, 18) }
    let built := assembled {} .error 18 18
    let bus := run built [.setOutputs 0x40]
    let loaded := perform bus (.loadFlash .bmc 2 [1, 2, 3, 4, 5, 6, 7])
    plan.build none = .ok built ∧ (loaded.read 0x04000004).1 = .served 0x06050403 := by
  intro plan built bus loaded
  have hbuild : plan.build none = .ok built :=
    (build_eq_ok_iff plan none built).mpr ⟨18, 18, rfl, by decide, by decide, rfl⟩
  obtain ⟨-, -, -, -, hboard⟩ := load_flash bus.board.flash .bmc 2 [1, 2, 3, 4, 5, 6, 7]
  obtain ⟨-, hread⟩ := (hboard plan none built [.setOutputs 0x40] hbuild rfl).2 (by decide)
  have hword := hread [] rfl (by decide) (by decide) 4 (by decide) (by decide) (by decide)
  exact ⟨hbuild, hword⟩

end Platform

end BoardSim
