import BoardSim.Preload
import BoardSim.Proofs.SerialMemory.Transcript
import BoardSim.Proofs.SerialMemory.Transfer

/-!
# BoardSim.Proofs.SerialMemory.Loading

Content that the host loads into the serial memory, from the file to what the firmware reads.

1. A preload puts bytes into the store around its end, and of the bytes that go to one cell
   the last stays (`cell_preload`).  It changes nothing but the store.
2. A file is loaded exactly if its content lies inside the store, so that a load never goes
   around the end (`fileIntoMemory_eq_ok_iff`); else the memory is left as it is.
3. A read transfer of plain requests finds what the store has from the selected address on
   (`obeyAll_requests`).

`load_then_read` joins the side of the host to that of the firmware.
-/

namespace BoardSim

namespace SerialMemory

open RegisterDevice (results)

/-! ## the cells of a preload -/

/-- The last of several bytes goes to the cell after the others, around the end. -/
theorem store_preload_concat (memory : SerialMemory) (address : Nat) (bytes : List UInt8)
    (byte : UInt8) :
    (memory.preload address (bytes ++ [byte])).store =
      (memory.preload address bytes).store.set ((address + bytes.length) % storeSize) byte := by
  induction bytes generalizing memory address with
  | nil => rfl
  | cons first rest ih =>
      rw [List.cons_append, store_preload_cons, ih, store_preload_cons, List.length_cons,
        Nat.add_right_comm, Nat.add_assoc]

theorem length_preload (memory : SerialMemory) (address : Nat) (bytes : List UInt8) :
    (memory.preload address bytes).store.length = memory.store.length := by
  induction bytes generalizing memory address with
  | nil => rfl
  | cons byte rest ih => rw [store_preload_cons, ih, List.length_set]

/-- The `j`-th byte goes to the cell, and no later one does. -/
structure LastInto (cell address : Nat) (bytes : List UInt8) (j : Nat) : Prop where
  inside : j < bytes.length
  lands : (address + j) % storeSize = cell
  last : ∀ k, j < k → k < bytes.length → (address + k) % storeSize ≠ cell

variable {memory : SerialMemory} {address cell : Nat} {bytes : List UInt8}

theorem LastInto.concat {j : Nat} (h : LastInto cell address bytes j) {byte : UInt8}
    (hbeside : (address + bytes.length) % storeSize ≠ cell) :
    LastInto cell address (bytes ++ [byte]) j where
  inside := by
    rw [List.length_append]
    exact Nat.lt_add_right _ h.inside
  lands := h.lands
  last := by
    intro k hlater hk
    rw [List.length_append, List.length_singleton] at hk
    obtain hearlier | rfl := Nat.lt_or_eq_of_le (Nat.le_of_lt_succ hk)
    · exact h.last k hlater hearlier
    · exact hbeside

/-- **Preload**: each cell holds the last byte that goes to it, or is as it was if none does. -/
theorem cell_preload (hsize : memory.store.length = storeSize) (address : Nat)
    (bytes : List UInt8) (hcell : cell < storeSize) :
    (∃ j, LastInto cell address bytes j ∧
        (memory.preload address bytes).store[cell]? = bytes[j]?) ∨
      (∀ j, j < bytes.length → (address + j) % storeSize ≠ cell) ∧
        (memory.preload address bytes).store[cell]? = memory.store[cell]? := by
  -- Induction from the right: the byte that comes last decides on its own cell.
  induction bytes using List.reverseRecOn with
  | nil => exact .inr ⟨fun j hj => absurd hj (Nat.not_lt_zero j), rfl⟩
  | append_singleton bytes byte ih =>
      rw [store_preload_concat]
      by_cases hlands : (address + bytes.length) % storeSize = cell
      · refine .inl ⟨bytes.length, ⟨by simp, hlands, ?_⟩, ?_⟩
        · intro k hlater hk
          rw [List.length_append, List.length_singleton] at hk
          omega
        · have hstored : cell < (memory.preload address bytes).store.length := by
            rw [length_preload, hsize]
            exact hcell
          rw [hlands, List.getElem?_set_self hstored, List.getElem?_concat_length]
      · rw [List.getElem?_set_ne hlands]
        obtain ⟨j, hlast, hbyte⟩ | ⟨hnone, hkept⟩ := ih
        · refine .inl ⟨j, hlast.concat hlands, ?_⟩
          rw [hbyte, List.getElem?_append_left hlast.inside]
        · refine .inr ⟨fun j hj => ?_, hkept⟩
          rw [List.length_append, List.length_singleton] at hj
          obtain hearlier | rfl := Nat.lt_or_eq_of_le (Nat.le_of_lt_succ hj)
          · exact hnone j hearlier
          · exact hlands

/-! ## plain requests -/

/-- Commands without flags, one for each filler. -/
def requests (fillers : List UInt8) : List Command := fillers.map fun byte => ⟨false, false, byte⟩

/-- The commands that open a read transfer at an address and ask for a byte with each
filler; the transfer stays open. -/
def requesting (address : UInt16) (fillers : List UInt8) : List Command :=
  selecting address ++ ⟨true, false, 0xDD⟩ :: requests fillers

/-- **Requests**: each takes the next byte of the store into the queue, and that is all they
do but for the address and the count. -/
theorem obeyAll_requests (h : Sound memory) {payload fillers : List UInt8}
    (hlength : fillers.length = payload.length) (hstage : memory.stage = .readData)
    (hstored : Holds memory.store memory.address payload) :
    memory.obeyAll (requests fillers) = .ok
      { memory with
        received := memory.received ++ payload
        address := (memory.address + payload.length) % storeSize
        commandsProcessed := memory.commandsProcessed + payload.length } := by
  induction payload generalizing memory fillers with
  | nil =>
      have haddress : memory.address % storeSize = memory.address := Nat.mod_eq_of_lt h.address
      rw [List.length_eq_zero_iff.mp hlength, List.append_nil, List.length_nil, Nat.add_zero,
        haddress]
      rfl
  | cons byte rest ih =>
      obtain ⟨filler, others, rfl⟩ := List.exists_cons_of_length_eq_add_one hlength
      obtain ⟨hbyte, hrest⟩ := holds_cons.mp hstored
      rw [Nat.mod_eq_of_lt h.address] at hbyte
      have hfirst := obey_readData hstage hbyte false filler
      have hothers := ih (h.obey hfirst) (Nat.succ.inj hlength) hstage (holds_mod.mpr hrest)
      rw [requests, List.map_cons, obeyAll_cons hfirst]
      refine hothers.trans ?_
      simp [conclude, toNext, Nat.add_assoc, Nat.add_comm 1]

/-- **Open read transfer**: what the store has from the address on waits behind the bytes that
already do. -/
theorem obeyAll_requesting (h : Sound memory) (hidle : memory.stage = .idle) {address : UInt16}
    {payload fillers : List UInt8} (hlength : fillers.length = payload.length)
    (hstored : Holds memory.store address.toNat payload) :
    ∃ after, memory.obeyAll (requesting address fillers) = .ok after ∧
      after.received = memory.received ++ payload ∧ after.store = memory.store := by
  have hselected := obeyAll_selecting hidle address
  have hturned := @obey_turn (memory.selected address) rfl
  have hasked := obeyAll_requests ((h.obeyAll hselected).obey hturned) hlength rfl
    (holds_mod.mpr hstored)
  have hall := (obeyAll_append hselected _).trans ((obeyAll_cons hturned _).trans hasked)
  exact ⟨_, hall, rfl, rfl⟩

end SerialMemory

/-! ## files -/

namespace Preload

open RegisterDevice (results)
open SerialMemory (Command LastInto Operation fetch fresh requesting send storeSize)

variable {memory : SerialMemory} {address : UInt16}

/-- The memory after the host has tried to load a file. -/
def memoryAfter (memory : SerialMemory) (address : UInt16) (file : FileRead) : SerialMemory :=
  match fileIntoMemory memory address file with
  | .ok (_, loaded) => loaded
  | .error _ => memory

/-- A file is loaded exactly if its content lies inside the store. -/
theorem fileIntoMemory_eq_ok_iff {file : FileRead} {count : Nat} {loaded : SerialMemory} :
    fileIntoMemory memory address file = .ok (count, loaded) ↔
      ∃ bytes, file.content = .ok bytes ∧ address.toNat < storeSize ∧
        address.toNat + bytes.length ≤ storeSize ∧ count = bytes.length ∧
        loaded = memory.preload address.toNat bytes := by
  rw [fileIntoMemory, contentOf]
  cases file.content with
  | error fault => simp [bind, Except.bind]
  | ok bytes =>
      simp only [bind, Except.bind, Except.ok.injEq, exists_eq_left']
      split
      next hfits => simp [hfits, eq_comm]
      next hmisfit =>
        simp only [reduceCtorEq, false_iff]
        rintro ⟨hstart, hend, -⟩
        exact hmisfit ⟨hstart, hend⟩

/-- A file that is not loaded cannot be read or would reach past the store; the error names
it. -/
theorem fileIntoMemory_eq_error_iff {file : FileRead} {cause : Error} :
    fileIntoMemory memory address file = .error cause ↔
      (∃ fault, file.content = .error fault ∧ cause = .unreadableFile file.path fault) ∨
        ∃ bytes, file.content = .ok bytes ∧
          (storeSize ≤ address.toNat ∨ storeSize < address.toNat + bytes.length) ∧
          cause = .pastStore file.path bytes.length address.toNat := by
  rw [fileIntoMemory, contentOf]
  cases file.content with
  | error fault => simp [bind, Except.bind, eq_comm]
  | ok bytes =>
      simp only [bind, Except.bind, Except.ok.injEq, exists_eq_left', reduceCtorEq, false_and,
        exists_false, false_or]
      split
      next hfits =>
        simp only [reduceCtorEq, false_iff]
        rintro ⟨hpast, -⟩
        omega
      next hmisfit =>
        have hpast : storeSize ≤ address.toNat ∨ storeSize < address.toNat + bytes.length := by
          omega
        simp [hpast, eq_comm]

/-- A load that is not carried out leaves the memory as it is. -/
theorem memoryAfter_of_error {file : FileRead} {cause : Error}
    (h : fileIntoMemory memory address file = .error cause) :
    memoryAfter memory address file = memory := by
  rw [memoryAfter, h]

theorem memoryAfter_of_ok {file : FileRead} {count : Nat} {loaded : SerialMemory}
    (h : fileIntoMemory memory address file = .ok (count, loaded)) :
    memoryAfter memory address file = loaded := by
  rw [memoryAfter, h]

/-! ## from the file to the firmware -/

/-- The content of a file stands at its places, without going around the end. -/
theorem holds_loaded (hsize : memory.store.length = storeSize) {bytes : List UInt8}
    (hfits : address.toNat + bytes.length ≤ storeSize) :
    SerialMemory.Holds (memory.preload address.toNat bytes).store address.toNat bytes :=
  SerialMemory.holds_preload hsize address.toNat
    (Nat.le_trans (Nat.le_add_left ..) hfits)

theorem cell_loaded (hsize : memory.store.length = storeSize) {bytes : List UInt8}
    (hfits : address.toNat + bytes.length ≤ storeSize) {i : Nat} (hi : i < bytes.length) :
    (memory.preload address.toNat bytes).store[address.toNat + i]? = bytes[i]? := by
  have hplace : (address.toNat + i) % storeSize = address.toNat + i :=
    Nat.mod_eq_of_lt (by omega)
  have hheld := holds_loaded hsize hfits i hi
  rwa [hplace] at hheld

/-- All other cells are as they were. -/
theorem cell_beside {bytes : List UInt8} (hfits : address.toNat + bytes.length ≤ storeSize)
    {cell : Nat} (hbeside : cell < address.toNat ∨ address.toNat + bytes.length ≤ cell)
    (memory : SerialMemory) :
    (memory.preload address.toNat bytes).store[cell]? = memory.store[cell]? := by
  refine SerialMemory.getElem?_preload_of_ne (fun i hi => ?_) memory
  have hplace : (address.toNat + i) % storeSize = address.toNat + i :=
    Nat.mod_eq_of_lt (by omega)
  omega

/-- **Loading the serial memory**, in any state and whatever led to it.

1. A file is loaded exactly if its content begins and ends inside the store.
2. Then its bytes are counted and stand at their places, all other cells are as before, and
   nothing but the store has changed.  If no transfer is open, a read transfer at the address
   with a plain request for each byte, whatever else its command words say, is accepted and
   takes exactly these bytes into the queue, where the firmware fetches them behind those
   that waited.
3. Else the error names the file, and the memory is as it was; so it is if the file cannot be
   read.
4. A preload itself takes bytes of any number to any address: each cell ends as the last of
   the bytes that go to it around the end, or as it was if none does. -/
theorem load_then_read (history : List Operation) (address : UInt16) (path : String)
    (bytes : List UInt8) :
    let memory := fresh.operateAll history
    let file : FileRead := ⟨path, .ok bytes⟩
    ((∃ loaded, fileIntoMemory memory address file = .ok loaded) ↔
      address.toNat < storeSize ∧ address.toNat + bytes.length ≤ storeSize) ∧
    (∀ count loaded, fileIntoMemory memory address file = .ok (count, loaded) →
      memoryAfter memory address file = loaded ∧ count = bytes.length ∧
      loaded = { memory with store := loaded.store } ∧
      (∀ i, i < bytes.length → loaded.store[address.toNat + i]? = bytes[i]?) ∧
      (∀ cell, cell < address.toNat ∨ address.toNat + bytes.length ≤ cell →
        loaded.store[cell]? = memory.store[cell]?) ∧
      (memory.stage = .idle → ∀ fillers : List UInt8, fillers.length = bytes.length →
        ∀ asked : List UInt32, asked.map Command.ofWord = requesting address fillers →
          let answered := RegisterDevice.run loaded (asked.map send)
          results loaded (asked.map send) = asked.map (fun _ => .ok none) ∧
          answered.received = memory.received ++ bytes ∧ answered.store = loaded.store ∧
          results answered (List.replicate (memory.received.length + bytes.length) fetch) =
            (memory.received ++ bytes).map fun byte => .ok (some byte.toUInt32))) ∧
    (∀ cause, fileIntoMemory memory address file = .error cause →
      cause = .pastStore path bytes.length address.toNat ∧
      memoryAfter memory address file = memory) ∧
    (∀ fault, fileIntoMemory memory address ⟨path, .error fault⟩ =
        .error (.unreadableFile path fault) ∧
      memoryAfter memory address ⟨path, .error fault⟩ = memory) ∧
    ∀ (start : Nat) (content : List UInt8),
      memory.preload start content =
        { memory with store := (memory.preload start content).store } ∧
      ∀ cell, cell < storeSize →
        (∃ j, LastInto cell start content j ∧
          (memory.preload start content).store[cell]? = content[j]?) ∨
        (∀ j, j < content.length → (start + j) % storeSize ≠ cell) ∧
          (memory.preload start content).store[cell]? = memory.store[cell]? := by
  intro memory file
  have hmemory : SerialMemory.Sound memory := SerialMemory.sound_fresh.operateAll history
  have honly (start : Nat) (content : List UInt8) : memory.preload start content =
      { memory with store := (memory.preload start content).store } := by
    obtain ⟨store, hstore⟩ := memory.preload_eq start content
    rw [hstore]
  refine ⟨⟨?_, ?_⟩, ?_, ?_, ?_, fun start content => ⟨honly start content, fun cell hcell =>
    SerialMemory.cell_preload hmemory.size start content hcell⟩⟩
  · rintro ⟨⟨count, loaded⟩, hloaded⟩
    obtain ⟨content, hcontent, hstart, hend, -⟩ := fileIntoMemory_eq_ok_iff.mp hloaded
    obtain rfl := Except.ok.inj hcontent
    exact ⟨hstart, hend⟩
  · rintro ⟨hstart, hend⟩
    exact ⟨_, fileIntoMemory_eq_ok_iff.mpr ⟨bytes, rfl, hstart, hend, rfl, rfl⟩⟩
  · intro count loaded hloaded
    have hafter := memoryAfter_of_ok hloaded
    obtain ⟨content, hcontent, -, hend, rfl, rfl⟩ := fileIntoMemory_eq_ok_iff.mp hloaded
    obtain rfl := Except.ok.inj hcontent
    refine ⟨hafter, rfl, honly _ _, fun i hi => cell_loaded hmemory.size hend hi,
      fun cell hbeside => cell_beside hend hbeside memory, ?_⟩
    intro hidle fillers hfillers asked hasked answered
    have hloadedSound := hmemory.preload address.toNat bytes
    have hloadedIdle : (memory.preload address.toNat bytes).stage = .idle := by
      rw [honly]
      exact hidle
    have hwaiting : (memory.preload address.toNat bytes).received = memory.received := by
      rw [honly]
    obtain ⟨_, hok, hreceived, hstore⟩ := SerialMemory.obeyAll_requesting hloadedSound hloadedIdle
      hfillers (holds_loaded hmemory.size hend)
    rw [← hasked] at hok
    obtain ⟨hresults, rfl⟩ := SerialMemory.perform_words hloadedSound hok
    have hqueue : answered.received = memory.received ++ bytes := hwaiting ▸ hreceived
    refine ⟨hresults, hqueue, hstore, ?_⟩
    rw [← List.length_append]
    exact SerialMemory.results_fetch (hqueue.trans (List.append_nil _).symm)
  · intro cause hfailed
    refine ⟨?_, memoryAfter_of_error hfailed⟩
    obtain ⟨fault, hfault, -⟩ | ⟨content, hcontent, -, hcause⟩ :=
      fileIntoMemory_eq_error_iff.mp hfailed
    · cases hfault
    · obtain rfl := Except.ok.inj hcontent
      exact hcause
  · intro fault
    have hfailed : fileIntoMemory memory address ⟨path, .error fault⟩ =
        .error (.unreadableFile path fault) := rfl
    exact ⟨hfailed, memoryAfter_of_error hfailed⟩

/-- Three bytes are loaded up to the end of the store and are read back behind one that
waits. -/
theorem load_then_read_at_end :
    let memory := fresh.operateAll [.access (send 0x2dd), .access (send 0x100)]
    let file : FileRead := ⟨"image.bin", .ok [0xdc, 0xdd, 0x01]⟩
    ∃ loaded, fileIntoMemory memory 0x3fd file = .ok (3, loaded) ∧
      results
          (RegisterDevice.run loaded ([0x2dc, 0xfc03, 0xfd, 0x2dd, 0x77, 0xdc, 0xff].map send))
          (List.replicate 4 fetch) =
        [0, 0xdc, 0xdd, 0x01].map fun byte => .ok (some byte.toUInt32) := by
  intro memory file
  obtain ⟨⟨-, hloads⟩, hafter, -⟩ := load_then_read
    [.access (send 0x2dd), .access (send 0x100)] 0x3fd "image.bin" [0xdc, 0xdd, 0x01]
  obtain ⟨⟨count, loaded⟩, hloaded⟩ := hloads ⟨by decide, by decide⟩
  obtain ⟨-, rfl, -, -, -, hread⟩ := hafter count loaded hloaded
  obtain ⟨-, -, -, hfetched⟩ := hread rfl [0x77, 0xdc, 0xff] rfl
    [0x2dc, 0xfc03, 0xfd, 0x2dd, 0x77, 0xdc, 0xff] (by decide)
  exact ⟨loaded, hloaded, hfetched⟩

end Preload

end BoardSim
