import BoardSim.Proofs.SerialMemory.Command

/-!
# BoardSim.Proofs.SerialMemory.Transfer

What is written to the serial memory can be read back.

A write transfer puts its data where loading the same bytes would put it, so the
lemmas about the store are about `preload`: the bytes are there (`holds_preload`)
and the cells that they do not reach are as before (`getElem?_preload_of_ne`).
Both count cells from an address around the end of the store.

1. `obeyAll_sending_write` and `obeyAll_sending_read` follow the data of a transfer
   command by command;
2. `obeyAll_writing` and `obeyAll_reading` are whole transfers;
3. `write_then_read` is one after the other, as writes to the transfer register and
   reads of the receive register.
-/

namespace BoardSim.SerialMemory

open RegisterDevice (results)

/-! ## the store around its end -/

/-- The store has the bytes from an address on, around its end. -/
def Holds (store : List UInt8) (address : Nat) (bytes : List UInt8) : Prop :=
  ∀ i, i < bytes.length → store[(address + i) % storeSize]? = bytes[i]?

/-- The bytes after the first are those from the next address on. -/
theorem holds_cons {store : List UInt8} {address : Nat} {byte : UInt8} {rest : List UInt8} :
    Holds store address (byte :: rest) ↔
      store[address % storeSize]? = some byte ∧ Holds store (address + 1) rest := by
  have hshift (i : Nat) : address + (i + 1) = address + 1 + i := by omega
  constructor
  · intro h
    refine ⟨h 0 (Nat.zero_lt_succ _), fun i hi => ?_⟩
    rw [← hshift]
    exact h (i + 1) (Nat.succ_lt_succ hi)
  · rintro ⟨hfirst, hrest⟩ i hi
    cases i with
    | zero => exact hfirst
    | succ i =>
        rw [hshift]
        exact hrest i (Nat.lt_of_succ_lt_succ hi)

/-- Only the address within the store counts. -/
theorem holds_mod {store : List UInt8} {address : Nat} {bytes : List UInt8} :
    Holds store (address % storeSize) bytes ↔ Holds store address bytes := by
  simp [Holds, Nat.mod_add_mod]

/-- What loading bytes makes of the store depends on the store and on the address within
it alone. -/
theorem store_preload_congr {memory other : SerialMemory} (hstore : memory.store = other.store)
    {address start : Nat} (haddress : address % storeSize = start % storeSize)
    (bytes : List UInt8) :
    (memory.preload address bytes).store = (other.preload start bytes).store := by
  induction bytes generalizing memory other address start with
  | nil => exact hstore
  | cons byte rest ih =>
      rw [preload, preload, haddress, hstore]
      apply ih <;> rfl

/-- The first byte goes to the address, and the others are loaded after it. -/
theorem store_preload_cons (memory : SerialMemory) (address : Nat) (byte : UInt8)
    (rest : List UInt8) :
    (memory.preload address (byte :: rest)).store =
      ({ memory with store := memory.store.set (address % storeSize) byte }.preload
        (address + 1) rest).store :=
  store_preload_congr rfl (Nat.mod_add_mod ..) rest

/-- Loading bytes leaves the cells alone that they do not reach. -/
theorem getElem?_preload_of_ne {cell : Nat} {bytes : List UInt8} {address : Nat}
    (h : ∀ i, i < bytes.length → cell ≠ (address + i) % storeSize) (memory : SerialMemory) :
    (memory.preload address bytes).store[cell]? = memory.store[cell]? := by
  induction bytes generalizing memory address with
  | nil => rfl
  | cons byte rest ih =>
      have hfirst : address % storeSize ≠ cell := (h 0 (Nat.zero_lt_succ _)).symm
      have hrest : ∀ i, i < rest.length → cell ≠ (address + 1 + i) % storeSize := by
        intro i hi
        rw [Nat.add_right_comm]
        exact h (i + 1) (Nat.succ_lt_succ hi)
      rw [store_preload_cons, ih hrest, List.getElem?_set_ne hfirst]

/-- Bytes that are loaded and do not reach around to their start are in the store. -/
theorem holds_preload {memory : SerialMemory} (hsize : memory.store.length = storeSize)
    (address : Nat) {bytes : List UInt8} (hfit : bytes.length ≤ storeSize) :
    Holds (memory.preload address bytes).store address bytes := by
  induction bytes generalizing memory address with
  | nil => exact fun i hi => absurd hi (Nat.not_lt_zero i)
  | cons byte rest ih =>
      rw [List.length_cons] at hfit
      -- The later bytes stay clear of the first cell: fewer follow than the store has.
      have hfirst : ∀ i, i < rest.length → address % storeSize ≠ (address + 1 + i) % storeSize := by
        intro i hi
        rw [storeSize] at hfit ⊢
        omega
      have hcell : address % storeSize < memory.store.length := by
        rw [hsize]
        exact Nat.mod_lt _ (by decide)
      rw [store_preload_cons, holds_cons]
      refine ⟨?_, ih ((List.length_set ..).trans hsize) (address + 1) (Nat.le_of_succ_le hfit)⟩
      rw [getElem?_preload_of_ne hfirst, List.getElem?_set_self hcell]

/-! ## the commands of a transfer -/

/-- The commands that send bytes, the last of which ends the transfer. -/
def sending : List UInt8 → List Command
  | [] => []
  | byte :: rest => ⟨false, rest.isEmpty, byte⟩ :: sending rest

/-- The commands that open a transfer for writing and select an address. -/
def selecting (address : UInt16) : List Command :=
  [⟨true, false, 0xDC⟩, ⟨false, false, (address >>> 8).toUInt8⟩, ⟨false, false, address.toUInt8⟩]

/-- The two bytes of an address, as they are taken in, are the address within the store. -/
theorem selected_eq (address : UInt16) :
    (address >>> 8).toUInt8.toNat % 4 * 256 ||| address.toUInt8.toNat =
      address.toNat % storeSize := by
  have hhigh : (address >>> 8).toUInt8.toNat = address.toNat / 256 := by
    have hbound := address.toNat_lt
    simp [Nat.shiftRight_eq_div_pow]
    omega
  have hlow : address.toUInt8.toNat = address.toNat % 256 := by simp
  have hjoin : 256 * (address.toNat / 256 % 4) + address.toNat % 256 =
      256 * (address.toNat / 256 % 4) ||| address.toNat % 256 :=
    Nat.two_pow_add_eq_or_of_lt (i := 8) (Nat.mod_lt _ (by decide)) _
  rw [hhigh, hlow, Nat.mul_comm, storeSize, ← hjoin]
  omega

/-- The memory once an address was selected. -/
def selected (memory : SerialMemory) (address : UInt16) : SerialMemory :=
  { memory with
    stage := .writeData
    address := address.toNat % storeSize
    commandsProcessed := memory.commandsProcessed + 3 }

/-- An address is selected in three commands. -/
theorem obeyAll_selecting {memory : SerialMemory} (hidle : memory.stage = .idle)
    (address : UInt16) : memory.obeyAll (selecting address) = .ok (memory.selected address) := by
  rw [selected, ← selected_eq]
  simp [obeyAll, selecting, obey, transfer, hidle, opened?, writeAddress, conclude, Except.map,
    bind, Except.bind, pure, Except.pure]

/-- A byte of data is written at the address, which moves on. -/
theorem obey_writeData {memory : SerialMemory} (h : Sound memory)
    (hstage : memory.stage = .writeData) (stop : Bool) (byte : UInt8) :
    memory.obey ⟨false, stop, byte⟩ = .ok
      ({ memory with store := memory.store.set memory.address byte }.toNext.conclude stop) := by
  have hcell : memory.address < memory.store.length := by
    rw [h.size]
    exact h.address
  simp [obey, transfer, hstage, hcell, Except.map]

/-- A byte of data is read at the address, which moves on. -/
theorem obey_readData {memory : SerialMemory} (hstage : memory.stage = .readData) {byte : UInt8}
    (hstored : memory.store[memory.address]? = some byte) (stop : Bool) (filler : UInt8) :
    memory.obey ⟨false, stop, filler⟩ = .ok
      ({ memory with received := memory.received ++ [byte] }.toNext.conclude stop) := by
  simp [obey, transfer, hstage, hstored, Except.map]

/-- **Write**: data goes where loading it would put it, and the last byte ends the
transfer. -/
theorem obeyAll_sending_write {memory : SerialMemory} (h : Sound memory) {payload : List UInt8}
    (hstage : payload ≠ [] → memory.stage = .writeData) :
    ∃ after, memory.obeyAll (sending payload) = .ok after ∧
      after.store = (memory.preload memory.address payload).store ∧
      after.address = (memory.address + payload.length) % storeSize ∧
      after.stage = (if payload.isEmpty then memory.stage else .idle) ∧
      after.received = memory.received := by
  -- The stage is asked for only where a byte follows, since the last command ends the transfer.
  induction payload generalizing memory with
  | nil => exact ⟨memory, rfl, rfl, (Nat.mod_eq_of_lt h.address).symm, rfl, rfl⟩
  | cons byte rest ih =>
      have hfirst := obey_writeData h (hstage (by simp)) rest.isEmpty byte
      have hopen : rest ≠ [] →
          (if rest.isEmpty then Stage.idle else memory.stage) = .writeData := by
        intro hrest
        simp [hrest, hstage]
      obtain ⟨after, hok, hstore, haddress, hidle, hreceived⟩ := ih (h.obey hfirst) hopen
      refine ⟨after, (obeyAll_cons hfirst _).trans hok, ?_, ?_, ?_, hreceived⟩
      · have hcell : memory.address % storeSize = memory.address := Nat.mod_eq_of_lt h.address
        rw [hstore, store_preload_cons, hcell]
        apply store_preload_congr
        · rfl
        · exact Nat.mod_mod ..
      · rw [haddress, List.length_cons, Nat.add_comm rest.length 1, ← Nat.add_assoc]
        exact Nat.mod_add_mod ..
      · rw [hidle]
        cases rest <;> rfl

/-- **Read**: each further command takes the next byte of the store into the queue, and
the last one ends the transfer. -/
theorem obeyAll_sending_read {memory : SerialMemory} (h : Sound memory)
    {payload fillers : List UInt8} (hlength : fillers.length = payload.length)
    (hstage : payload ≠ [] → memory.stage = .readData)
    (hstored : Holds memory.store memory.address payload) :
    ∃ after, memory.obeyAll (sending fillers) = .ok after ∧
      after.received = memory.received ++ payload ∧
      after.store = memory.store ∧
      after.stage = (if payload.isEmpty then memory.stage else .idle) := by
  induction payload generalizing memory fillers with
  | nil =>
      rw [List.length_eq_zero_iff.mp hlength]
      exact ⟨memory, rfl, (List.append_nil _).symm, rfl, rfl⟩
  | cons byte rest ih =>
      obtain ⟨filler, others, rfl⟩ := List.exists_cons_of_length_eq_add_one hlength
      obtain ⟨hbyte, hrest⟩ := holds_cons.mp hstored
      rw [Nat.mod_eq_of_lt h.address] at hbyte
      have hothers : others.length = rest.length := Nat.succ.inj hlength
      have hfirst := obey_readData (hstage (by simp)) hbyte others.isEmpty filler
      have hopen : rest ≠ [] →
          (if others.isEmpty then Stage.idle else memory.stage) = .readData := by
        intro hrest
        have hmore : others ≠ [] := by
          rintro rfl
          exact hrest (List.length_eq_zero_iff.mp hothers.symm)
        simp [hmore, hstage]
      obtain ⟨after, hok, hreceived, hstore, hidle⟩ :=
        ih (h.obey hfirst) hothers hopen (holds_mod.mpr hrest)
      refine ⟨after, (obeyAll_cons hfirst _).trans hok, ?_, hstore, ?_⟩
      · rw [hreceived]
        exact List.append_assoc ..
      · rw [hidle]
        cases rest with
        | nil => simp [List.length_eq_zero_iff.mp hothers, conclude]
        | cons next rest => rfl

/-! ## fetching -/

/-- The bytes that wait are fetched one by one, oldest first. -/
theorem results_fetch {memory : SerialMemory} {bytes later : List UInt8}
    (h : memory.received = bytes ++ later) :
    results memory (List.replicate bytes.length fetch) =
      bytes.map fun byte => .ok (some byte.toUInt32) := by
  induction bytes generalizing memory with
  | nil => rfl
  | cons byte rest ih =>
      have hread : memory.read 0x04 =
          .answer { memory with received := rest ++ later } byte.toUInt32 := by
        simp [SerialMemory.read, Register.ofOffset?, h]
      have hfetch : RegisterDevice.perform memory fetch =
          ⟨.ok (some byte.toUInt32), { memory with received := rest ++ later }⟩ := by
        simp [fetch, RegisterDevice.perform, RegisterDevice.readAt, hread, Except.map]
      rw [List.length_cons, List.replicate_succ, results, hfetch, List.map_cons]
      exact congrArg _ (ih rfl)

/-! ## transfers from command words -/

/-- The commands that write a payload at an address. -/
def writing (address : UInt16) (payload : List UInt8) : List Command :=
  selecting address ++ sending payload

/-- The commands that read from an address, one byte for each filler. -/
def reading (address : UInt16) (fillers : List UInt8) : List Command :=
  selecting address ++ ⟨true, false, 0xDD⟩ :: sending fillers

/-- A repeated start turns a transfer to reading. -/
theorem obey_turn {memory : SerialMemory} (hstage : memory.stage = .writeData) :
    memory.obey ⟨true, false, 0xDD⟩ =
      .ok ({ memory with stage := .readData }.conclude false) := by
  simp [obey, transfer, hstage, opened?, writeAddress, readAddress, Except.map]

/-- **Write transfer**: it leaves the memory idle, with the payload in the store and the
address after it. -/
theorem obeyAll_writing {memory : SerialMemory} (h : Sound memory) (hidle : memory.stage = .idle)
    (address : UInt16) {payload : List UInt8} (hpayload : payload ≠ []) :
    ∃ after, memory.obeyAll (writing address payload) = .ok after ∧
      after.store = (memory.preload address.toNat payload).store ∧
      after.address = (address.toNat + payload.length) % storeSize ∧
      after.stage = .idle ∧ after.received = memory.received := by
  have hselected := obeyAll_selecting hidle address
  obtain ⟨after, hok, hstore, haddress, hstage, hreceived⟩ :=
    obeyAll_sending_write (h.obeyAll hselected) fun _ : payload ≠ [] => rfl
  refine ⟨after, (obeyAll_append hselected _).trans hok, ?_, ?_, ?_, hreceived⟩
  · rw [hstore]
    apply store_preload_congr
    · rfl
    · exact Nat.mod_mod ..
  · rw [haddress]
    exact Nat.mod_add_mod ..
  · simpa [hpayload] using hstage

/-- **Read transfer**: it leaves the memory idle, with what the store has at the address
behind the bytes that already wait. -/
theorem obeyAll_reading {memory : SerialMemory} (h : Sound memory) (hidle : memory.stage = .idle)
    {address : UInt16} {payload fillers : List UInt8} (hpayload : payload ≠ [])
    (hlength : fillers.length = payload.length)
    (hstored : Holds memory.store address.toNat payload) :
    ∃ after, memory.obeyAll (reading address fillers) = .ok after ∧
      after.received = memory.received ++ payload ∧
      after.store = memory.store ∧ after.stage = .idle := by
  have hselected := obeyAll_selecting hidle address
  have hturned := @obey_turn (memory.selected address) rfl
  obtain ⟨after, hok, hreceived, hstore, hstage⟩ :=
    obeyAll_sending_read ((h.obeyAll hselected).obey hturned) hlength (fun _ => rfl)
      (holds_mod.mpr hstored)
  refine ⟨after, ?_, hreceived, hstore, ?_⟩
  · rw [reading, obeyAll_append hselected, obeyAll_cons hturned, hok]
  · simpa [hpayload] using hstage

/-- **Round trip**: in any state between transfers, whatever led to it, a payload that
fits into the store is written and then read.  Only the flags and the bytes of the
command words count, and the bytes that ask for data are free.

1. All commands of the write transfer are accepted.  After it the memory is idle, the
   payload lies in the store from the address on, around the end, and nowhere else has
   the store changed; the address is the one after the payload.
2. All commands of the read transfer are accepted.  After it the memory is idle, the
   store is as before, and the payload waits behind the bytes that already did.
3. These are what the firmware fetches. -/
theorem write_then_read {history : List Operation}
    (hidle : (fresh.operateAll history).stage = .idle)
    (address : UInt16) {payload : List UInt8} (hpayload : payload ≠ [])
    (hfit : payload.length ≤ storeSize)
    {sent : List UInt32} (hsent : sent.map Command.ofWord = writing address payload)
    {fillers : List UInt8} (hfillers : fillers.length = payload.length)
    {asked : List UInt32} (hasked : asked.map Command.ofWord = reading address fillers) :
    let before := fresh.operateAll history
    let written := RegisterDevice.run before (sent.map send)
    let answered := RegisterDevice.run written (asked.map send)
    results before (sent.map send) = sent.map (fun _ => .ok none) ∧
    written.stage = .idle ∧
    (∀ i, i < payload.length →
      written.store[(address.toNat % storeSize + i) % storeSize]? = payload[i]?) ∧
    (∀ cell, (∀ i, i < payload.length → cell ≠ (address.toNat % storeSize + i) % storeSize) →
      written.store[cell]? = before.store[cell]?) ∧
    written.address = (address.toNat + payload.length) % storeSize ∧
    results written (asked.map send) = asked.map (fun _ => .ok none) ∧
    answered.stage = .idle ∧
    answered.store = written.store ∧
    answered.received = before.received ++ payload ∧
    results answered (List.replicate (before.received.length + payload.length) fetch) =
      (before.received ++ payload).map fun byte => .ok (some byte.toUInt32) := by
  intro before written answered
  have hbefore : Sound before := sound_fresh.operateAll history
  obtain ⟨_, hwriteOk, hstore, haddress, hstage, hkept⟩ :=
    obeyAll_writing hbefore hidle address hpayload
  rw [← hsent] at hwriteOk
  obtain ⟨hsentResults, rfl⟩ := perform_words hbefore hwriteOk
  have hwritten : Sound written := hbefore.obeyAll hwriteOk
  have hholds : Holds written.store address.toNat payload := by
    rw [hstore]
    exact holds_preload hbefore.size address.toNat hfit
  obtain ⟨_, hreadOk, hreceived, hsame, hended⟩ :=
    obeyAll_reading hwritten hstage hpayload hfillers hholds
  rw [← hasked] at hreadOk
  obtain ⟨haskedResults, rfl⟩ := perform_words hwritten hreadOk
  have hqueue : answered.received = before.received ++ payload := by
    rw [← hkept]
    exact hreceived
  refine ⟨hsentResults, hstage, holds_mod.mpr hholds, ?_, haddress, haskedResults, hended, hsame,
    hqueue, ?_⟩
  · intro cell hcell
    rw [hstore]
    apply getElem?_preload_of_ne
    intro i hi
    rw [← Nat.mod_add_mod]
    exact hcell i hi
  · rw [← List.length_append]
    exact results_fetch (hqueue.trans (List.append_nil _).symm)

/-- A payload around the end of the store, with bytes that look like device addresses,
comes back behind a byte that waits. -/
theorem write_then_read_around_end :
    results
        (RegisterDevice.run
          (RegisterDevice.run (fresh.operateAll [.access (send 0x2dd), .access (send 0x100)])
            ([0x2dc, 0xfc03, 0xfe, 0xdc, 0xdd, 0x101].map send))
          ([0x2dc, 0x3, 0xfe, 0x2dd, 0x77, 0xdc, 0x1ff].map send))
        (List.replicate 4 fetch) =
      [0, 0xdc, 0xdd, 0x01].map fun byte => .ok (some byte.toUInt32) := by
  have hwaiting :
      (fresh.operateAll [.access (send 0x2dd), .access (send 0x100)]).received = [0] := rfl
  have htrip := @write_then_read [.access (send 0x2dd), .access (send 0x100)] rfl 0x3fe
    [0xdc, 0xdd, 0x01] (by decide) (by decide)
    [0x2dc, 0xfc03, 0xfe, 0xdc, 0xdd, 0x101] (by decide)
    [0x77, 0xdc, 0xff] rfl
    [0x2dc, 0x3, 0xfe, 0x2dd, 0x77, 0xdc, 0x1ff] (by decide)
  have hfetched := htrip.2.2.2.2.2.2.2.2.2
  rw [hwaiting] at hfetched
  exact hfetched

end BoardSim.SerialMemory
