import BoardSim.Proofs.Bus.Independence
import BoardSim.Proofs.Device.PlainRegisters

/-!
# BoardSim.Proofs.Bus.PlainRegisters

The plain registers behind the addresses of a bus.

`plain?` tells the word at an address that leads to a plain register.  That word is what a
read is told, and a write is accepted (`read_of_plain`, `write_of_plain`).  If registers of
different addresses are different (`Apart`), a request changes the word at its own address,
to the word that is written, and no other one, however it ends (`plain?_serve`).
-/

namespace BoardSim

namespace Request

/-- The word that a request leaves in a plain register that held `word`. -/
def left (word : UInt32) : Request → UInt32
  | .read _ => word
  | .write _ value => value

variable (request : Request) {device : Device} {board : Board} {offset other word : UInt32}

theorem plain?_use (h : device.plain? board offset = some word) :
    (request.use device board offset).state.1.plain? (request.use device board offset).state.2
      offset = some (request.left word) := by
  cases request with
  | read address => exact ((device.plainWords board).read_keeps offset offset).trans h
  | write address value => exact (device.plainWords board).write_replaces value h

theorem plain?_use_of_ne (halign : 4 ∣ offset.toNat) (hother : 4 ∣ other.toNat)
    (hne : other ≠ offset) :
    (request.use device board offset).state.1.plain? (request.use device board offset).state.2
      other = device.plain? board other := by
  cases request with
  | read address => exact (device.plainWords board).read_keeps offset other
  | write address value => exact (device.plainWords board).write_keeps value halign hother hne

/-- Only the pins' own registers change the pins. -/
theorem pins_use (h : device ≠ .pins) (board : Board) (offset : UInt32) :
    (request.use device board offset).state.2.pins = board.pins := by
  cases request with
  | read address => exact congrArg Board.pins (device.board_read board offset)
  | write address value => exact Device.pins_write h board offset value

end Request

namespace Bus

/-- The word at an address that leads to a plain register. -/
def plain? (bus : Bus) (address : UInt32) : Option UInt32 :=
  (bus.target? address).bind fun (_, mount, offset) => mount.device.plain? bus.board offset

variable {bus : Bus} {address offset word : UInt32} {slot : Nat} {mount : Mount}

theorem plain?_of_target (htarget : bus.target? address = some (slot, mount, offset)) :
    bus.plain? address = mount.device.plain? bus.board offset := by
  rw [plain?, htarget, Option.bind_some]

theorem plain?_eq_some_iff :
    bus.plain? address = some word ↔
      ∃ slot mount offset, bus.target? address = some (slot, mount, offset) ∧
        mount.device.plain? bus.board offset = some word := by
  constructor
  · intro h
    obtain ⟨⟨slot, mount, offset⟩, htarget, hword⟩ := Option.bind_eq_some_iff.mp h
    exact ⟨slot, mount, offset, htarget, hword⟩
  · rintro ⟨slot, mount, offset, htarget, hword⟩
    rw [plain?_of_target htarget, hword]

/-- The plain words are told by the index, the mounts and the outputs. -/
theorem plain?_congr {a b : Bus} (hindex : a.index = b.index) (hmounts : a.mounts = b.mounts)
    (houtputs : a.board.pins.outputs = b.board.pins.outputs) : a.plain? = b.plain? := by
  have htarget : a.target? = b.target? := by
    funext address
    rw [target?, target?, hindex, hmounts]
  have hdevice (device : Device) : device.plain? a.board = device.plain? b.board :=
    Device.plain?_congr fun _ => houtputs
  funext address
  simp only [plain?, htarget, hdevice]

/-! ## what the firmware is told -/

/-- A read that is handed on is told the word. -/
theorem read_of_plain (h : bus.plain? address = some word) (hfault : bus.faultAfter ≠ some 0) :
    (bus.read address).1 = .served word := by
  obtain ⟨slot, mount, offset, htarget, hword⟩ := plain?_eq_some_iff.mp h
  have hresult : (mount.device.read bus.board offset).result = .ok word :=
    (mount.device.plainWords bus.board).result_read hword
  rw [read, access_of_target htarget hfault, hresult]
  rfl

/-- A write that is handed on is accepted. -/
theorem write_of_plain (h : bus.plain? address = some word) (hfault : bus.faultAfter ≠ some 0)
    (value : UInt32) : (bus.write address value).1 = .served () := by
  obtain ⟨slot, mount, offset, htarget, hword⟩ := plain?_eq_some_iff.mp h
  have hresult : (mount.device.write bus.board offset value).result = .ok () :=
    (mount.device.plainWords bus.board).result_write value hword
  rw [write, access_of_target htarget hfault, hresult]
  rfl

/-- So the only writes that are not accepted are those for which a fault was requested. -/
theorem isServed_write_of_plain (h : bus.plain? address = some word) (value : UInt32) :
    (bus.write address value).1.isServed = true ↔ bus.faultAfter ≠ some 0 := by
  constructor
  · intro hserved hfault
    rw [write, access_eq, if_pos hfault, FaultPolicy.isServed_onFault] at hserved
    cases hserved
  · intro hfault
    rw [write_of_plain h hfault]
    rfl

/-! ## what becomes of the words -/

/-- Registers of different addresses are different: the bases of the mounts are multiples of
four, and the pins are mounted once at most. -/
structure Apart (bus : Bus) : Prop where
  aligned : ∀ mount ∈ bus.mounts, 4 ∣ mount.range.base.toNat
  pins : ∀ {i j : Nat} {a b : Mount}, bus.mounts[i]? = some a → bus.mounts[j]? = some b →
    a.device = .pins → b.device = .pins → i = j

/-- The offset of an address in a mount is a multiple of four. -/
theorem Apart.dvd_offset (h : bus.Apart)
    (htarget : bus.target? address = some (slot, mount, offset)) : 4 ∣ offset.toNat := by
  have hmount := (target?_eq_some_iff.mp htarget).2.2.1
  exact (dvd_offset_iff htarget).mpr (h.aligned mount (List.mem_of_getElem? hmount))

/-- Different addresses in a mount have different offsets. -/
theorem offset_ne_of_ne {other place : UInt32}
    (htarget : bus.target? address = some (slot, mount, offset))
    (hother : bus.target? other = some (slot, mount, place)) (hne : other ≠ address) :
    offset ≠ place := by
  obtain ⟨-, -, -, rfl⟩ := target?_eq_some_iff.mp htarget
  obtain ⟨-, -, -, rfl⟩ := target?_eq_some_iff.mp hother
  intro heq
  have hback := congrArg (fun offset => offset + mount.range.base) heq
  simp only [UInt32.sub_add_cancel] at hback
  exact hne hback.symm

/-- **Step**: a request that is handed on changes the word at its own address only. -/
theorem Apart.plain?_hand (h : bus.Apart) (hword : bus.plain? address = some word)
    (request : Request) :
    (bus.hand request).2.plain? address =
      some (if request.address = address then request.left word else word) := by
  obtain ⟨slot, mount, offset, htarget, hplain⟩ := plain?_eq_some_iff.mp hword
  cases hreached : bus.target? request.address with
  | none =>
      have hne : request.address ≠ address := by
        intro heq
        rw [heq, htarget] at hreached
        cases hreached
      rw [hand_of_no_target hreached, if_neg hne]
      exact hword
  | some reached =>
      obtain ⟨other, rival, place⟩ := reached
      have hmount := (target?_eq_some_iff.mp htarget).2.2.1
      have hrival := (target?_eq_some_iff.mp hreached).2.2.1
      rw [hand_of_target hreached]
      by_cases hslot : other = slot
      · -- In the same device the offsets are apart as the addresses are.
        subst hslot
        obtain rfl := Option.some.inj (hmount.symm.trans hrival)
        rw [plain?_of_target (target?_update_self htarget _ _)]
        by_cases haddress : request.address = address
        · rw [haddress, htarget] at hreached
          obtain rfl : offset = place := by simpa using hreached
          rw [if_pos haddress]
          exact request.plain?_use hplain
        · have hne := offset_ne_of_ne htarget hreached haddress
          rw [if_neg haddress, ← hplain]
          exact request.plain?_use_of_ne (h.dvd_offset hreached) (h.dvd_offset htarget) hne
      · -- Another device can reach the word only over the board, if it is the pins' word.
        have hne : request.address ≠ address := by
          intro heq
          rw [heq, htarget] at hreached
          simp only [Option.some.injEq, Prod.mk.injEq] at hreached
          exact hslot hreached.1.symm
        have hpins : mount.device = .pins →
            (request.use rival.device bus.board place).state.2.pins.outputs =
              bus.board.pins.outputs := by
          intro hdevice
          have hother : rival.device ≠ .pins := fun heq => hslot (h.pins hrival hmount heq hdevice)
          rw [request.pins_use hother]
        rw [if_neg hne, plain?_of_target (target?_update htarget hslot _ _), board_update,
          Device.plain?_congr hpins, hplain]

/-- **Step**: so does one that is served as it comes; one for which a fault was requested
changes no word. -/
theorem Apart.plain?_serve (h : bus.Apart) (hword : bus.plain? address = some word)
    (request : Request) :
    (bus.serve request).2.plain? address =
      some (if request.address = address ∧ bus.faultAfter ≠ some 0 then request.left word
        else word) := by
  by_cases hfault : bus.faultAfter = some 0
  · have hne : ¬ (request.address = address ∧ bus.faultAfter ≠ some 0) := fun hboth =>
      hboth.2 hfault
    rw [serve_eq_serveBy, serveBy, access_eq, if_pos hfault, if_neg hne]
    exact hword
  · have hhand := h.plain?_hand hword request
    rw [serve_eq_serveBy, serveBy, access_of_ne hfault, Request.address_access]
    simp only [hfault, ne_eq, not_false_eq_true, and_true]
    exact hhand

end Bus

end BoardSim
