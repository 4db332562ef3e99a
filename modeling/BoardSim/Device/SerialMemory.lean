import BoardSim.Bits
import BoardSim.Device.Violation
import BoardSim.Snapshot

/-!
# BoardSim.Device.SerialMemory

A serial memory of 1024 bytes behind a two-wire master.

The firmware writes command words: a byte with the bits START and STOP. A transfer
opens with START and the device's address for writing or for reading. A write
transfer sends the high and the low part of a memory address and then data; a read
transfer takes any word as a request for the next byte, which waits in a queue until
the firmware fetches it. The address wraps at the end of the memory. Commands pass
through a queue that is worked off at once, so no access finds one waiting.
-/

namespace BoardSim

/-- How far a transfer has come. -/
inductive SerialMemory.Stage where
  | idle
  | addressHigh
  | addressLow
  | writeData
  | readData
deriving DecidableEq

/-- The stage's name in recorded states. -/
def SerialMemory.Stage.name : SerialMemory.Stage → String
  | .idle => "idle"
  | .addressHigh => "address_high"
  | .addressLow => "address_low"
  | .writeData => "write_data"
  | .readData => "read_data"

/-- The settings of the master, which have no effect here. -/
structure SerialMemory.Settings where
  ctrl : UInt32 := 0
  iser : UInt32 := 0
  isr : UInt32 := 0
  sclLow : UInt32 := 0
  sclHigh : UInt32 := 0
  sdaHold : UInt32 := 0
deriving DecidableEq

/-- The state of the memory and its master. -/
structure SerialMemory where
  stage : SerialMemory.Stage := .idle
  /-- The address of the next byte. -/
  address : Nat := 0
  /-- Command words that are not yet carried out, oldest first. -/
  commands : List UInt32 := []
  /-- Bytes that were read and not yet fetched, oldest first. -/
  received : List UInt8 := []
  store : List UInt8
  settings : SerialMemory.Settings := {}
  commandsProcessed : Nat := 0
deriving DecidableEq

namespace SerialMemory

/-- How many bytes the memory has. -/
def storeSize : Nat := 1024

/-- The device's address for writing. -/
def writeAddress : Nat := 0xDC

/-- The device's address for reading. -/
def readAddress : Nat := 0xDD

/-- The bits of a command word above its byte. -/
def stopBit : Nat := 8

@[inherit_doc stopBit]
def startBit : Nat := 9

/-- The command word with these flags and this byte. -/
def commandWord (flags : UInt32) (byte : UInt8) : UInt32 := flags ||| byte.toUInt32

/-- The memory at power-up. -/
def fresh : SerialMemory := { store := List.replicate storeSize 0 }

/-- Put bytes into the store from an address on, around its end. -/
def preload (memory : SerialMemory) (address : Nat) : List UInt8 → SerialMemory
  | [] => memory
  | byte :: rest =>
    preload { memory with store := memory.store.set (address % storeSize) byte }
      (address % storeSize + 1) rest

/-! ## Transfers -/

/-- Move to the next byte of the store. -/
def toNext (memory : SerialMemory) : SerialMemory :=
  { memory with address := (memory.address + 1) % storeSize }

/-- The stage that START with this byte opens. -/
def opened? (byte : Nat) : Option Stage :=
  if byte = writeAddress then some .addressHigh
  else if byte = readAddress then some .readData
  else none

/-- The effect of a command's byte, before STOP is looked at. -/
def transfer (memory : SerialMemory) (start : Bool) (byte : UInt8) :
    Except (Failure Violation) SerialMemory :=
  let opening := if start then opened? byte.toNat else none
  match memory.stage, opening with
  | .idle, some stage => .ok { memory with stage }
  | .idle, none => .ok memory
  | .addressHigh, _ =>
    .ok { memory with address := (byte.toNat % 4) * 256, stage := .addressLow }
  | .addressLow, _ =>
    .ok { memory with address := memory.address ||| byte.toNat, stage := .writeData }
  | .writeData, some stage => .ok { memory with stage }
  | .readData, some stage => .ok { memory with stage }
  | .writeData, none =>
    if memory.address < memory.store.length then
      .ok { memory with store := memory.store.set memory.address byte }.toNext
    else breakOff .addressPastStore
  | .readData, none =>
    match memory.store[memory.address]? with
    | some stored => .ok { memory with received := memory.received ++ [stored] }.toNext
    | none => breakOff .addressPastStore

/-- Carry out a command word; STOP ends the transfer. -/
def run (memory : SerialMemory) (word : UInt32) : Except (Failure Violation) SerialMemory := do
  let after ← memory.transfer (hasBit word startBit) word.toUInt8
  .ok
    { after with
      stage := if hasBit word stopBit then .idle else after.stage
      commandsProcessed := after.commandsProcessed + 1 }

/-- Carry out queued command words, oldest first. -/
def runAll (memory : SerialMemory) : (commands : List UInt32) → Reply SerialMemory Unit
  | [] => .accept { memory with commands := [] }
  | word :: rest =>
    match memory.run word with
    | .error failure => ⟨.error failure, { memory with commands := rest }⟩
    | .ok after => after.runAll rest

/-- Queue a command word and work the queue off. -/
def enqueue (memory : SerialMemory) (word : UInt32) : Reply SerialMemory Unit :=
  memory.runAll (memory.commands ++ [word])

/-! ## The registers -/

/-- The settings of the master, by register. -/
inductive Setting where
  | ctrl
  | iser
  | isr
  | sclLow
  | sclHigh
  | sdaHold

/-- The value of a setting. -/
def Settings.get (settings : Settings) : Setting → UInt32
  | .ctrl => settings.ctrl
  | .iser => settings.iser
  | .isr => settings.isr
  | .sclLow => settings.sclLow
  | .sclHigh => settings.sclHigh
  | .sdaHold => settings.sdaHold

/-- The settings with one replaced. -/
def Settings.set (settings : Settings) (value : UInt32) : Setting → Settings
  | .ctrl => { settings with ctrl := value }
  | .iser => { settings with iser := value }
  | .isr => { settings with isr := value }
  | .sclLow => { settings with sclLow := value }
  | .sclHigh => { settings with sclHigh := value }
  | .sdaHold => { settings with sdaHold := value }

/-- The registers of the master. -/
inductive Register where
  | transfer
  | receive
  | setting (which : Setting)
  /-- The status: never busy. -/
  | status
  /-- The number of commands that wait: none. -/
  | transferLevel
  /-- The number of bytes that wait to be fetched. -/
  | receiveLevel

/-- The register at an offset. -/
def Register.ofOffset? (offset : UInt32) : Option Register :=
  if offset = 0x00 then some .transfer
  else if offset = 0x04 then some .receive
  else if offset = 0x08 then some (.setting .ctrl)
  else if offset = 0x0C then some (.setting .iser)
  else if offset = 0x10 then some (.setting .isr)
  else if offset = 0x14 then some .status
  else if offset = 0x18 then some .transferLevel
  else if offset = 0x1C then some .receiveLevel
  else if offset = 0x20 then some (.setting .sclLow)
  else if offset = 0x24 then some (.setting .sclHigh)
  else if offset = 0x28 then some (.setting .sdaHold)
  else none

/-- Read a register. A read of the receive register fetches a byte. -/
def read (memory : SerialMemory) (offset : UInt32) : Reply SerialMemory UInt32 :=
  match Register.ofOffset? offset with
  | some .transfer => .decline memory .transferWriteOnly
  | some .receive =>
    match memory.received with
    | [] => .decline memory .receiveEmpty
    | byte :: rest => .answer { memory with received := rest } byte.toUInt32
  | some (.setting which) => .answer memory (memory.settings.get which)
  | some .status | some .transferLevel => .answer memory 0
  | some .receiveLevel => .answer memory (UInt32.ofNat memory.received.length)
  | none => .decline memory (.noRegister .serialMemory offset)

/-- Write a register. The status and the levels can be read only; writes to them are
ignored. -/
def write (memory : SerialMemory) (offset value : UInt32) : Reply SerialMemory Unit :=
  match Register.ofOffset? offset with
  | some .transfer => memory.enqueue value
  | some .receive => .decline memory .receiveReadOnly
  | some (.setting which) => .accept { memory with settings := memory.settings.set value which }
  | some .status | some .transferLevel | some .receiveLevel => .accept memory
  | none => .decline memory (.noRegister .serialMemory offset)

/-- The state without the store. -/
def snapshot (memory : SerialMemory) : Snapshot :=
  .record
    [("state", .text memory.stage.name),
     ("address", .number memory.address),
     ("rx", .bytes memory.received),
     ("regs", .record
       [("ctrl", .word memory.settings.ctrl),
        ("iser", .word memory.settings.iser),
        ("isr", .word memory.settings.isr),
        ("scl_low", .word memory.settings.sclLow),
        ("scl_high", .word memory.settings.sclHigh),
        ("sda_hold", .word memory.settings.sdaHold)]),
     ("commands_processed", .number memory.commandsProcessed)]

end SerialMemory

end BoardSim
