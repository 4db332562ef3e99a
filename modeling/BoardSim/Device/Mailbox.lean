import BoardSim.Bits
import BoardSim.Device.WordBank

/-!
# BoardSim.Device.Mailbox

The mailbox between the firmware and the host: a block of plain words and two byte
queues.

The firmware puts bytes for the host into the outgoing queue and takes bytes of the
host from the incoming one. Either flush bit of the trigger register empties both.
-/

namespace BoardSim

/-- The state of the mailbox. -/
structure Mailbox where
  registers : WordBank
  /-- Bytes for the host, oldest first. -/
  outgoing : List UInt8 := []
  /-- Bytes of the host, oldest first. -/
  incoming : List UInt8 := []
  flushCount : Nat := 0
deriving DecidableEq

namespace Mailbox

/-- How many words the mailbox has. -/
def wordCount : UInt32 := 256

/-- The mailbox at power-up. -/
def fresh : Mailbox := { registers := ⟨wordCount * 4, .empty⟩ }

/-- The offset of the trigger register. -/
def triggerOffset : UInt32 := 0x2C

/-- The bits of the trigger register that empty the queues. -/
def flushMask : UInt32 := 0x6

/-- The host queues a byte for the firmware. -/
def pushIncoming (mailbox : Mailbox) (byte : UInt8) : Mailbox :=
  { mailbox with incoming := mailbox.incoming ++ [byte] }

/-- The host sets a word, whatever its offset. -/
def preload (mailbox : Mailbox) (offset value : UInt32) : Mailbox :=
  { mailbox with registers := mailbox.registers.set offset value }

/-- Empty both queues. -/
def emptyQueues (mailbox : Mailbox) : Mailbox :=
  { mailbox with outgoing := [], incoming := [], flushCount := mailbox.flushCount + 1 }

/-- The registers of the mailbox. -/
inductive Register where
  | trigger
  | outgoing
  | incoming
  | plain

/-- The register at an offset; all but three are plain words. -/
def Register.ofOffset (offset : UInt32) : Register :=
  if offset = triggerOffset then .trigger
  else if offset = 0x34 then .outgoing
  else if offset = 0x38 then .incoming
  else .plain

/-- Read the plain word at an offset. -/
def readPlain (mailbox : Mailbox) (offset : UInt32) : Reply Mailbox UInt32 :=
  (mailbox.registers.read offset).mapState fun bank => { mailbox with registers := bank }

/-- Read a register. A read of the incoming queue takes its oldest byte; an empty
queue reads as zero. -/
def read (mailbox : Mailbox) (offset : UInt32) : Reply Mailbox UInt32 :=
  match Register.ofOffset offset with
  | .outgoing => .answer mailbox 0
  | .incoming =>
    match mailbox.incoming with
    | [] => .answer mailbox 0
    | byte :: rest => .answer { mailbox with incoming := rest } byte.toUInt32
  | .trigger | .plain => mailbox.readPlain offset

/-- Write the trigger register: the flush bits act and are not stored. -/
def writeTrigger (mailbox : Mailbox) (value : UInt32) : Mailbox :=
  let flushed := if value &&& flushMask ≠ 0 then mailbox.emptyQueues else mailbox
  { flushed with registers := flushed.registers.set triggerOffset (value &&& ~~~flushMask) }

/-- Write a register. Writes to the incoming queue are ignored. -/
def write (mailbox : Mailbox) (offset value : UInt32) : Reply Mailbox Unit :=
  match Register.ofOffset offset with
  | .outgoing => .accept { mailbox with outgoing := mailbox.outgoing ++ [value.toUInt8] }
  | .incoming => .accept mailbox
  | .trigger => .accept (mailbox.writeTrigger value)
  | .plain =>
    (mailbox.registers.write offset value).mapState fun bank => { mailbox with registers := bank }

/-- The whole state. -/
def snapshot (mailbox : Mailbox) : Snapshot :=
  .record
    [("regs", mailbox.registers.snapshot),
     ("write_fifo", .bytes mailbox.outgoing),
     ("read_fifo", .bytes mailbox.incoming),
     ("flush_count", .number mailbox.flushCount)]

end Mailbox

end BoardSim
