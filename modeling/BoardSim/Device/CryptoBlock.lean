import BoardSim.Bits
import BoardSim.Crypto.P256
import BoardSim.Crypto.Sha256
import BoardSim.Device.Violation
import BoardSim.Snapshot

/-!
# BoardSim.Device.CryptoBlock

The crypto block: it hashes a message with SHA-256 and, if asked to, verifies an
ECDSA signature of the digest over P-256.

A session starts with a bit in the control register. The message of the announced
length is fed word by word, its last word cut to the length. A verifying session
then takes nine operands of 32 bytes, eight words each: the public key's two
coordinates, the signature's two scalars, and the five parameters of the curve.
A finished session takes a set number of status reads to show.
-/

namespace BoardSim

/-- What a session does. -/
inductive CryptoBlock.Mode where
  | hash
  | hashAndVerify
deriving DecidableEq

/-- The mode's name in recorded states. -/
def CryptoBlock.Mode.name : CryptoBlock.Mode → String
  | .hash => "hash"
  | .hashAndVerify => "hash_and_verify"

/-- The state of the block. -/
structure CryptoBlock where
  phase : CryptoBlock.Phase := .idle
  mode : CryptoBlock.Mode := .hash
  /-- The announced length of the message in bytes. -/
  length : UInt32 := 0
  /-- The bytes of the message so far. -/
  input : List UInt8 := []
  /-- The operands that are complete. -/
  operands : List (List UInt8) := []
  /-- The bytes of the next operand so far. -/
  operandBytes : List UInt8 := []
  digest : List UInt8 := List.replicate 32 0
  signatureGood : Bool := false
  /-- Which status read after the end of a session is the first to show it. -/
  latency : Nat
  /-- How many status reads are left until then. -/
  readsUntilDone : Nat := 0
  sessionsCompleted : Nat := 0
deriving DecidableEq

namespace CryptoBlock

/-- The bits of the control and status register. -/
def startVerifyBit : Nat := 0

@[inherit_doc startVerifyBit]
def startHashBit : Nat := 1

/-- The status word that says a session is done. -/
def doneStatus : UInt32 := 0x100

/-- The bit added to it if the signature was found good. -/
def signatureGoodStatus : UInt32 := 0x200

/-- How many bytes an operand has. -/
def operandWidth : Nat := 32

/-- How many operands a verifying session takes. -/
def operandCount : Nat := 9

/-- How many of the operands precede the parameters of the curve. -/
def parameterStart : Nat := 4

/-- How many status reads the end of a session takes to show where nothing else is
stated. -/
def standardLatency : Nat := 10

/-- The block at power-up. The end of a session shows at the first status read at
the earliest. -/
def fresh (reads : Nat) : CryptoBlock where
  latency := max reads 1

/-- May a session be set up? -/
def canSetUp (block : CryptoBlock) : Bool := block.phase = .idle || block.phase = .done

/-! ## Sessions -/

/-- The `i`-th operand as a number, highest byte first. -/
def operand (block : CryptoBlock) (i : Nat) : Nat := Bytes.toNat (block.operands.getD i [])

/-- Do the operands hold the parameters of the curve and a good signature of the
digest? -/
def checkSignature (block : CryptoBlock) (digest : List UInt8) : Bool :=
  block.operands.drop parameterStart = Crypto.P256.parameters &&
    Crypto.P256.verify (block.operand 0) (block.operand 1) (block.operand 2) (block.operand 3)
      digest

/-- End the session. -/
def finish (block : CryptoBlock) : CryptoBlock :=
  let digest := Crypto.Sha256.digest block.input
  { block with
    digest
    signatureGood :=
      if block.mode = .hashAndVerify then block.checkSignature digest else block.signatureGood
    phase := .done
    readsUntilDone := block.latency
    sessionsCompleted := block.sessionsCompleted + 1 }

/-- Go on after the last byte of the message. -/
def finishMessage (block : CryptoBlock) : CryptoBlock :=
  match block.mode with
  | .hash => block.finish
  | .hashAndVerify => { block with phase := .acceptVerifyData }

/-- The block with nothing left of earlier sessions, awaiting a message. -/
def restart (block : CryptoBlock) (mode : Mode) : CryptoBlock :=
  { block with
    mode
    input := []
    operandBytes := []
    operands := []
    digest := List.replicate 32 0
    signatureGood := false
    phase := .acceptHashData }

/-- Start a session; one with an empty message goes on at once. -/
def startSession (block : CryptoBlock) (mode : Mode) : Reply CryptoBlock Unit :=
  if block.canSetUp then
    let begun := block.restart mode
    .accept (if block.length = 0 then begun.finishMessage else begun)
  else .decline block (.sessionStarted block.phase)

/-! ## Writing -/

/-- Write the control register. A word without a start bit does nothing. -/
def writeControl (block : CryptoBlock) (value : UInt32) : Reply CryptoBlock Unit :=
  match hasBit value startHashBit, hasBit value startVerifyBit with
  | false, false => .accept block
  | true, true => .decline block .bothStartBits
  | true, false => block.startSession .hash
  | false, true => block.startSession .hashAndVerify

/-- Announce the length of the next message. -/
def announceLength (block : CryptoBlock) (value : UInt32) : Reply CryptoBlock Unit :=
  if block.canSetUp then
    .accept { block with length := value, input := [], phase := .idle }
  else .decline block (.lengthWritten block.phase)

/-- Take in one more word of the message. -/
def takeMessage (block : CryptoBlock) (value : UInt32) : Reply CryptoBlock Unit :=
  if block.length.toNat < block.input.length then .crash block .inputPastLength
  else
    let left := block.length.toNat - block.input.length
    let fed := { block with input := block.input ++ (Bytes.ofWord value).take left }
    .accept (if fed.input.length = block.length.toNat then fed.finishMessage else fed)

/-- Take in one more word of an operand. -/
def takeOperand (block : CryptoBlock) (value : UInt32) : Reply CryptoBlock Unit :=
  let bytes := block.operandBytes ++ Bytes.ofWord value
  if bytes.length ≠ operandWidth then .accept { block with operandBytes := bytes }
  else if operandCount ≤ block.operands.length then .crash block .operandPastSlots
  else
    let fed := { block with operands := block.operands ++ [bytes], operandBytes := [] }
    .accept (if fed.operands.length = operandCount then fed.finish else fed)

/-- Write the data port. -/
def takeWord (block : CryptoBlock) (value : UInt32) : Reply CryptoBlock Unit :=
  match block.phase with
  | .acceptHashData => block.takeMessage value
  | .acceptVerifyData => block.takeOperand value
  | phase => .decline block (.dataWritten phase)

/-! ## Reading -/

/-- Read the status register, which counts down to showing the end of a session. -/
def readStatus (block : CryptoBlock) : Reply CryptoBlock UInt32 :=
  if block.phase ≠ .done then .answer block 0
  else if 1 < block.readsUntilDone then
    .answer { block with readsUntilDone := block.readsUntilDone - 1 } 0
  else
    .answer { block with readsUntilDone := 0 }
      (if block.signatureGood then doneStatus ||| signatureGoodStatus else doneStatus)

/-- The `i`-th digest register of a finished session. The registers hold the digest's
words from the last to the first, each with its lowest byte first. -/
def digestWord (block : CryptoBlock) (i : Nat) : UInt32 :=
  if block.phase ≠ .done then 0
  else Bytes.toWord ((block.digest.drop (4 * (7 - i))).take 4)

/-! ## The registers -/

/-- The registers of the block. -/
inductive Register where
  /-- Control when written, status when read. -/
  | control
  | data
  | length
  | digest (index : Nat)

/-- The register at an offset. -/
def Register.ofOffset? (offset : UInt32) : Option Register :=
  if offset = 0x00 then some .control
  else if offset = 0x04 then some .data
  else if offset = 0x08 then some .length
  else if 0x10 ≤ offset ∧ offset < 0x30 then some (.digest ((offset.toNat - 0x10) / 4))
  else none

/-- Read a register. -/
def read (block : CryptoBlock) (offset : UInt32) : Reply CryptoBlock UInt32 :=
  match Register.ofOffset? offset with
  | some .control => block.readStatus
  | some .data => .decline block .dataWriteOnly
  | some .length =>
    if block.canSetUp then .answer block block.length
    else .decline block (.lengthRead block.phase)
  | some (.digest i) => .answer block (block.digestWord i)
  | none => .decline block (.noRegister .cryptoBlock offset)

/-- Write a register. -/
def write (block : CryptoBlock) (offset value : UInt32) : Reply CryptoBlock Unit :=
  match Register.ofOffset? offset with
  | some .control => block.writeControl value
  | some .data => block.takeWord value
  | some .length => block.announceLength value
  | some (.digest _) => .decline block .digestReadOnly
  | none => .decline block (.noRegister .cryptoBlock offset)

/-- The block at power-up, with the same latency. -/
def reset (block : CryptoBlock) : CryptoBlock := fresh block.latency

/-- The state without the bytes that are being fed. -/
def snapshot (block : CryptoBlock) : Snapshot :=
  .record
    [("state", .text block.phase.name),
     ("mode", .text block.mode.name),
     ("length", .word block.length),
     ("operands_received", .number block.operands.length),
     ("digest", .bytes block.digest),
     ("signature_good", .flag block.signatureGood),
     ("done_latency_reads", .number block.latency),
     ("reads_until_done", .number block.readsUntilDone),
     ("sessions_completed", .number block.sessionsCompleted)]

end CryptoBlock

end BoardSim
