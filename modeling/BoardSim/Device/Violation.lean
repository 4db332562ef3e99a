import BoardSim.Failure
import BoardSim.Flash.Chip
import BoardSim.Text.Hex

/-!
# BoardSim.Device.Violation

The accesses that a device turns down, each with its cause, and the reply to an
access.
-/

namespace BoardSim

/-! ## Names that causes refer to -/

/-- The stage of a session of the crypto block. -/
inductive CryptoBlock.Phase where
  /-- No session was started since the length was set. -/
  | idle
  /-- The message is awaited. -/
  | acceptHashData
  /-- The operands of the signature check are awaited. -/
  | acceptVerifyData
  /-- The session is complete. -/
  | done
deriving DecidableEq

/-- The stage's name in messages. -/
def CryptoBlock.Phase.label : CryptoBlock.Phase → String
  | .idle => "Idle"
  | .acceptHashData => "AcceptHashData"
  | .acceptVerifyData => "AcceptVerifyData"
  | .done => "Done"

/-- The stage's name in recorded states. -/
def CryptoBlock.Phase.name : CryptoBlock.Phase → String
  | .idle => "idle"
  | .acceptHashData => "accept_hash_data"
  | .acceptVerifyData => "accept_verify_data"
  | .done => "done"

/-- The devices that decode a fixed set of registers. -/
inductive RegisterBlock where
  | pins
  | timers
  | reconfig
  | cryptoBlock
  | serialMemory
  | flashController
deriving DecidableEq

/-- What one of the block's registers is called. -/
def RegisterBlock.registerName : RegisterBlock → String
  | .pins => "GPIO register"
  | .timers => "timer"
  | .reconfig => "dual config register"
  | .cryptoBlock => "crypto register"
  | .serialMemory => "NVRAM register"
  | .flashController => "SPI controller register"

/-- The registers of the reconfiguration block that take commands. -/
inductive Reconfig.Command where
  | control
  | selection
deriving DecidableEq

/-- The register's name. -/
def Reconfig.Command.name : Reconfig.Command → String
  | .control => "CONTROL"
  | .selection => "CONFIG_SEL"

/-! ## Violations -/

/-- An access that is illegal in the state that the device is in. -/
inductive Violation where
  | noRegister (block : RegisterBlock) (offset : UInt32)
  | outsideWordBank (offset span : UInt32)
  | outsidePageMap (offset : UInt32) (bytes : Nat)
  | commandWhileBusy (command : Reconfig.Command)
  | bothStartBits
  | sessionStarted (phase : CryptoBlock.Phase)
  | lengthWritten (phase : CryptoBlock.Phase)
  | lengthRead (phase : CryptoBlock.Phase)
  | dataWritten (phase : CryptoBlock.Phase)
  | dataWriteOnly
  | digestReadOnly
  | transferWriteOnly
  | receiveReadOnly
  | receiveEmpty
  | eraseOutside (length : Nat) (address : UInt32) (chip : Flash.Chip)
  | windowReadBeyond (offset : UInt32) (chip : Flash.Chip)
  | windowWriteBeyond (offset : UInt32) (chip : Flash.Chip)
deriving DecidableEq

/-- The wording of a violation. -/
def Violation.message : Violation → String
  | .noRegister block offset =>
    "no " ++ block.registerName ++ " at offset " ++ Text.hex offset.toNat
  | .outsideWordBank offset span =>
    "register offset " ++ Text.hex offset.toNat ++ " outside " ++ Text.hex span.toNat ++
      " byte register file"
  | .outsidePageMap offset bytes =>
    "offset " ++ Text.hex offset.toNat ++ " outside " ++ Text.hex bytes ++
      " byte write-enable map"
  | .commandWhileBusy command => "dual config " ++ command.name ++ " written while busy"
  | .bothStartBits => "crypto CSR write sets both hash and verify start bits"
  | .sessionStarted phase => "crypto session started while in " ++ phase.label
  | .lengthWritten phase => "crypto LENGTH written while in " ++ phase.label
  | .lengthRead phase => "crypto LENGTH read while in " ++ phase.label
  | .dataWritten phase => "crypto DATA written while in " ++ phase.label
  | .dataWriteOnly => "crypto DATA register is write-only"
  | .digestReadOnly => "crypto SHA registers are read-only"
  | .transferWriteOnly => "NVRAM TFR_CMD is write-only"
  | .receiveReadOnly => "NVRAM RX_DATA is read-only"
  | .receiveEmpty => "NVRAM RX_DATA read with empty FIFO"
  | .eraseOutside length address chip =>
    Text.hex length ++ " byte erase at " ++ Text.hex address.toNat ++ " is outside the " ++
      chip.label ++ " flash"
  | .windowReadBeyond offset chip =>
    "flash window read at " ++ Text.hex offset.toNat ++ " beyond the " ++ chip.label ++ " image"
  | .windowWriteBeyond offset chip =>
    "flash window write at " ++ Text.hex offset.toNat ++ " beyond the " ++ chip.label ++ " image"

/-! ## Replies -/

/-- What an access to a device leaves behind: the result, and the state after it. The
state is there also if the access was turned down; that it is the state before the
access is a property of each device, not of this type. -/
structure Reply (σ α : Type) where
  result : Except (Failure Violation) α
  state : σ

namespace Reply

variable {σ α : Type}

/-- The access is carried out, with this result. -/
def answer (state : σ) (value : α) : Reply σ α := ⟨.ok value, state⟩

/-- The access is carried out and has no result. -/
def accept (state : σ) : Reply σ Unit := ⟨.ok (), state⟩

/-- The access is turned down. -/
def decline (state : σ) (cause : Violation) : Reply σ α := ⟨refuse cause, state⟩

/-- The access breaks off. -/
def crash (state : σ) (defect : Defect) : Reply σ α := ⟨breakOff defect, state⟩

/-- The same reply, with the state read as part of a larger one. -/
def mapState {τ : Type} (f : σ → τ) (reply : Reply σ α) : Reply τ α :=
  ⟨reply.result, f reply.state⟩

end Reply

end BoardSim
