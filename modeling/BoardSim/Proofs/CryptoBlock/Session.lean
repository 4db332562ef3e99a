import BoardSim.Device.CryptoBlock
import BoardSim.Proofs.Bytes
import BoardSim.Proofs.Device.Run

/-!
# BoardSim.Proofs.CryptoBlock.Session

What the firmware has asked of the crypto block, told from the accesses that
were carried out and from nothing that the block stores.

1. a *session* is opened by a start bit; it has the mode of that bit, the
   length that was announced last, and the data words accepted since;
2. its first words are the message, the last of them cut to the length; each
   eight words after these are an operand;
3. a session is complete with the last word of the message, or of the ninth
   operand if it verifies.

`SessionLog.note` keeps this record.  Nothing in it refers to earlier sessions,
which is what makes it the yardstick for what may not leak from them.
-/

namespace BoardSim.CryptoBlock

instance : RegisterDevice CryptoBlock where
  readAt := read
  writeAt := write
  powerUp := reset

/-! ## sessions -/

/-- A session, as the firmware sees it. -/
structure Session where
  mode : Mode
  /-- The length that was in force when the session was opened. -/
  length : UInt32
  /-- The data words accepted since. -/
  words : List UInt32 := []
deriving DecidableEq

namespace Session

/-- How many words an operand takes. -/
def wordsPerOperand : Nat := 8

/-- How many words the message takes; the last one may be used in part. -/
def messageWords (session : Session) : Nat := (session.length.toNat + 3) / 4

/-- How many words follow the message. -/
def operandWords (session : Session) : Nat :=
  match session.mode with
  | .hash => 0
  | .hashAndVerify => operandCount * wordsPerOperand

/-- How many words make the session complete. -/
def wordCount (session : Session) : Nat := session.messageWords + session.operandWords

/-- Has the last word of the session arrived? -/
def isComplete (session : Session) : Bool := session.words.length = session.wordCount

/-- The message: the bytes of its words, cut to the announced length. -/
def message (session : Session) : List UInt8 :=
  (Bytes.expand (session.words.take session.messageWords)).take session.length.toNat

/-- The `i`-th operand: the bytes of its eight words. -/
def operand (session : Session) (i : Nat) : List UInt8 :=
  Bytes.expand
    ((session.words.drop (session.messageWords + wordsPerOperand * i)).take wordsPerOperand)

/-- The operands that describe the curve. -/
def curve (session : Session) : List (List UInt8) :=
  (List.range' parameterStart (operandCount - parameterStart)).map session.operand

/-- Do the operands hold the parameters of the curve, and a signature of the
message under a public key? -/
def HoldsSignature (session : Session) : Prop :=
  session.mode = .hashAndVerify ∧ session.curve = Crypto.P256.parameters ∧
    Crypto.P256.verify (Bytes.toNat (session.operand 0)) (Bytes.toNat (session.operand 1))
      (Bytes.toNat (session.operand 2)) (Bytes.toNat (session.operand 3))
      (Crypto.Sha256.digest session.message) = true

instance (session : Session) : Decidable session.HoldsSignature :=
  inferInstanceAs (Decidable (_ ∧ _ ∧ _))

/-- The session with one more word. -/
def feed (session : Session) (word : UInt32) : Session :=
  { session with words := session.words ++ [word] }

end Session

/-! ## the record of a run -/

/-- The mode of a session that a word written to the control register asks
for, if it has exactly one start bit. -/
def requestedMode? (value : UInt32) : Option Mode :=
  match hasBit value 1, hasBit value 0 with
  | true, false => some .hash
  | false, true => some .hashAndVerify
  | _, _ => none

/-- What the accepted accesses since power-up or reset amount to. -/
structure SessionLog where
  /-- The length that was announced last. -/
  length : UInt32 := 0
  /-- The session that was opened last, unless a length was announced since. -/
  session : Option Session := none
  /-- How many status reads there were since the session was opened or its last
  word arrived; since its completion, if it is complete. -/
  statusReads : Nat := 0

namespace SessionLog

/-- The record after one more accepted access. -/
def note (log : SessionLog) : DeviceAccess → SessionLog
  | .reset => {}
  | .read offset =>
      if offset = 0x00 then { log with statusReads := log.statusReads + 1 } else log
  | .write offset value =>
      if offset = 0x00 then
        match requestedMode? value with
        | some mode => { log with session := some { mode, length := log.length }, statusReads := 0 }
        | none => log
      else if offset = 0x04 then
        { log with session := log.session.map fun session => session.feed value, statusReads := 0 }
      else if offset = 0x08 then { length := value }
      else log

/-- The record of a run from power-up. -/
def ofRun (reads : Nat) (accesses : List DeviceAccess) : SessionLog :=
  (RegisterDevice.accepted (fresh reads) accesses).foldl note {}

end SessionLog

/-! ## how words make up a session -/

namespace Session

variable (session : Session) (word : UInt32)

@[simp] theorem mode_feed : (session.feed word).mode = session.mode := rfl

@[simp] theorem length_feed : (session.feed word).length = session.length := rfl

@[simp] theorem words_feed : (session.feed word).words = session.words ++ [word] := rfl

@[simp] theorem messageWords_feed : (session.feed word).messageWords = session.messageWords := rfl

@[simp] theorem wordCount_feed : (session.feed word).wordCount = session.wordCount := rfl

theorem length_words_feed : (session.feed word).words.length = session.words.length + 1 :=
  List.length_append

theorem wordCount_hash (h : session.mode = .hash) :
    session.wordCount = session.messageWords := by
  rw [wordCount, operandWords, h, Nat.add_zero]

theorem wordCount_verify (h : session.mode = .hashAndVerify) :
    session.wordCount = session.messageWords + wordsPerOperand * operandCount := by
  rw [wordCount, operandWords, h, Nat.mul_comm]

/-- The word that is fed adds its bytes, whichever words before it are left out. -/
theorem expand_drop_feed {start : Nat} (h : start ≤ session.words.length) :
    Bytes.expand ((session.feed word).words.drop start) =
      Bytes.expand (session.words.drop start) ++ Bytes.ofWord word := by
  rw [words_feed, List.drop_append_of_le_length h, Bytes.expand_append, Bytes.expand_cons,
    Bytes.expand_nil, List.append_nil]

/-- While the message is short of its length, a word adds the bytes that still fit. -/
theorem take_expand_feed (h : 4 * session.words.length ≤ session.length.toNat) :
    (Bytes.expand (session.feed word).words).take session.length.toNat =
      Bytes.expand session.words ++
        (Bytes.ofWord word).take (session.length.toNat - 4 * session.words.length) := by
  have hfed := session.expand_drop_feed word (Nat.zero_le session.words.length)
  have hlength : (Bytes.expand session.words).length = 4 * session.words.length :=
    Bytes.length_expand session.words
  rw [List.drop_zero, List.drop_zero] at hfed
  rw [hfed, List.take_append, List.take_of_length_le (by omega), hlength]

/-- Words after the message do not change it. -/
theorem message_feed (h : session.messageWords ≤ session.words.length) :
    (session.feed word).message = session.message := by
  rw [message, message, messageWords_feed, words_feed, List.take_append_of_le_length h,
    length_feed]

/-- The message is cut from its words, whatever words follow them. -/
theorem message_eq {words operands : List UInt32} (h : session.words = words ++ operands)
    (hwords : words.length = session.messageWords) :
    session.message = (Bytes.expand words).take session.length.toNat := by
  rw [message, h, ← hwords, List.take_left]

/-- Words after an operand do not change it. -/
theorem operand_feed {i : Nat}
    (h : session.messageWords + wordsPerOperand * (i + 1) ≤ session.words.length) :
    (session.feed word).operand i = session.operand i := by
  have hi : wordsPerOperand * (i + 1) = wordsPerOperand * i + wordsPerOperand := Nat.mul_succ ..
  have hle : wordsPerOperand ≤
      (session.words.drop (session.messageWords + wordsPerOperand * i)).length := by
    rw [List.length_drop]
    omega
  rw [operand, operand, messageWords_feed, words_feed, List.drop_append_of_le_length (by omega),
    List.take_append_of_le_length hle]

/-- The operands that are complete stay as they are when a word is fed. -/
theorem map_operand_feed {count : Nat}
    (h : session.messageWords + wordsPerOperand * count ≤ session.words.length) :
    (List.range count).map (session.feed word).operand =
      (List.range count).map session.operand := by
  apply List.map_congr_left
  intro i hi
  have hi : i + 1 ≤ count := List.mem_range.mp hi
  exact session.operand_feed word
    (Nat.le_trans (Nat.add_le_add_left (Nat.mul_le_mul_left _ hi) _) h)

/-- The operand that is completed by the last word is the words from its start on. -/
theorem operand_of_last {i : Nat}
    (h : session.words.length = session.messageWords + wordsPerOperand * (i + 1)) :
    session.operand i =
      Bytes.expand (session.words.drop (session.messageWords + wordsPerOperand * i)) := by
  have hi : wordsPerOperand * (i + 1) = wordsPerOperand * i + wordsPerOperand := Nat.mul_succ ..
  rw [operand, List.take_of_length_le]
  rw [List.length_drop]
  omega

end Session

end BoardSim.CryptoBlock
