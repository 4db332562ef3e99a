import BoardSim.Proofs.CryptoBlock.Session
import BoardSim.Proofs.Device.PowerUp

/-!
# BoardSim.Proofs.CryptoBlock.Tracking

The crypto block keeps step with the record of the accesses that it accepted.

`Tracks` says, stage by stage, what each field that matters in the stage holds
in terms of the session on record: the bytes taken in so far while the message
or the operands arrive, and the digest, the verdict and the reads left once the
session is complete.  Fields that a stage does not look at are left open, so
whatever an earlier session put there is allowed to be there.

`follows_perform` is the step: any access, accepted or refused, in any stage.
`follows_run` is the run from power-up.
-/

namespace BoardSim.CryptoBlock

open Bytes (expand expand_nil expand_cons expand_append length_expand)
open Session (wordsPerOperand)

/-! ## the relation -/

/-- The block is where the record says. -/
inductive Tracks (log : SessionLog) (block : CryptoBlock) : Prop where
  /-- No session is open. -/
  | idle (hsession : log.session = none) (hphase : block.phase = .idle)
  /-- Words of the message are missing. -/
  | message (session : Session) (hsession : log.session = some session)
      (hphase : block.phase = .acceptHashData)
      (hshort : session.words.length < session.messageWords)
      (hmode : block.mode = session.mode)
      (hinput : block.input = expand session.words)
      (hoperands : block.operands = []) (hbytes : block.operandBytes = [])
      (hgood : block.signatureGood = false)
  /-- The message is there and words of the operands are missing. -/
  | operands (session : Session) (hsession : log.session = some session)
      (hphase : block.phase = .acceptVerifyData)
      (hverify : session.mode = .hashAndVerify) (hmode : block.mode = .hashAndVerify)
      (hlong : session.messageWords ≤ session.words.length)
      (hshort : session.words.length < session.wordCount)
      (hinput : block.input = session.message)
      (hoperands : block.operands =
        (List.range ((session.words.length - session.messageWords) / wordsPerOperand)).map
          session.operand)
      (hbytes : block.operandBytes =
        expand (session.words.drop (session.messageWords +
          wordsPerOperand * ((session.words.length - session.messageWords) / wordsPerOperand))))
  /-- All words are there. -/
  | complete (session : Session) (hsession : log.session = some session)
      (hphase : block.phase = .done)
      (hcount : session.words.length = session.wordCount)
      (hdigest : block.digest = Crypto.Sha256.digest session.message)
      (hgood : block.signatureGood = decide session.HoldsSignature)
      (hreads : block.readsUntilDone = block.latency - log.statusReads)

/-- The block is where the record says, with the length on record. -/
structure Follows (log : SessionLog) (block : CryptoBlock) : Prop where
  length : block.length = log.length
  session : ∀ session, log.session = some session → session.length = log.length
  tracks : Tracks log block

/-- A block at power-up follows the empty record. -/
theorem follows_fresh (reads : Nat) : Follows {} (fresh reads) where
  length := rfl
  session := fun _ h => by cases h
  tracks := .idle rfl rfl

/-- A session on record is complete exactly if the block is done. -/
theorem done_iff {log : SessionLog} {block : CryptoBlock} (h : Tracks log block) :
    block.phase = .done ↔ ∃ session, log.session = some session ∧ session.isComplete = true := by
  cases h with
  | idle hsession hphase => simp [hsession, hphase]
  | message session hsession hphase hshort =>
      have hmissing : session.words.length ≠ session.wordCount := by
        rw [Session.wordCount]
        omega
      simp [hsession, hphase, Session.isComplete, hmissing]
  | operands session hsession hphase hverify hmode hlong hshort =>
      simp [hsession, hphase, Session.isComplete, Nat.ne_of_lt hshort]
  | complete session hsession hphase hcount =>
      simp [hsession, hphase, Session.isComplete, hcount]

/-! ## the stages -/

/-- While an operand arrives, the ones before it are complete. -/
theorem tracks_operands {log : SessionLog} {block : CryptoBlock} {session : Session} {count : Nat}
    (hsession : log.session = some session) (hphase : block.phase = .acceptVerifyData)
    (hverify : session.mode = .hashAndVerify) (hmode : block.mode = .hashAndVerify)
    (hcount : count < operandCount)
    (hlong : session.messageWords + wordsPerOperand * count ≤ session.words.length)
    (hshort : session.words.length < session.messageWords + wordsPerOperand * (count + 1))
    (hinput : block.input = session.message)
    (hoperands : block.operands = (List.range count).map session.operand)
    (hbytes : block.operandBytes =
      expand (session.words.drop (session.messageWords + wordsPerOperand * count))) :
    Tracks log block := by
  have hdiv : (session.words.length - session.messageWords) / wordsPerOperand = count := by
    rw [wordsPerOperand] at hlong hshort ⊢
    omega
  refine .operands session hsession hphase hverify hmode ?_ ?_ hinput ?_ ?_
  · exact Nat.le_trans (Nat.le_add_right ..) hlong
  · rw [session.wordCount_verify hverify]
    exact Nat.lt_of_lt_of_le hshort (Nat.add_le_add_left (Nat.mul_le_mul_left _ hcount) _)
  · rw [hdiv]
    exact hoperands
  · rw [hdiv]
    exact hbytes

/-- A session that only hashes is complete with its message. -/
theorem tracks_finish_hash {log : SessionLog} {block : CryptoBlock} {session : Session}
    (hsession : log.session = some session) (hreads : log.statusReads = 0)
    (hhash : session.mode = .hash) (hmode : block.mode = .hash)
    (hcount : session.words.length = session.messageWords)
    (hinput : block.input = session.message) (hgood : block.signatureGood = false) :
    Tracks log block.finish := by
  have hunsigned : ¬ session.HoldsSignature := fun h => by
    rw [h.1] at hhash
    cases hhash
  refine .complete session hsession rfl (hcount.trans (session.wordCount_hash hhash).symm) ?_ ?_ ?_
  · exact congrArg Crypto.Sha256.digest hinput
  · simp [finish, hmode, hgood, hunsigned]
  · simp [finish, hreads]

/-- The operands of a complete session, by number. -/
theorem operand_eq {block : CryptoBlock} {session : Session} {count i : Nat}
    (hoperands : block.operands = (List.range count).map session.operand) (hi : i < count) :
    block.operand i = Bytes.toNat (session.operand i) := by
  rw [operand, hoperands]
  simp [hi]

/-- A session that verifies is complete with its ninth operand. -/
theorem tracks_finish_verify {log : SessionLog} {block : CryptoBlock} {session : Session}
    (hsession : log.session = some session) (hreads : log.statusReads = 0)
    (hverify : session.mode = .hashAndVerify) (hmode : block.mode = .hashAndVerify)
    (hcount : session.words.length = session.wordCount)
    (hinput : block.input = session.message)
    (hoperands : block.operands = (List.range operandCount).map session.operand) :
    Tracks log block.finish := by
  have hcurve : block.operands.drop parameterStart = session.curve := by
    rw [hoperands]
    rfl
  have hchecked : block.checkSignature (Crypto.Sha256.digest block.input) =
      decide session.HoldsSignature := by
    rw [checkSignature, hcurve, hinput, operand_eq hoperands (by decide),
      operand_eq hoperands (by decide), operand_eq hoperands (by decide),
      operand_eq hoperands (by decide)]
    simp [Session.HoldsSignature, hverify]
  refine .complete session hsession rfl hcount ?_ ?_ ?_
  · exact congrArg Crypto.Sha256.digest hinput
  · simp [finish, hmode, hchecked]
  · simp [finish, hreads]

/-- With the last word of an operand the session is complete or goes on to the
next operand. -/
theorem tracks_operandsTaken {log : SessionLog} {block : CryptoBlock} {session : Session}
    {count : Nat} (hsession : log.session = some session) (hreads : log.statusReads = 0)
    (hphase : block.phase = .acceptVerifyData)
    (hverify : session.mode = .hashAndVerify) (hmode : block.mode = .hashAndVerify)
    (hcount : count ≤ operandCount)
    (hwords : session.words.length = session.messageWords + wordsPerOperand * count)
    (hinput : block.input = session.message)
    (hoperands : block.operands = (List.range count).map session.operand)
    (hbytes : block.operandBytes = []) :
    Tracks log (if block.operands.length = operandCount then block.finish else block) := by
  have hsize : block.operands.length = count := by
    rw [hoperands, List.length_map, List.length_range]
  rw [hsize]
  split
  · next hall =>
    refine tracks_finish_verify hsession hreads hverify hmode ?_ hinput ?_
    · rw [hwords, hall, session.wordCount_verify hverify]
    · rw [hoperands, hall]
  · next hmore =>
    have hnext : wordsPerOperand * count < wordsPerOperand * (count + 1) :=
      Nat.mul_lt_mul_of_pos_left (Nat.lt_succ_self count) (by decide)
    refine tracks_operands hsession hphase hverify hmode (Nat.lt_of_le_of_ne hcount hmore)
      (Nat.le_of_eq hwords.symm) ?_ hinput hoperands ?_
    · rw [hwords]
      exact Nat.add_lt_add_left hnext _
    · rw [← hwords, List.drop_length]
      exact hbytes

theorem finishMessage_hash {block : CryptoBlock} (hmode : block.mode = .hash) :
    block.finishMessage = block.finish := by
  rw [finishMessage, hmode]

theorem finishMessage_verify {block : CryptoBlock} (hmode : block.mode = .hashAndVerify) :
    block.finishMessage = { block with phase := .acceptVerifyData } := by
  unfold finishMessage
  split
  · next h => exact absurd (hmode.symm.trans h) (by decide)
  · rfl

/-- With the last word of the message the session is complete or goes on to the
operands. -/
theorem tracks_finishMessage {log : SessionLog} {block : CryptoBlock} {session : Session}
    (hsession : log.session = some session) (hreads : log.statusReads = 0)
    (hmode : block.mode = session.mode) (hcount : session.words.length = session.messageWords)
    (hinput : block.input = session.message) (hoperands : block.operands = [])
    (hbytes : block.operandBytes = []) (hgood : block.signatureGood = false) :
    Tracks log block.finishMessage := by
  cases hsmode : session.mode with
  | hash =>
      rw [hsmode] at hmode
      rw [finishMessage_hash hmode]
      exact tracks_finish_hash hsession hreads hsmode hmode hcount hinput hgood
  | hashAndVerify =>
      rw [hsmode] at hmode
      rw [finishMessage_verify hmode]
      refine @tracks_operands log _ session 0 hsession rfl hsmode hmode (by decide)
        (Nat.le_of_eq hcount.symm) ?_ hinput hoperands ?_
      · rw [hcount]
        exact Nat.lt_add_of_pos_right (by decide)
      · rw [Nat.mul_zero, Nat.add_zero, ← hcount, List.drop_length]
        exact hbytes

/-- The words of the message that are there are all of them or leave it short. -/
theorem tracks_messageTaken {log : SessionLog} {block : CryptoBlock} {session : Session}
    (hsession : log.session = some session) (hreads : log.statusReads = 0)
    (hphase : block.phase = .acceptHashData) (hmode : block.mode = session.mode)
    (hwords : session.words.length ≤ session.messageWords)
    (hinput : block.input = (expand session.words).take session.length.toNat)
    (hoperands : block.operands = []) (hbytes : block.operandBytes = [])
    (hgood : block.signatureGood = false) :
    Tracks log
      (if block.input.length = session.length.toNat then block.finishMessage else block) := by
  have hsize : block.input.length = min session.length.toNat (4 * session.words.length) := by
    rw [hinput, List.length_take, length_expand]
  split
  · next hall =>
    have hcount : session.words.length = session.messageWords := by
      unfold Session.messageWords at hwords ⊢
      omega
    refine tracks_finishMessage hsession hreads hmode hcount ?_ hoperands hbytes hgood
    rw [hinput, Session.message, ← hcount, List.take_length]
  · next hmore =>
    refine .message session hsession hphase ?_ hmode ?_ hoperands hbytes hgood
    · unfold Session.messageWords
      omega
    · rw [hinput, List.take_of_length_le]
      rw [length_expand]
      omega

/-! ## what stays -/

@[simp] theorem length_finish (block : CryptoBlock) : block.finish.length = block.length := rfl

@[simp] theorem length_finishMessage (block : CryptoBlock) :
    block.finishMessage.length = block.length := by
  unfold finishMessage
  split <;> rfl

@[simp] theorem length_restart (block : CryptoBlock) (mode : Mode) :
    (block.restart mode).length = block.length := rfl

/-! ## single accesses -/

/-- The record after an access, which is noted if it was carried out. -/
def SessionLog.after {α : Type} (log : SessionLog) (access : DeviceAccess)
    (reply : Reply CryptoBlock α) : SessionLog :=
  if reply.result.isOk then log.note access else log

@[simp] theorem SessionLog.after_accept (log : SessionLog) (access : DeviceAccess)
    (block : CryptoBlock) : log.after access (Reply.accept block) = log.note access := rfl

@[simp] theorem SessionLog.after_answer (log : SessionLog) (access : DeviceAccess)
    (block : CryptoBlock) (word : UInt32) :
    log.after access (Reply.answer block word) = log.note access := rfl

@[simp] theorem SessionLog.after_decline {α : Type} (log : SessionLog) (access : DeviceAccess)
    (block : CryptoBlock) (cause : Violation) :
    log.after access (Reply.decline block cause : Reply CryptoBlock α) = log := rfl

theorem SessionLog.note_data {log : SessionLog} {session : Session}
    (hsession : log.session = some session) (value : UInt32) :
    log.note (.write 0x04 value) =
      { log with session := some (session.feed value), statusReads := 0 } := by
  simp [SessionLog.note, hsession]

/-- A session that has taken in a word. -/
theorem follows_fed {log : SessionLog} {block fed : CryptoBlock} {session : Session}
    (h : Follows log block) (hsession : log.session = some session)
    (hlength : fed.length = block.length) {value : UInt32}
    (htracks : Tracks { log with session := some (session.feed value), statusReads := 0 } fed) :
    Follows { log with session := some (session.feed value), statusReads := 0 } fed := by
  refine ⟨hlength.trans h.length, fun opened hopened => ?_, htracks⟩
  cases hopened
  exact h.session session hsession

/-- A start bit that is accepted opens a session with nothing of earlier ones. -/
theorem tracks_opened {log : SessionLog} {block : CryptoBlock} (mode : Mode)
    (hlength : block.length = log.length) :
    Tracks { log with session := some { mode, length := log.length }, statusReads := 0 }
      (if block.length = 0 then (block.restart mode).finishMessage else block.restart mode) := by
  have hempty : (block.restart mode).input.length = log.length.toNat ↔ block.length = 0 := by
    rw [← hlength, ← UInt32.toNat_inj]
    exact eq_comm
  have hopened := @tracks_messageTaken
    { log with session := some { mode, length := log.length }, statusReads := 0 }
    (block.restart mode) { mode, length := log.length } rfl rfl rfl rfl (Nat.zero_le _)
    List.take_nil.symm rfl rfl rfl
  simpa only [hempty] using hopened

/-- A start bit opens a session or is refused. -/
theorem follows_startSession {log : SessionLog} {block : CryptoBlock} (h : Follows log block)
    (mode : Mode) :
    Follows
      (if (block.startSession mode).result.isOk then
        { log with session := some { mode, length := log.length }, statusReads := 0 } else log)
      (block.startSession mode).state := by
  unfold startSession
  split
  · refine ⟨?_, ?_, tracks_opened mode h.length⟩
    · rw [Reply.state_accept, apply_ite CryptoBlock.length, length_finishMessage, ite_self]
      exact h.length
    · intro session hsession
      cases hsession
      rfl
  · exact h

/-- A word written to the control register. -/
theorem follows_writeControl {log : SessionLog} {block : CryptoBlock} (h : Follows log block)
    (value : UInt32) :
    Follows (log.after (.write 0x00 value) (block.writeControl value))
      (block.writeControl value).state := by
  unfold writeControl
  cases hhash : hasBit value 1 <;> cases hverify : hasBit value 0 <;>
    simp only [startHashBit, startVerifyBit, hhash, hverify]
  · simpa [SessionLog.after, Reply.accept, SessionLog.note, requestedMode?, hhash, hverify] using h
  · simpa [SessionLog.after, SessionLog.note, requestedMode?, hhash, hverify] using
      follows_startSession h .hashAndVerify
  · simpa [SessionLog.after, SessionLog.note, requestedMode?, hhash, hverify] using
      follows_startSession h .hash
  · exact h

/-- A length that is announced. -/
theorem follows_announceLength {log : SessionLog} {block : CryptoBlock} (h : Follows log block)
    (value : UInt32) :
    Follows (log.after (.write 0x08 value) (block.announceLength value))
      (block.announceLength value).state := by
  unfold announceLength
  split
  · exact ⟨rfl, fun _ hnone => (nomatch hnone), .idle rfl rfl⟩
  · exact h

/-- A word of the message. -/
theorem follows_takeMessage {log : SessionLog} {block : CryptoBlock} {session : Session}
    (h : Follows log block) (hsession : log.session = some session)
    (hphase : block.phase = .acceptHashData)
    (hshort : session.words.length < session.messageWords)
    (hmode : block.mode = session.mode) (hinput : block.input = expand session.words)
    (hoperands : block.operands = []) (hbytes : block.operandBytes = [])
    (hgood : block.signatureGood = false) (value : UInt32) :
    Follows (log.after (.write 0x04 value) (block.takeMessage value))
      (block.takeMessage value).state := by
  have hlength : block.length.toNat = session.length.toNat := by
    rw [h.length, h.session session hsession]
  have hcount : block.input.length = 4 * session.words.length := by rw [hinput, length_expand]
  have hleft : 4 * session.words.length < session.length.toNat := by
    unfold Session.messageWords at hshort
    omega
  have hfed : block.input ++ (Bytes.ofWord value).take (block.length.toNat - block.input.length) =
      (expand (session.feed value).words).take session.length.toNat := by
    rw [session.take_expand_feed value (Nat.le_of_lt hleft), hlength, hcount, hinput]
  rw [takeMessage, if_neg (by omega), SessionLog.after_accept, Reply.state_accept,
    SessionLog.note_data hsession]
  dsimp only
  rw [hfed, hlength]
  refine follows_fed h hsession ?_ ?_
  · rw [apply_ite CryptoBlock.length, length_finishMessage, ite_self]
  · refine @tracks_messageTaken _ { block with input := _ } (session.feed value) rfl rfl hphase
      hmode ?_ rfl hoperands hbytes hgood
    rw [session.length_words_feed]
    exact hshort

/-- A word of an operand. -/
theorem follows_takeOperand {log : SessionLog} {block : CryptoBlock} {session : Session}
    {count : Nat} (h : Follows log block) (hsession : log.session = some session)
    (hphase : block.phase = .acceptVerifyData)
    (hverify : session.mode = .hashAndVerify) (hmode : block.mode = .hashAndVerify)
    (hcount : count < operandCount)
    (hlong : session.messageWords + wordsPerOperand * count ≤ session.words.length)
    (hshort : session.words.length < session.messageWords + wordsPerOperand * (count + 1))
    (hinput : block.input = session.message)
    (hoperands : block.operands = (List.range count).map session.operand)
    (hbytes : block.operandBytes =
      expand (session.words.drop (session.messageWords + wordsPerOperand * count)))
    (value : UInt32) :
    Follows (log.after (.write 0x04 value) (block.takeOperand value))
      (block.takeOperand value).state := by
  have hlast := session.length_words_feed value
  have hkept := session.map_operand_feed value hlong
  have hmessage : block.input = (session.feed value).message := by
    rw [session.message_feed value (Nat.le_trans (Nat.le_add_right ..) hlong), hinput]
  have hfed : block.operandBytes ++ Bytes.ofWord value =
      expand
        ((session.feed value).words.drop (session.messageWords + wordsPerOperand * count)) := by
    rw [hbytes, session.expand_drop_feed value hlong]
  have hsize : (block.operandBytes ++ Bytes.ofWord value).length = operandWidth ↔
      (session.feed value).words.length = session.messageWords + wordsPerOperand * (count + 1) := by
    rw [hfed, length_expand, List.length_drop, hlast]
    rw [wordsPerOperand] at hlong ⊢
    rw [operandWidth]
    omega
  rw [takeOperand]
  dsimp only
  split
  · next hmore =>
    rw [SessionLog.after_accept, Reply.state_accept, SessionLog.note_data hsession]
    refine follows_fed h hsession ?_ ?_
    · rfl
    · refine tracks_operands rfl hphase hverify hmode hcount ?_ ?_ hmessage ?_ hfed
      · rw [hlast]
        exact Nat.le_succ_of_le hlong
      · rw [Ne, hsize] at hmore
        exact Nat.lt_of_le_of_ne (Nat.le_trans (Nat.le_of_eq hlast) hshort) hmore
      · rw [hkept]
        exact hoperands
  · next hfull =>
    have hwords := hsize.mp (Decidable.not_not.mp hfull)
    have hbelow : block.operands.length < operandCount := by
      rw [hoperands, List.length_map, List.length_range]
      exact hcount
    rw [if_neg (Nat.not_le_of_lt hbelow), SessionLog.after_accept, Reply.state_accept,
      SessionLog.note_data hsession]
    refine follows_fed h hsession ?_ ?_
    · rw [apply_ite CryptoBlock.length, length_finish, ite_self]
    · refine @tracks_operandsTaken _ { block with operands := _, operandBytes := [] }
        (session.feed value) (count + 1) rfl rfl hphase hverify hmode hcount hwords hmessage ?_ rfl
      rw [hfed, hoperands, ← hkept, List.range_succ, List.map_append, List.map_singleton,
        Session.operand_of_last _ hwords]
      rfl

/-- A word written to the data port. -/
theorem follows_takeWord {log : SessionLog} {block : CryptoBlock} (h : Follows log block)
    (value : UInt32) :
    Follows (log.after (.write 0x04 value) (block.takeWord value))
      (block.takeWord value).state := by
  unfold takeWord
  cases h.tracks with
  | idle hsession hphase =>
      rw [hphase]
      exact h
  | message session hsession hphase hshort hmode hinput hoperands hbytes hgood =>
      rw [hphase]
      exact follows_takeMessage h hsession hphase hshort hmode hinput hoperands hbytes hgood value
  | operands session hsession hphase hverify hmode hlong hshort hinput hoperands hbytes =>
      rw [hphase]
      rw [session.wordCount_verify hverify] at hshort
      have hbelow := Nat.mul_div_le (session.words.length - session.messageWords) wordsPerOperand
      have habove := Nat.lt_mul_div_succ (session.words.length - session.messageWords)
        (show 0 < wordsPerOperand by decide)
      refine follows_takeOperand h hsession hphase hverify hmode ?_ (by omega) (by omega) hinput
        hoperands hbytes value
      exact Nat.div_lt_of_lt_mul (by omega)
  | complete session hsession hphase hcount hdigest hgood hreads =>
      rw [hphase]
      exact h

/-- A status read. -/
theorem follows_readStatus {log : SessionLog} {block : CryptoBlock} (h : Follows log block) :
    Follows (log.after (.read 0x00) block.readStatus) block.readStatus.state := by
  have hnote : log.note (.read 0x00) = { log with statusReads := log.statusReads + 1 } := rfl
  unfold readStatus
  cases h.tracks with
  | idle hsession hphase =>
      rw [if_pos (by simp [hphase]), SessionLog.after_answer, Reply.state_answer, hnote]
      exact ⟨h.length, h.session, .idle hsession hphase⟩
  | message session hsession hphase hshort hmode hinput hoperands hbytes hgood =>
      rw [if_pos (by simp [hphase]), SessionLog.after_answer, Reply.state_answer, hnote]
      exact ⟨h.length, h.session, .message session hsession hphase hshort hmode hinput hoperands
        hbytes hgood⟩
  | operands session hsession hphase hverify hmode hlong hshort hinput hoperands hbytes =>
      rw [if_pos (by simp [hphase]), SessionLog.after_answer, Reply.state_answer, hnote]
      exact ⟨h.length, h.session, .operands session hsession hphase hverify hmode hlong hshort
        hinput hoperands hbytes⟩
  | complete session hsession hphase hcount hdigest hgood hreads =>
      rw [if_neg (by simp [hphase])]
      split
      · rw [SessionLog.after_answer, Reply.state_answer, hnote]
        refine ⟨h.length, h.session, .complete session hsession hphase hcount hdigest hgood ?_⟩
        rw [hreads, Nat.sub_sub]
      · next hlow =>
        rw [SessionLog.after_answer, Reply.state_answer, hnote]
        refine ⟨h.length, h.session, .complete session hsession hphase hcount hdigest hgood ?_⟩
        rw [hreads] at hlow
        dsimp only
        omega

/-- Beyond control, data and length there are the registers of the digest only. -/
theorem ofOffset?_other {offset : UInt32} (hcontrol : offset ≠ 0x00) (hdata : offset ≠ 0x04)
    (hlength : offset ≠ 0x08) :
    Register.ofOffset? offset = none ∨ ∃ i, Register.ofOffset? offset = some (.digest i) := by
  rw [Register.ofOffset?, if_neg hcontrol, if_neg hdata, if_neg hlength]
  split
  · exact .inr ⟨_, rfl⟩
  · exact .inl rfl

/-- Only a status read changes the block. -/
theorem state_read {offset : UInt32} (hcontrol : offset ≠ 0x00) (block : CryptoBlock) :
    (block.read offset).state = block := by
  by_cases hdata : offset = 0x04
  · subst hdata
    rfl
  by_cases hlength : offset = 0x08
  · subst hlength
    change (if block.canSetUp then Reply.answer block block.length
      else Reply.decline block (.lengthRead block.phase)).state = block
    split <;> rfl
  rw [read]
  obtain hnone | ⟨i, hdigest⟩ := ofOffset?_other hcontrol hdata hlength
  · rw [hnone]
    rfl
  · rw [hdigest]
    rfl

/-- A register read. -/
theorem follows_read {log : SessionLog} {block : CryptoBlock} (h : Follows log block)
    (offset : UInt32) :
    Follows (log.after (.read offset) (block.read offset)) (block.read offset).state := by
  by_cases hstatus : offset = 0x00
  · subst hstatus
    exact follows_readStatus h
  · have hnote : log.note (.read offset) = log := if_neg hstatus
    rw [SessionLog.after, hnote, ite_self, state_read hstatus]
    exact h

/-- The registers that are not control, data or length refuse to be written. -/
theorem write_other {offset : UInt32} (hcontrol : offset ≠ 0x00) (hdata : offset ≠ 0x04)
    (hlength : offset ≠ 0x08) (block : CryptoBlock) (value : UInt32) :
    ∃ cause, block.write offset value = .decline block cause := by
  rw [write]
  obtain hnone | ⟨i, hdigest⟩ := ofOffset?_other hcontrol hdata hlength
  · rw [hnone]
    exact ⟨_, rfl⟩
  · rw [hdigest]
    exact ⟨_, rfl⟩

/-- A register write. -/
theorem follows_write {log : SessionLog} {block : CryptoBlock} (h : Follows log block)
    (offset value : UInt32) :
    Follows (log.after (.write offset value) (block.write offset value))
      (block.write offset value).state := by
  by_cases hcontrol : offset = 0x00
  · subst hcontrol
    exact follows_writeControl h value
  by_cases hdata : offset = 0x04
  · subst hdata
    exact follows_takeWord h value
  by_cases hlength : offset = 0x08
  · subst hlength
    exact follows_announceLength h value
  obtain ⟨cause, hdecline⟩ := write_other hcontrol hdata hlength block value
  rw [hdecline]
  exact h

/-- **Step**: every access keeps the block in step with the record, accepted or
refused, in every stage. -/
theorem follows_perform (log : SessionLog) (block : CryptoBlock) (access : DeviceAccess)
    (h : Follows log block) :
    Follows
      (if (RegisterDevice.perform block access).result.isOk then log.note access else log)
      (RegisterDevice.perform block access).state := by
  cases access with
  | reset => exact follows_fresh block.latency
  | read offset =>
      have hread := follows_read h offset
      rw [SessionLog.after] at hread
      simpa [RegisterDevice.perform, RegisterDevice.readAt] using hread
  | write offset value =>
      have hwrite := follows_write h offset value
      rw [SessionLog.after] at hwrite
      simpa [RegisterDevice.perform, RegisterDevice.writeAt] using hwrite

/-- **Run**: the block follows the record of every run from power-up. -/
theorem follows_run (reads : Nat) (accesses : List DeviceAccess) :
    Follows (SessionLog.ofRun reads accesses) (RegisterDevice.run (fresh reads) accesses) :=
  RegisterDevice.related_of_step SessionLog.note Follows follows_perform accesses
    (follows_fresh reads)

end BoardSim.CryptoBlock
