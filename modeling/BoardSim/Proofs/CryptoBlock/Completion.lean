import BoardSim.Proofs.CryptoBlock.Tracking
import BoardSim.Proofs.Device.Refusal

/-!
# BoardSim.Proofs.CryptoBlock.Completion

A session is complete with its last word, whatever else goes on meanwhile.

Between the words of a session the firmware may poll the status, look at the
digest registers, write control words that start nothing, and have accesses
refused.  None of this has a part in the session: `Underway` is kept by each
access of this kind (`Underway.aside`), each word that is fed takes it to the
session with that word (`Underway.feed`), and so a run of both amounts to the
words fed in it (`Underway.run`).

`session_completes` tells from this what the firmware sees of a session from its
first word to its last and after it.
-/

namespace BoardSim.CryptoBlock

open RegisterDevice (perform run accepted)
open Bytes (expand)

/-! ## the steps of a session -/

/-- What the firmware does while a session is open: it feeds a word to the data
port, or makes another access on the side. -/
inductive Step where
  | feed (word : UInt32)
  | aside (access : DeviceAccess)

/-- The access that a step makes. -/
def Step.access : Step → DeviceAccess
  | .feed word => .write 0x04 word
  | .aside access => access

/-- The words that are fed, in order. -/
def fed : List Step → List UInt32
  | [] => []
  | .feed word :: rest => word :: fed rest
  | .aside _ :: rest => fed rest

/-- The accesses that have no part in a session: reads, control words that start
nothing, and whatever is refused. -/
inductive Harmless (block : CryptoBlock) : DeviceAccess → Prop where
  | read (offset : UInt32) : Harmless block (.read offset)
  | control (value : UInt32) (hhash : hasBit value 1 = false) (hverify : hasBit value 0 = false) :
      Harmless block (.write 0x00 value)
  | refused (access : DeviceAccess) (cause : Violation)
      (h : (perform block access).result = refuse cause) : Harmless block access

/-- Every access on the side is harmless where it is made. -/
def Unobtrusive (block : CryptoBlock) : List Step → Prop
  | [] => True
  | .feed word :: rest => Unobtrusive (perform block (.write 0x04 word)).state rest
  | .aside access :: rest => Harmless block access ∧ Unobtrusive (perform block access).state rest

/-- The accesses that open a session: its length is announced and a start bit is
written. -/
def opening (length : Nat) (start : UInt32) : List DeviceAccess :=
  [.write 0x08 (UInt32.ofNat length), .write 0x00 start]

/-! ## the count of sessions -/

/-- The sessions are counted on the way from one state to the other, which a session
may end but not pass. -/
def Counted (before after : CryptoBlock) : Prop :=
  after.sessionsCompleted = before.sessionsCompleted + if after.phase = .done then 1 else 0

/-- Nothing is counted while the session stays open. -/
theorem counted_of_open {before after : CryptoBlock} (hopen : after.phase ≠ .done)
    (hsame : after.sessionsCompleted = before.sessionsCompleted) : Counted before after := by
  rw [Counted, if_neg hopen, Nat.add_zero, hsame]

theorem counted_finish (block : CryptoBlock) : Counted block block.finish := rfl

theorem counted_finishMessage (block : CryptoBlock) : Counted block block.finishMessage := by
  rw [finishMessage]
  split <;> rfl

theorem counted_takeMessage {block : CryptoBlock} (hopen : block.phase ≠ .done) (value : UInt32) :
    Counted block (block.takeMessage value).state := by
  rw [takeMessage]
  split
  next => exact counted_of_open hopen rfl
  next =>
    simp only [Reply.state_accept]
    split
    next => exact counted_finishMessage _
    next => exact counted_of_open hopen rfl

theorem counted_takeOperand {block : CryptoBlock} (hopen : block.phase ≠ .done) (value : UInt32) :
    Counted block (block.takeOperand value).state := by
  simp only [takeOperand]
  split
  next => exact counted_of_open hopen rfl
  next =>
    split
    next => exact counted_of_open hopen rfl
    next =>
      rw [Reply.state_accept]
      split
      next => exact counted_finish _
      next => exact counted_of_open hopen rfl

/-- An open session is counted with the word that ends it. -/
theorem counted_takeWord {block : CryptoBlock} (hopen : block.phase ≠ .done) (value : UInt32) :
    Counted block (block.takeWord value).state := by
  rw [takeWord]
  split
  next => exact counted_takeMessage hopen value
  next => exact counted_takeOperand hopen value
  next => exact counted_of_open hopen rfl

/-! ## accesses on the side -/

/-- A read changes at most the number of status reads that are left. -/
theorem read_keeps (block : CryptoBlock) (offset : UInt32) :
    (block.read offset).state.phase = block.phase ∧
      (block.read offset).state.sessionsCompleted = block.sessionsCompleted := by
  by_cases hstatus : offset = 0x00
  · subst hstatus
    change block.readStatus.state.phase = _ ∧ block.readStatus.state.sessionsCompleted = _
    rw [readStatus]
    split
    next => exact ⟨rfl, rfl⟩
    next => split <;> exact ⟨rfl, rfl⟩
  · rw [state_read hstatus]
    exact ⟨rfl, rfl⟩

/-- A read has no part in the session on record. -/
theorem SessionLog.session_after_read (log : SessionLog) (offset : UInt32)
    (reply : Reply CryptoBlock UInt32) :
    (log.after (.read offset) reply).session = log.session := by
  rw [after, note]
  split
  next => split <;> rfl
  next => rfl

/-- A control word without a start bit does nothing. -/
theorem writeControl_noStart {value : UInt32} (hhash : hasBit value 1 = false)
    (hverify : hasBit value 0 = false) (block : CryptoBlock) :
    block.writeControl value = .accept block := by
  simp [writeControl, startHashBit, startVerifyBit, hhash, hverify]

/-- An access that is refused leaves the block as it was. -/
theorem untouched_perform (block : CryptoBlock) (access : DeviceAccess) :
    (perform block access).Untouched block :=
  RegisterDevice.untouched_perform block.untouched_read block.untouched_write access

/-! ## sessions under way -/

/-- The block has taken in the words of the session and nothing else, after `count`
sessions. -/
structure Underway (count : Nat) (session : Session) (block : CryptoBlock) : Prop where
  follows : ∃ log, Follows log block ∧ log.session = some session
  counted : block.sessionsCompleted = count + if block.phase = .done then 1 else 0

namespace Underway

variable {count : Nat} {session : Session} {block : CryptoBlock}

theorem done_iff (h : Underway count session block) :
    block.phase = .done ↔ session.words.length = session.wordCount := by
  obtain ⟨log, hfollows, hsession⟩ := h.follows
  rw [CryptoBlock.done_iff hfollows.tracks]
  simp [hsession, Session.isComplete]

theorem length_eq (h : Underway count session block) : block.length = session.length := by
  obtain ⟨log, hfollows, hsession⟩ := h.follows
  rw [hfollows.length, hfollows.session session hsession]

theorem digest_eq (h : Underway count session block) (hdone : block.phase = .done) :
    block.digest = Crypto.Sha256.digest session.message := by
  obtain ⟨log, hfollows, hsession⟩ := h.follows
  cases hfollows.tracks with
  | idle _ hphase | message _ _ hphase | operands _ _ hphase =>
      rw [hphase] at hdone
      cases hdone
  | complete complete hcomplete _ _ hdigest =>
      rw [hsession] at hcomplete
      cases hcomplete
      exact hdigest

/-- An open session takes in the next word. -/
theorem result_takeWord (h : Underway count session block)
    (hmissing : session.words.length < session.wordCount) (value : UInt32) :
    (block.takeWord value).result = .ok () := by
  obtain ⟨log, hfollows, hsession⟩ := h.follows
  have hlength : block.length.toNat = session.length.toNat := by rw [h.length_eq]
  rw [takeWord]
  -- In the open stages the block breaks off only if more was taken in than the session has.
  cases hfollows.tracks with
  | idle hnone =>
      rw [hsession] at hnone
      cases hnone
  | message current hcurrent hphase hshort _ hinput =>
      cases hsession.symm.trans hcurrent
      have hfits : block.input.length ≤ block.length.toNat := by
        rw [Session.messageWords] at hshort
        rw [hinput, Bytes.length_expand, hlength]
        omega
      simp [hphase, takeMessage, Nat.not_lt.mpr hfits]
  | operands current hcurrent hphase hverify _ _ hshort _ hoperands =>
      cases hsession.symm.trans hcurrent
      have hslots : block.operands.length < operandCount := by
        rw [session.wordCount_verify hverify] at hshort
        rw [hoperands, List.length_map, List.length_range]
        exact Nat.div_lt_of_lt_mul (by omega)
      simp only [hphase, takeOperand]
      split
      next => rfl
      next => rw [if_neg (Nat.not_le_of_lt hslots), Reply.result_accept]
  | complete current hcurrent _ hcount =>
      cases hsession.symm.trans hcurrent
      omega

/-- **Step**: a word that the session lacks is accepted and is the session's next. -/
theorem feed (h : Underway count session block)
    (hmissing : session.words.length < session.wordCount) (word : UInt32) :
    Underway count (session.feed word) (perform block (.write 0x04 word)).state := by
  have hopen : block.phase ≠ .done := fun hdone => Nat.ne_of_lt hmissing (h.done_iff.mp hdone)
  have hcounted := counted_takeWord hopen word
  rw [Counted, h.counted, if_neg hopen, Nat.add_zero] at hcounted
  refine ⟨?_, hcounted⟩
  obtain ⟨log, hfollows, hsession⟩ := h.follows
  have hnext := follows_takeWord hfollows word
  rw [SessionLog.after, h.result_takeWord hmissing word, isOk_ok, if_pos rfl,
    SessionLog.note_data hsession] at hnext
  exact ⟨_, hnext, rfl⟩

/-- **Step**: a harmless access leaves the session as it is. -/
theorem aside (h : Underway count session block) {access : DeviceAccess}
    (hharmless : Harmless block access) :
    Underway count session (perform block access).state := by
  cases hharmless with
  | read offset =>
      obtain ⟨log, hfollows, hsession⟩ := h.follows
      obtain ⟨hphase, hsessions⟩ := block.read_keeps offset
      refine ⟨⟨_, follows_read hfollows offset, ?_⟩, ?_⟩
      · rw [log.session_after_read, hsession]
      · change (block.read offset).state.sessionsCompleted = _
        rw [hsessions, h.counted]
        simp [perform, RegisterDevice.readAt, hphase]
  | control value hhash hverify =>
      have hsame : (perform block (.write 0x00 value)).state = block :=
        congrArg Reply.state (writeControl_noStart hhash hverify block)
      rw [hsame]
      exact h
  | refused access cause hrefused =>
      rw [block.untouched_perform access cause hrefused]
      exact h

/-- **Run**: what the steps amount to is the words that they feed. -/
theorem run {steps : List Step} (h : Underway count session block)
    (hasides : Unobtrusive block steps)
    (hroom : session.words.length + (fed steps).length ≤ session.wordCount) :
    Underway count { session with words := session.words ++ fed steps }
      (RegisterDevice.run block (steps.map Step.access)) := by
  -- The session grows with each word that is fed; an access on the side leaves it.
  induction steps generalizing session block with
  | nil => simpa [fed] using h
  | cons step rest ih =>
      cases step with
      | feed word =>
          simp only [fed, List.length_cons] at hroom
          have hfed := h.feed (by omega) word
          have hrest := ih hfed hasides
            (by rw [session.length_words_feed, session.wordCount_feed]; omega)
          rw [session.words_feed, List.append_assoc] at hrest
          exact hrest
      | aside access => exact ih (h.aside hasides.1) hasides.2 hroom

end Underway

/-! ## opening a session -/

/-- A word with a start bit starts a session. -/
theorem writeControl_requested {value : UInt32} {mode : Mode}
    (h : requestedMode? value = some mode) (block : CryptoBlock) :
    block.writeControl value = block.startSession mode := by
  rw [requestedMode?] at h
  cases hhash : hasBit value 1 <;> cases hverify : hasBit value 0 <;>
    simp_all [writeControl, startHashBit, startVerifyBit]

/-- The block once a length was announced. -/
def announced (block : CryptoBlock) (length : UInt32) : CryptoBlock :=
  { block with length, input := [], phase := .idle }

/-- The block once a session was started. -/
def started (block : CryptoBlock) (mode : Mode) : CryptoBlock :=
  if block.length = 0 then (block.restart mode).finishMessage else block.restart mode

/-- A block between sessions accepts a length. -/
theorem write_length_ready {block : CryptoBlock}
    (hready : block.phase = .idle ∨ block.phase = .done) (length : UInt32) :
    block.write 0x08 length = .accept (block.announced length) := by
  have hcan : block.canSetUp = true := by
    obtain hphase | hphase := hready <;> simp [canSetUp, hphase]
  exact if_pos hcan

/-- A block between sessions accepts that a session is opened. -/
theorem accepted_opening {block : CryptoBlock} (hready : block.phase = .idle ∨ block.phase = .done)
    {start : UInt32} {mode : Mode} (hstart : requestedMode? start = some mode) (length : Nat) :
    accepted block (opening length start) = opening length start ∧
      run block (opening length start) =
        (block.announced (UInt32.ofNat length)).started mode := by
  have hlength := write_length_ready hready (UInt32.ofNat length)
  have hcontrol : (block.announced (UInt32.ofNat length)).write 0x00 start =
      .accept ((block.announced (UInt32.ofNat length)).started mode) :=
    writeControl_requested hstart _
  simp [opening, accepted, perform, RegisterDevice.writeAt, hlength, hcontrol, Except.map]

/-- A session that was just started has no words yet. -/
theorem underway_started (block : CryptoBlock) (mode : Mode) (length : UInt32) :
    Underway block.sessionsCompleted { mode, length } ((block.announced length).started mode) := by
  have hannounced : Follows { length } (block.announced length) :=
    ⟨rfl, fun _ hnone => (nomatch hnone), .idle rfl rfl⟩
  have hstarted := follows_startSession hannounced mode
  refine ⟨⟨_, hstarted, rfl⟩, ?_⟩
  rw [started]
  split
  next => exact counted_finishMessage _
  next => rfl

/-! ## what the registers show -/

/-- The registers of the digest, by number. -/
theorem read_digest (block : CryptoBlock) {i : Nat} (hi : i < 8) :
    block.read (UInt32.ofNat (0x10 + 4 * i)) = .answer block (block.digestWord i) := by
  match i with
  | 0 | 1 | 2 | 3 | 4 | 5 | 6 | 7 => rfl
  | i + 8 => omega

/-- The registers of the digest read as zero until the session is complete. -/
theorem result_read_digest {block : CryptoBlock} (hopen : block.phase ≠ .done) {offset : UInt32}
    (hlow : 0x10 ≤ offset) (hhigh : offset < 0x30) : (block.read offset).result = .ok 0 := by
  have hcontrol : offset ≠ 0x00 := by
    rintro rfl
    exact absurd hlow (by decide)
  have hdata : offset ≠ 0x04 := by
    rintro rfl
    exact absurd hlow (by decide)
  have hlength : offset ≠ 0x08 := by
    rintro rfl
    exact absurd hlow (by decide)
  have hregister : Register.ofOffset? offset = some (.digest ((offset.toNat - 0x10) / 4)) := by
    rw [Register.ofOffset?, if_neg hcontrol, if_neg hdata, if_neg hlength, if_pos ⟨hlow, hhigh⟩]
  simp [read, hregister, digestWord, hopen]

/-- The registers of a complete session, put together from the last to the first, are
the digest. -/
theorem expand_digestWords {block : CryptoBlock} (hdone : block.phase = .done)
    (hdigest : block.digest.length = 32) :
    expand ((List.range 8).map block.digestWord).reverse = block.digest := by
  have hword : block.digestWord = fun i =>
      Bytes.toWord ((block.digest.drop (4 * (7 - i))).take 4) := by
    funext i
    simp [digestWord, hdone]
  have hreverse : ((List.range 8).map block.digestWord).reverse =
      (List.range 8).map fun i => Bytes.toWord ((block.digest.drop (4 * i)).take 4) := by
    rw [hword]
    rfl
  rw [hreverse, Bytes.expand_map_toWord _ (Nat.le_of_eq hdigest.symm), List.take_of_length_le]
  exact Nat.le_of_eq hdigest

/-- The digest can be rebuilt from what the registers of a complete session read as. -/
theorem exists_digest_registers {block : CryptoBlock} (hdone : block.phase = .done)
    (hdigest : block.digest.length = 32) :
    ∃ registers : List UInt32,
      (List.range 8).map (fun i => (block.read (UInt32.ofNat (0x10 + 4 * i))).result) =
        registers.map .ok ∧
      expand registers.reverse = block.digest := by
  refine ⟨(List.range 8).map block.digestWord, ?_, expand_digestWords hdone hdigest⟩
  rw [List.map_map]
  apply List.map_congr_left
  intro i hi
  rw [block.read_digest (List.mem_range.mp hi)]
  rfl

/-- The length can be read back once the session is complete. -/
theorem read_length_done {block : CryptoBlock} (hdone : block.phase = .done) :
    block.read 0x08 = .answer block block.length := by
  have hcan : block.canSetUp = true := by simp [canSetUp, hdone]
  exact if_pos hcan

/-- A complete session takes in no more words. -/
theorem write_data_done {block : CryptoBlock} (hdone : block.phase = .done) (word : UInt32) :
    block.write 0x04 word = .decline block (.dataWritten .done) := by
  change block.takeWord word = _
  rw [takeWord, hdone]

/-! ## sessions from the first word to the last -/

/-- **Completion**: between sessions, a session is opened for a message and words are
fed that hold the message, with anything in the rest of the last word, and the
operands if it verifies; harmless accesses may come between them.  Whichever of
the words are fed so far:

1. with its length announced, the session is not complete and the digest reads as zero;
2. once it is started, it is complete exactly if all words are fed;
3. the next of them is accepted;
4. until the last one the digest reads as zero and the count of sessions stays;
5. after it no more words are accepted, the digest is that of the message, also as it
   is read from the registers, the length can be read back, and one session is
   counted. -/
theorem session_completes {block : CryptoBlock}
    (hready : block.phase = .idle ∨ block.phase = .done)
    {start : UInt32} {mode : Mode} (hstart : requestedMode? start = some mode)
    {message : List UInt8} (hsize : message.length < UInt32.size)
    {words : List UInt32} (hwords : words.length = (message.length + 3) / 4)
    (hmessage : (expand words).take message.length = message)
    {operands : List UInt32}
    (hoperands : operands.length = if mode = .hashAndVerify then 72 else 0)
    {steps : List Step} (hfed : fed steps <+: words ++ operands)
    (hasides : Unobtrusive (run block (opening message.length start)) steps) :
    let announced := run block [.write 0x08 (UInt32.ofNat message.length)]
    let now := run block (opening message.length start ++ steps.map Step.access)
    accepted block (opening message.length start) = opening message.length start ∧
    announced.phase = .idle ∧
    (∀ offset, 0x10 ≤ offset → offset < 0x30 → (announced.read offset).result = .ok 0) ∧
    (now.phase = .done ↔ fed steps = words ++ operands) ∧
    (∀ word, fed steps ++ [word] <+: words ++ operands → (now.write 0x04 word).result = .ok ()) ∧
    (now.phase ≠ .done →
      (∀ offset, 0x10 ≤ offset → offset < 0x30 → (now.read offset).result = .ok 0) ∧
      now.sessionsCompleted = block.sessionsCompleted) ∧
    (now.phase = .done →
      (∀ word, (now.write 0x04 word).result = refuse (.dataWritten .done)) ∧
      now.digest = Crypto.Sha256.digest message ∧
      (∃ registers : List UInt32,
        (List.range 8).map (fun i => (now.read (UInt32.ofNat (0x10 + 4 * i))).result) =
          registers.map .ok ∧
        expand registers.reverse = Crypto.Sha256.digest message) ∧
      (now.read 0x08).result = .ok (UInt32.ofNat message.length) ∧
      now.sessionsCompleted = block.sessionsCompleted + 1) := by
  intro announced now
  have hidle : announced.phase = .idle :=
    congrArg (fun reply => reply.state.phase)
      (write_length_ready hready (UInt32.ofNat message.length))
  have hlength : (UInt32.ofNat message.length).toNat = message.length :=
    UInt32.toNat_ofNat_of_lt' hsize
  have htotal : Session.wordCount { mode, length := UInt32.ofNat message.length } =
      (words ++ operands).length := by
    rw [Session.wordCount, Session.messageWords, hlength, List.length_append, hwords, hoperands]
    cases mode <;> rfl
  obtain ⟨haccepted, hopened⟩ := accepted_opening hready hstart message.length
  have hunder : Underway block.sessionsCompleted
      { mode, length := UInt32.ofNat message.length, words := fed steps } now := by
    have hnow : now = run (run block (opening message.length start)) (steps.map Step.access) :=
      List.foldl_append
    have hroom : (fed steps).length ≤
        Session.wordCount { mode, length := UInt32.ofNat message.length } := by
      rw [htotal]
      exact hfed.length_le
    have hstarted := block.underway_started mode (UInt32.ofNat message.length)
    rw [hopened] at hasides hnow
    rw [hnow]
    exact hstarted.run hasides (by simpa using hroom)
  have hcount : Session.wordCount
      { mode, length := UInt32.ofNat message.length, words := fed steps } =
        (words ++ operands).length := htotal
  have hdone : now.phase = .done ↔ fed steps = words ++ operands := by
    rw [hunder.done_iff, hcount]
    exact ⟨hfed.eq_of_length, congrArg List.length⟩
  refine ⟨haccepted, hidle, ?_, hdone, ?_, ?_, ?_⟩
  · exact fun offset hlow hhigh => result_read_digest (by simp [hidle]) hlow hhigh
  · intro word hnext
    have hmissing := hnext.length_le
    rw [List.length_append, ← hcount] at hmissing
    exact hunder.result_takeWord hmissing word
  · intro hopen
    have hsessions := hunder.counted
    rw [if_neg hopen, Nat.add_zero] at hsessions
    exact ⟨fun offset hlow hhigh => result_read_digest hopen hlow hhigh, hsessions⟩
  · intro hphase
    have hcut : words.length = Session.messageWords
        { mode, length := UInt32.ofNat message.length, words := fed steps } := by
      rw [Session.messageWords, hlength, hwords]
    have hall : now.digest = Crypto.Sha256.digest message := by
      rw [hunder.digest_eq hphase, Session.message_eq _ (hdone.mp hphase) hcut, hlength, hmessage]
    have hregisters := exists_digest_registers hphase (by rw [hall, Crypto.Sha256.length_digest])
    have hsessions := hunder.counted
    rw [if_pos hphase] at hsessions
    refine ⟨fun word => ?_, hall, hall ▸ hregisters, ?_, hsessions⟩
    · rw [write_data_done hphase, Reply.result_decline]
    · rw [read_length_done hphase, Reply.result_answer, hunder.length_eq]

/-- A message of five bytes is hashed: the status is polled before the first word, a
new length is refused before the second, and a third word is refused. -/
theorem session_completes_five :
    (run (fresh 1) (opening 5 0x2 ++
      [.read 0x00, .write 0x04 0x64636261, .write 0x08 7, .write 0x04 0xffffff65,
        .write 0x04 0])).phase = .done ∧
      (run (fresh 1) (opening 5 0x2 ++
        [.read 0x00, .write 0x04 0x64636261, .write 0x08 7, .write 0x04 0xffffff65,
          .write 0x04 0])).digest =
        Crypto.Sha256.digest [0x61, 0x62, 0x63, 0x64, 0x65] := by
  have hasides : Unobtrusive (run (fresh 1) (opening 5 0x2))
      [.aside (.read 0x00), .feed 0x64636261, .aside (.write 0x08 7), .feed 0xffffff65,
        .aside (.write 0x04 0)] :=
    And.intro (.read 0x00)
      (And.intro (.refused _ (.lengthWritten .acceptHashData) rfl)
        (And.intro (.refused _ (.dataWritten .done) rfl) trivial))
  have hcompletes := @session_completes (fresh 1) (.inl rfl) 0x2 .hash (by decide)
    [0x61, 0x62, 0x63, 0x64, 0x65] (by decide) [0x64636261, 0xffffff65] rfl (by decide) [] rfl
    _ List.prefix_rfl hasides
  obtain ⟨-, -, -, hdone, -, -, hshown⟩ := hcompletes
  exact ⟨hdone.mpr rfl, (hshown (hdone.mpr rfl)).2.1⟩

end BoardSim.CryptoBlock
