import BoardSim.Proofs.CryptoBlock.Tracking

/-!
# BoardSim.Proofs.CryptoBlock.Verdict

When the status register says that a signature is good.

The word that a status read gives is a function of the session on record and of
the number of status reads since it was complete (`result_readStatus`): nothing
that an earlier session left behind, and no access that was refused, has a part
in it.  `signatureGood_shown_iff` spells this out for the bit that tells good
signatures.
-/

namespace BoardSim.CryptoBlock

open RegisterDevice (perform run)

/-! ## the number of status reads that the end of a session takes to show -/

/-- No access changes the latency, once it is at least one. -/
theorem latency_perform (block : CryptoBlock) (h : 1 ≤ block.latency) (access : DeviceAccess) :
    (perform block access).state.latency = block.latency := by
  cases access with
  | read offset => exact block.latency_read offset
  | write offset value => exact block.latency_write offset value
  | reset => exact Nat.max_eq_left h

/-- The latency of a run is the one stated at power-up, or one if that is none. -/
theorem latency_run (reads : Nat) (accesses : List DeviceAccess) :
    (run (fresh reads) accesses).latency = max 1 reads := by
  have hrun : ∀ block : CryptoBlock, 1 ≤ block.latency →
      (run block accesses).latency = block.latency := by
    induction accesses with
    | nil => exact fun _ _ => rfl
    | cons access rest ih =>
        intro block h
        have hnext := latency_perform block h access
        rw [RegisterDevice.run_cons, ih _ (hnext ▸ h), hnext]
  rw [hrun _ (Nat.le_max_right ..)]
  exact Nat.max_comm ..

/-! ## the status word -/

/-- The word that a status read gives: done once the session has been read often
enough, and good if its signature is. -/
theorem result_readStatus {log : SessionLog} {block : CryptoBlock} (h : Tracks log block) :
    block.readStatus.result = .ok
      (if block.phase = .done ∧ block.latency ≤ log.statusReads + 1 then
        if ∃ session ∈ log.session, session.HoldsSignature then doneStatus ||| signatureGoodStatus
        else doneStatus
      else 0) := by
  unfold readStatus
  by_cases hphase : block.phase = .done
  · cases h with
    | idle _ hidle | message _ _ hidle | operands _ _ hidle =>
        rw [hphase] at hidle
        cases hidle
    | complete session hsession _ _ _ hgood hreads =>
        rw [if_neg (not_not_intro hphase), hreads]
        split
        · next hlow =>
          rw [if_neg (by omega)]
          rfl
        · next hlow =>
          have hshown : block.phase = .done ∧ block.latency ≤ log.statusReads + 1 :=
            ⟨hphase, by omega⟩
          rw [if_pos hshown, Reply.result_answer, hgood]
          simp [hsession]
  · rw [if_pos hphase, if_neg fun hdone => hphase hdone.1]
    rfl

/-- **The verdict**: a status read tells a good signature exactly if the block is
done, the read is late enough after the session was complete, and the session on
record verified a signature that its operands hold over the standard curve; and
it tells so only together with the end of the session. -/
theorem signatureGood_shown_iff (reads : Nat) (accesses : List DeviceAccess) :
    let block := run (fresh reads) accesses
    let log := SessionLog.ofRun reads accesses
    (∃ status, (block.read 0x00).result = .ok status ∧
      (hasBit status 9 = true ↔
        block.phase = .done ∧ max 1 reads ≤ log.statusReads + 1 ∧
          ∃ session, log.session = some session ∧ session.mode = .hashAndVerify ∧
            session.curve = Crypto.P256.parameters ∧
            Crypto.P256.verify
              (Bytes.toNat (session.operand 0)) (Bytes.toNat (session.operand 1))
              (Bytes.toNat (session.operand 2)) (Bytes.toNat (session.operand 3))
              (Crypto.Sha256.digest session.message) = true) ∧
      (hasBit status 9 = true → hasBit status 8 = true)) ∧
    (block.phase = .done ↔ ∃ session, log.session = some session ∧ session.isComplete = true) ∧
    ∀ (session : Session) (i : Nat) (bytes : List UInt8), bytes.length = 32 →
      (session.words.drop (session.messageWords + 8 * i)).take 8 = Bytes.toWords bytes →
      session.operand i = bytes := by
  intro block log
  have htracks : Tracks log block := (follows_run reads accesses).tracks
  have hlatency : block.latency = max 1 reads := latency_run reads accesses
  have hgood : hasBit (doneStatus ||| signatureGoodStatus) 9 = true := by decide
  have hdone : hasBit doneStatus 9 = false := by decide
  have hnone : hasBit 0 9 = false := by decide
  refine ⟨⟨_, result_readStatus htracks, ?_, ?_⟩, done_iff htracks, ?_⟩
  · rw [hlatency]
    constructor
    · intro hbit
      split at hbit
      · next hshown =>
        split at hbit
        · next hsigned =>
          obtain ⟨session, hsession, hsigned⟩ := hsigned
          exact ⟨hshown.1, hshown.2, session, hsession, hsigned⟩
        · rw [hdone] at hbit
          cases hbit
      · rw [hnone] at hbit
        cases hbit
    · rintro ⟨hphase, hreads, session, hsession, hsigned⟩
      rw [if_pos ⟨hphase, hreads⟩, if_pos ⟨session, hsession, hsigned⟩]
      exact hgood
  · intro hbit
    split at hbit
    · next hshown =>
      rw [if_pos hshown]
      split <;> rfl
    · rw [hnone] at hbit
      cases hbit
  · intro session i bytes hlength hwords
    rw [Session.operand]
    exact (congrArg Bytes.expand hwords).trans (Bytes.expand_toWords bytes (by omega))

/-- The words of the base point's first coordinate, fed as the first operand of a
session with an empty message, are that operand. -/
theorem operand_zero_baseX :
    let bytes := Bytes.ofNat 32 Crypto.P256.baseX
    let session : Session :=
      { mode := .hashAndVerify, length := 0, words := Bytes.toWords bytes }
    bytes.length = 32 ∧
      (session.words.drop (session.messageWords + 8 * 0)).take 8 = Bytes.toWords bytes ∧
      session.operand 0 = bytes :=
  ⟨by decide, by decide,
    (signatureGood_shown_iff 1 []).2.2 _ _ _ (by decide) (by decide)⟩

end BoardSim.CryptoBlock
