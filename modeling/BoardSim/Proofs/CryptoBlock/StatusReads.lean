import BoardSim.Proofs.CryptoBlock.Completion
import BoardSim.Proofs.CryptoBlock.Verdict
import BoardSim.Proofs.Device.History

/-!
# BoardSim.Proofs.CryptoBlock.StatusReads

How often the status has to be read until it shows that a session is complete.

An access either leaves a complete session as it is, and then it takes one of the reads
that are left if it is a status read, or it is one of those that end it.  A session that
is completed anew has all its reads left, whatever was left of an earlier one.  `Effect`
says this of a single access, and `run_of_lasts` of the accesses since a completion.

`status_of_run` tells from this what every status read of a run gives.
-/

namespace BoardSim.CryptoBlock

open RegisterDevice (perform run accepted run_concat run_append_cons accepted_concat)

/-! ## completions -/

/-- Is the status read? -/
def isStatusRead : DeviceAccess → Bool
  | .read offset => offset = 0x00
  | _ => false

/-- The accesses that end a complete session when they are accepted: a reset, a length
that is announced and a start bit. -/
def endsSession : DeviceAccess → Bool
  | .reset => true
  | .read _ => false
  | .write offset value => offset = 0x08 || offset = 0x00 && (requestedMode? value).isSome

/-- The access is accepted and ends the session. -/
def Ends (block : CryptoBlock) (access : DeviceAccess) : Prop :=
  (perform block access).result.isOk = true ∧ endsSession access = true

/-- The access completes a session. -/
def Completes (block : CryptoBlock) (access : DeviceAccess) : Prop :=
  (perform block access).state.sessionsCompleted = block.sessionsCompleted + 1

/-- The access completes a session that none of the later ones ends. -/
structure Stands (block : CryptoBlock) (access : DeviceAccess) (later : List DeviceAccess) :
    Prop where
  completes : Completes block access
  lasts : ∀ other ∈ accepted (perform block access).state later, endsSession other = false

/-! ## single accesses -/

/-- A session was completed just now: it is counted, and all its reads are left. -/
structure Completed (before after : CryptoBlock) : Prop where
  phase : after.phase = .done
  counted : after.sessionsCompleted = before.sessionsCompleted + 1
  reads : after.readsUntilDone = after.latency

/-- What an access makes of a block. -/
inductive Effect (block : CryptoBlock) (access : DeviceAccess) (after : CryptoBlock) : Prop where
  /-- The session stays complete, with one read less if this is one. -/
  | stays (hphase : block.phase = .done) (hends : ¬Ends block access)
      (hafter : after = { block with
        readsUntilDone := block.readsUntilDone - if isStatusRead access then 1 else 0 })
  /-- No session is complete after the access. -/
  | opens (hends : block.phase = .done → Ends block access) (hopen : after.phase ≠ .done)
      (hcount : after.sessionsCompleted ≤ block.sessionsCompleted)
  /-- The next session is complete. -/
  | completes (hends : block.phase = .done → Ends block access) (hcompleted : Completed block after)

theorem ends_write {block : CryptoBlock} {offset value : UInt32} :
    Ends block (.write offset value) ↔
      (block.write offset value).result.isOk = true ∧ endsSession (.write offset value) = true := by
  rw [Ends, perform, isOk_map]
  rfl

/-- A write that does nothing leaves a complete session as it is. -/
theorem effect_of_nothing {block after : CryptoBlock} {offset value : UInt32}
    (hends : ¬Ends block (.write offset value)) (hsame : after = block) :
    Effect block (.write offset value) after := by
  subst hsame
  by_cases hphase : after.phase = .done
  · exact .stays hphase hends rfl
  · exact .opens (absurd · hphase) hphase (Nat.le_refl _)

/-- A status read takes one of the reads that are left. -/
theorem state_readStatus {block : CryptoBlock} (hphase : block.phase = .done) :
    block.readStatus.state = { block with readsUntilDone := block.readsUntilDone - 1 } := by
  rw [readStatus, if_neg (not_not_intro hphase)]
  split
  next => rfl
  next hlow =>
    rw [Nat.sub_eq_zero_of_le (Nat.not_lt.mp hlow)]
    rfl

/-- A status read counts only once a session has ended. -/
theorem state_readStatus_of_ne {block : CryptoBlock} (hphase : block.phase ≠ .done) :
    block.readStatus.state = block := by
  rw [readStatus, if_pos hphase]
  rfl

theorem effect_read (block : CryptoBlock) (offset : UInt32) :
    Effect block (.read offset) (block.read offset).state := by
  by_cases hphase : block.phase = .done
  · refine .stays hphase (fun hends => by cases hends.2) ?_
    by_cases hstatus : offset = 0x00
    · subst hstatus
      exact state_readStatus hphase
    · rw [state_read hstatus, isStatusRead, decide_eq_false hstatus]
      rfl
  · obtain ⟨hsame, hcount⟩ := block.read_keeps offset
    exact .opens (absurd · hphase) (hsame ▸ hphase) (Nat.le_of_eq hcount)

/-- A control word without exactly one start bit does nothing. -/
theorem state_writeControl {value : UInt32} (h : requestedMode? value = none)
    (block : CryptoBlock) : (block.writeControl value).state = block := by
  rw [requestedMode?] at h
  cases hhash : hasBit value 1 <;> cases hverify : hasBit value 0 <;>
    simp_all [writeControl, startHashBit, startVerifyBit]

/-- A session that is started is complete at once if it hashes the empty message. -/
theorem effect_started {block : CryptoBlock} {access : DeviceAccess} (hends : Ends block access)
    (mode : Mode) : Effect block access (block.started mode) := by
  rw [started]
  split
  next =>
    cases mode with
    | hash =>
        rw [finishMessage_hash rfl]
        exact .completes (fun _ => hends) ⟨rfl, rfl, rfl⟩
    | hashAndVerify =>
        rw [finishMessage_verify rfl]
        exact .opens (fun _ => hends) (fun hdone => by cases hdone) (Nat.le_refl _)
  next => exact .opens (fun _ => hends) (fun hdone => by cases hdone) (Nat.le_refl _)

/-- A start bit ends the session before and starts the next, or is refused. -/
theorem effect_writeControl (block : CryptoBlock) (value : UInt32) :
    Effect block (.write 0x00 value) (block.writeControl value).state := by
  cases hmode : requestedMode? value with
  | none =>
      refine effect_of_nothing (fun hends => ?_) (state_writeControl hmode block)
      simpa [endsSession, hmode] using hends.2
  | some mode =>
      have hwrite : block.write 0x00 value = block.startSession mode :=
        writeControl_requested hmode block
      have hends : Ends block (.write 0x00 value) ↔ (block.startSession mode).result.isOk := by
        rw [ends_write, hwrite]
        simp [endsSession, hmode]
      rw [writeControl_requested hmode]
      rw [startSession] at hends ⊢
      split
      next hcan =>
        rw [if_pos hcan] at hends
        exact effect_started (hends.mpr rfl) mode
      next hcan =>
        rw [if_neg hcan] at hends
        exact effect_of_nothing (fun hended => by cases hends.mp hended) rfl

/-- The word that completes a session leaves it all its reads. -/
theorem readsUntilDone_takeWord {log : SessionLog} {block : CryptoBlock} (h : Follows log block)
    (hopen : block.phase ≠ .done) {value : UInt32}
    (hdone : (block.takeWord value).state.phase = .done) :
    (block.takeWord value).state.readsUntilDone = (block.takeWord value).state.latency := by
  have hnext := (follows_takeWord h value).tracks
  rw [SessionLog.after] at hnext
  split at hnext
  next =>
    cases hnext with
    | idle _ hphase | message _ _ hphase | operands _ _ hphase =>
        rw [hphase] at hdone
        cases hdone
    | complete _ _ _ _ _ _ hreads => exact hreads
  next => exact absurd ((done_iff h.tracks).mpr ((done_iff hnext).mp hdone)) hopen

/-- A word that is fed may complete the session, and is refused by a complete one. -/
theorem effect_takeWord {log : SessionLog} {block : CryptoBlock} (h : Follows log block)
    (value : UInt32) : Effect block (.write 0x04 value) (block.takeWord value).state := by
  by_cases hphase : block.phase = .done
  · refine effect_of_nothing (fun hends => by cases hends.2) ?_
    exact congrArg Reply.state (write_data_done hphase value)
  · have hcounted := counted_takeWord hphase value
    rw [Counted] at hcounted
    by_cases hdone : (block.takeWord value).state.phase = .done
    · rw [if_pos hdone] at hcounted
      exact .completes (absurd · hphase) ⟨hdone, hcounted, readsUntilDone_takeWord h hphase hdone⟩
    · rw [if_neg hdone] at hcounted
      exact .opens (absurd · hphase) hdone (Nat.le_of_eq hcounted)

theorem effect_announceLength (block : CryptoBlock) (value : UInt32) :
    Effect block (.write 0x08 value) (block.announceLength value).state := by
  have hends : Ends block (.write 0x08 value) ↔ (block.announceLength value).result.isOk :=
    ends_write.trans (and_iff_left rfl)
  rw [announceLength] at hends ⊢
  split
  next hcan =>
    rw [if_pos hcan] at hends
    exact .opens (fun _ => hends.mpr rfl) (fun hdone => by cases hdone) (Nat.le_refl _)
  next hcan =>
    rw [if_neg hcan] at hends
    exact effect_of_nothing (fun hended => by cases hends.mp hended) rfl

/-- **Step**: what each access makes of a block, accepted or refused. -/
theorem effect_perform {log : SessionLog} {block : CryptoBlock} (h : Follows log block)
    (access : DeviceAccess) : Effect block access (perform block access).state := by
  cases access with
  | reset => exact .opens (fun _ => ⟨rfl, rfl⟩) (fun hdone => by cases hdone) (Nat.zero_le _)
  | read offset => exact effect_read block offset
  | write offset value =>
      by_cases hcontrol : offset = 0x00
      · subst hcontrol
        exact effect_writeControl block value
      by_cases hdata : offset = 0x04
      · subst hdata
        exact effect_takeWord h value
      by_cases hlength : offset = 0x08
      · subst hlength
        exact effect_announceLength block value
      obtain ⟨cause, hdecline⟩ := write_other hcontrol hdata hlength block value
      refine effect_of_nothing (fun hends => ?_) (congrArg Reply.state hdecline)
      rw [ends_write, hdecline] at hends
      cases hends.1

/-! ## runs -/

/-- An access that completes a session leaves it complete with all its reads. -/
theorem Completes.completed {log : SessionLog} {block : CryptoBlock} {access : DeviceAccess}
    (h : Completes block access) (hfollows : Follows log block) :
    Completed block (perform block access).state := by
  rw [Completes] at h
  cases effect_perform hfollows access with
  | stays _ _ hafter =>
      rw [hafter] at h
      exact absurd h (Nat.ne_of_lt (Nat.lt_succ_self _))
  | opens _ _ hcount => omega
  | completes _ hcompleted => exact hcompleted

/-- **Run**: until it is ended, a complete session stays as it is but for the status reads. -/
theorem run_of_lasts {log : SessionLog} {block : CryptoBlock} (h : Follows log block)
    (hphase : block.phase = .done) {later : List DeviceAccess}
    (hlasts : ∀ other ∈ accepted block later, endsSession other = false) :
    run block later =
      { block with readsUntilDone := block.readsUntilDone - later.countP isStatusRead } := by
  induction later generalizing log block with
  | nil => rfl
  | cons access rest ih =>
      have hends : ¬Ends block access := fun hended => by
        rw [accepted, if_pos hended.1] at hlasts
        exact absurd hended.2 (Bool.eq_false_iff.mp (hlasts access List.mem_cons_self))
      have hrest : ∀ other ∈ accepted (perform block access).state rest,
          endsSession other = false := by
        intro other hother
        refine hlasts other ?_
        rw [accepted]
        split
        next => exact List.mem_cons_of_mem _ hother
        next => exact hother
      have hnext := follows_perform log block access h
      cases effect_perform h access with
      | stays _ _ hafter =>
          rw [RegisterDevice.run_cons, ih hnext (by rw [hafter]; exact hphase) hrest, hafter,
            List.countP_cons, Nat.add_comm, ← Nat.sub_sub]
      | opens hended => exact absurd (hended hphase) hends
      | completes hended => exact absurd (hended hphase) hends

/-- A block that is done is in a session that was completed and not ended since. -/
theorem exists_stands {reads : Nat} {accesses : List DeviceAccess}
    (h : (run (fresh reads) accesses).phase = .done) :
    ∃ earlier access later, accesses = earlier ++ access :: later ∧
      Stands (run (fresh reads) earlier) access later := by
  -- From the right: the last access completes the session, or was made while it stood.
  induction accesses using List.reverseRecOn with
  | nil => cases h
  | append_singleton accesses access ih =>
      rw [run_concat] at h
      cases effect_perform (follows_run reads accesses) access with
      | stays hphase hends =>
          obtain ⟨earlier, first, later, rfl, hcompletes, hlasts⟩ := ih hphase
          refine ⟨earlier, first, later ++ [access], by simp, hcompletes, fun other hother => ?_⟩
          rw [accepted_concat, ← run_append_cons] at hother
          split at hother
          next hok =>
            obtain hbefore | hlast := List.mem_append.mp hother
            · exact hlasts other hbefore
            · rw [List.mem_singleton.mp hlast]
              exact Bool.eq_false_iff.mpr fun hended => hends ⟨hok, hended⟩
          next => exact hlasts other hother
      | opens _ hopen => exact absurd h hopen
      | completes _ hcompleted =>
          exact ⟨accesses, access, [], rfl, hcompleted.counted, fun _ hnone => by cases hnone⟩

/-- What a status read of a complete session gives. -/
theorem result_read_done {block : CryptoBlock} (h : block.phase = .done) :
    (block.read 0x00).result = .ok
      (if 1 < block.readsUntilDone then 0
      else if block.signatureGood then doneStatus ||| signatureGoodStatus else doneStatus) := by
  change block.readStatus.result = _
  rw [readStatus, if_neg (not_not_intro h)]
  split <;> rfl

/-- **Status reads**: a session that was completed and not ended since shows its end to all
status reads but the first ones, one less than the number stated at power-up, and always
with the same verdict; without such a session a status read gives zero and does nothing. -/
theorem status_of_run (reads : Nat) (accesses : List DeviceAccess) :
    let block := run (fresh reads) accesses
    (∀ earlier access later, accesses = earlier ++ access :: later →
      Stands (run (fresh reads) earlier) access later →
        block.phase = .done ∧
        (block.read 0x00).result = .ok
          (if later.countP isStatusRead + 1 < max 1 reads then 0
          else if (run (fresh reads) (earlier ++ [access])).signatureGood then
            doneStatus ||| signatureGoodStatus
          else doneStatus)) ∧
    ((∀ earlier access later, accesses = earlier ++ access :: later →
      ¬Stands (run (fresh reads) earlier) access later) →
        block.phase ≠ .done ∧ block.read 0x00 = .answer block 0) := by
  intro block
  constructor
  · rintro earlier access later rfl ⟨hcompletes, hlasts⟩
    have hfollows := follows_run reads earlier
    have hcompleted := hcompletes.completed hfollows
    have hlatency : (perform (run (fresh reads) earlier) access).state.latency = max 1 reads := by
      rw [← run_concat, latency_run]
    have hblock : block = _ := (run_append_cons ..).trans
      (run_of_lasts (follows_perform _ _ access hfollows) hcompleted.phase hlasts)
    have hphase : block.phase = .done := (congrArg phase hblock).trans hcompleted.phase
    have hgood : block.signatureGood = (run (fresh reads) (earlier ++ [access])).signatureGood := by
      rw [run_concat, hblock]
    have hreads : block.readsUntilDone = max 1 reads - later.countP isStatusRead := by
      rw [hblock, hcompleted.reads, hlatency]
    refine ⟨hphase, ?_⟩
    rw [result_read_done hphase, hreads, hgood]
    simp only [Nat.lt_sub_iff_add_lt, Nat.add_comm 1]
  · intro hnone
    have hphase : block.phase ≠ .done := fun hdone => by
      obtain ⟨earlier, access, later, hsplit, hstands⟩ := exists_stands hdone
      exact hnone earlier access later hsplit hstands
    exact ⟨hphase, if_pos hphase⟩

/-- The empty message is hashed twice: the reads between the two starts do not count. -/
theorem status_of_second_session :
    Stands (run (fresh 3) [.write 0x00 0x2, .read 0x00, .read 0x00]) (.write 0x00 0x2)
        [.read 0x00, .read 0x10, .read 0x00] ∧
      ((run (fresh 3) [.write 0x00 0x2, .read 0x00, .read 0x00, .write 0x00 0x2, .read 0x00,
        .read 0x10, .read 0x00]).read 0x00).result = .ok doneStatus := by
  have hstands : Stands (run (fresh 3) [.write 0x00 0x2, .read 0x00, .read 0x00])
      (.write 0x00 0x2) [.read 0x00, .read 0x10, .read 0x00] := ⟨rfl, by decide⟩
  have hstatus :=
    (status_of_run 3 _).1 [.write 0x00 0x2, .read 0x00, .read 0x00] _ _ rfl hstands
  exact ⟨hstands, hstatus.2⟩

end BoardSim.CryptoBlock
