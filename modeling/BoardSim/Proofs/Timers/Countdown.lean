import BoardSim.Proofs.Timers.Run

/-!
# BoardSim.Proofs.Timers.Countdown

How far a timer can lag behind the clock, whatever the times at which it is read.

A read that takes ticks off restarts the reference where it happens, and the
fraction of a tick before it is lost.  At least one tick is taken off with it, so
what is lost is less than what is taken off, and the timer has spent at most twice
the time that its ticks stand for.  `CountsFrom` says this of a timer between two
reads; it is kept by every read (`CountsFrom.catchUp`) and so by every run of
reads, however they lie (`CountsFrom.actAll`).

`countdown` tells from it what a read shows at any time after the timer was armed.
-/

namespace BoardSim

namespace Timer

/-! ## one timer -/

/-- The timer was armed with `count` ticks at `start`, was last read at `now`, and some
of its ticks are `taken` off since, or all of them. -/
inductive CountsFrom (count tick start now : Nat) (timer : Timer) : Prop where
  | running (taken : Nat) (hactive : timer.active = true) (hremaining : 0 < timer.remaining)
      (htaken : timer.remaining + taken = count)
      (hpast : timer.reference ≤ now) (hrecent : now < timer.reference + tick)
      (hearliest : start + taken * tick ≤ timer.reference)
      (hlatest : timer.reference ≤ start + 2 * (taken * tick))
  | expired (hactive : timer.active = true) (hremaining : timer.remaining = 0)
      (hend : start + count * tick ≤ now)

/-- An active timer as a word. -/
theorem word_of_active {timer : Timer} (h : timer.active = true) :
    timer.word = UInt32.ofNat ((1 <<< activeBit) + timer.remaining) := by
  rw [word, if_pos h]

/-- A word with the active bit and a count arms a timer. -/
theorem rewrite_eq {value : UInt32} (hactive : hasBit value activeBit = true)
    (hcount : 0 < value.toNat % (1 <<< activeBit)) (timer : Timer) (start : Nat) :
    timer.rewrite value start =
      { active := true, remaining := value.toNat % (1 <<< activeBit), reference := start } := by
  simp only [rewrite, isRunning, hactive, decide_eq_true hcount, Bool.and_self, if_true]

/-- A timer that was just armed has all its ticks. -/
theorem countsFrom_armed {count tick : Nat} (hcount : 0 < count) (htick : 0 < tick) (start : Nat) :
    CountsFrom count tick start start
      { active := true, remaining := count, reference := start } := by
  refine .running 0 rfl hcount (Nat.add_zero _) (Nat.le_refl _)
    (Nat.lt_add_of_pos_right htick) ?_ ?_
  · simp
  · simp

/-- What a read at a later time does to a timer that counts: it runs out, some ticks are
taken off, or no tick has passed. -/
theorem catchUp_cases {timer : Timer} (hactive : timer.active = true)
    (hremaining : 0 < timer.remaining) (tick later : Nat) :
    (timer.remaining ≤ (later - timer.reference) / tick ∧
        timer.catchUp tick later = { timer with remaining := 0 }) ∨
      (0 < (later - timer.reference) / tick ∧
        (later - timer.reference) / tick < timer.remaining ∧
        timer.catchUp tick later =
          { timer with
            remaining := timer.remaining - (later - timer.reference) / tick
            reference := later }) ∨
      ((later - timer.reference) / tick = 0 ∧ timer.catchUp tick later = timer) := by
  have hrunning : timer.isRunning = true := by simp [isRunning, hactive, hremaining]
  simp only [catchUp, hrunning, if_true]
  split
  next hall => exact .inl ⟨hall, rfl⟩
  next hsome =>
    split
    next hpos => exact .inr (.inl ⟨hpos, Nat.lt_of_not_le hsome, rfl⟩)
    next hnone => exact .inr (.inr ⟨Nat.eq_zero_of_not_pos hnone, rfl⟩)

/-- A read leaves a timer alone that has run out. -/
theorem catchUp_expired {timer : Timer} (hremaining : timer.remaining = 0) (tick later : Nat) :
    timer.catchUp tick later = timer := by
  simp [catchUp, isRunning, hremaining]

namespace CountsFrom

variable {count tick start now later : Nat} {timer : Timer}

theorem active (h : timer.CountsFrom count tick start now) : timer.active = true := by
  cases h with
  | running _ hactive | expired hactive => exact hactive

theorem remaining_le (h : timer.CountsFrom count tick start now) : timer.remaining ≤ count := by
  cases h with
  | running taken _ _ htaken => exact Nat.le.intro htaken
  | expired _ hremaining => exact hremaining ▸ Nat.zero_le count

/-- The timer does not run fast: the ticks that are taken off have passed. -/
theorem taken_le (h : timer.CountsFrom count tick start now) (htick : 0 < tick) :
    count - timer.remaining ≤ (now - start) / tick := by
  rw [Nat.le_div_iff_mul_le htick]
  cases h with
  | running taken _ _ htaken hpast _ hearliest _ =>
      have hsub : count - timer.remaining = taken := by omega
      rw [hsub]
      omega
  | expired _ hremaining hend =>
      rw [hremaining, Nat.sub_zero]
      omega

/-- The timer lags by less than a tick for each tick that is taken off, and one more. -/
theorem lag_lt (h : timer.CountsFrom count tick start now) (hremaining : 0 < timer.remaining) :
    now - start < (2 * (count - timer.remaining) + 1) * tick := by
  cases h with
  | running taken _ _ htaken _ hrecent hearliest hlatest =>
      have hsub : count - timer.remaining = taken := by omega
      rw [hsub, Nat.add_mul, Nat.mul_assoc]
      omega
  | expired _ hnone => omega

/-- The timer has run out once twice the ticks but one have passed. -/
theorem remaining_eq_zero (h : timer.CountsFrom count tick start now)
    (hlong : (2 * count - 1) * tick ≤ now - start) : timer.remaining = 0 := by
  by_contra hsome
  have hlag := h.lag_lt (Nat.pos_of_ne_zero hsome)
  have hticks : 2 * (count - timer.remaining) + 1 ≤ 2 * count - 1 := by
    have hle := h.remaining_le
    omega
  have htime := Nat.mul_le_mul_right tick hticks
  omega

/-- **Step**: a read at a later time keeps the count. -/
theorem catchUp (h : timer.CountsFrom count tick start now) (htick : 0 < tick)
    (hlater : now ≤ later) : (timer.catchUp tick later).CountsFrom count tick start later := by
  cases h with
  | running taken hactive hremaining htaken hpast hrecent hearliest hlatest =>
      have hdiv := Nat.div_add_mod' (later - timer.reference) tick
      have hmod := Nat.mod_lt (later - timer.reference) htick
      obtain ⟨hall, hnext⟩ | ⟨hpos, hsome, hnext⟩ | ⟨hnone, hnext⟩ :=
        catchUp_cases hactive hremaining tick later
      · have hcover := Nat.mul_le_mul_right tick hall
        rw [hnext]
        refine .expired hactive rfl ?_
        rw [← htaken, Nat.add_mul]
        omega
      · -- At least one tick is taken off, which pays for the fraction that is lost.
        have hone := Nat.mul_le_mul_right tick (Nat.succ_le_of_lt hpos)
        rw [hnext]
        refine .running (taken + (later - timer.reference) / tick) hactive
          (Nat.sub_pos_of_lt hsome) (by dsimp only; omega) (Nat.le_refl _)
          (Nat.lt_add_of_pos_right htick) ?_ ?_
        · rw [Nat.add_mul]
          dsimp only
          omega
        · rw [Nat.add_mul]
          dsimp only
          omega
      · have hlow := Nat.lt_of_div_eq_zero htick hnone
        rw [hnext]
        exact .running taken hactive hremaining htaken (Nat.le_trans hpast hlater) (by omega)
          hearliest hlatest
  | expired hactive hremaining hend =>
      rw [catchUp_expired hremaining]
      exact .expired hactive hremaining (Nat.le_trans hend hlater)

end CountsFrom

/-! ## a timer that is read on the beat -/

/-- The reference lies as many whole ticks after `start` as are taken off. -/
def InStep (count tick start : Nat) (timer : Timer) : Prop :=
  0 < timer.remaining → timer.reference + timer.remaining * tick = start + count * tick

/-- **Step**: a read that takes ticks off a whole number of ticks after `start` loses
nothing. -/
theorem InStep.catchUp {count tick start now later : Nat} {timer : Timer}
    (h : timer.InStep count tick start) (hcounts : timer.CountsFrom count tick start now)
    (hlater : now ≤ later)
    (hbeat : (timer.catchUp tick later).remaining < timer.remaining → tick ∣ later - start) :
    (timer.catchUp tick later).InStep count tick start := by
  cases hcounts with
  | running taken hactive hremaining htaken hpast hrecent hearliest hlatest =>
      obtain ⟨hall, hnext⟩ | ⟨hpos, hsome, hnext⟩ | ⟨hnone, hnext⟩ :=
        catchUp_cases hactive hremaining tick later
      · rw [hnext]
        exact fun hnever => absurd hnever (Nat.lt_irrefl 0)
      · have hreference := h hremaining
        rw [hnext] at hbeat ⊢
        rw [← htaken, Nat.add_mul] at hreference
        -- Both ends of the interval lie on the beat, so it is a whole number of ticks.
        have hsince : later - timer.reference = later - start - taken * tick := by omega
        have hwhole : tick ∣ later - timer.reference := by
          rw [hsince]
          exact Nat.dvd_sub (hbeat (Nat.sub_lt hremaining hpos)) (Nat.dvd_mul_left ..)
        have hticks := Nat.div_mul_cancel hwhole
        have hfew := Nat.mul_le_mul_right tick (Nat.le_of_lt hsome)
        intro _
        dsimp only
        rw [← htaken, Nat.add_mul, Nat.sub_mul]
        omega
      · rw [hnext]
        exact h
  | expired hactive hremaining hend =>
      rw [catchUp_expired hremaining]
      exact h

/-- A timer that lost nothing shows at any later time the ticks that have not passed. -/
theorem InStep.remaining_eq {count tick start now later : Nat} {timer : Timer}
    (h : timer.InStep count tick start) (hcounts : timer.CountsFrom count tick start now)
    (htick : 0 < tick) (hlater : now ≤ later) :
    (timer.catchUp tick later).remaining = count - min count ((later - start) / tick) := by
  cases hcounts with
  | running taken hactive hremaining htaken hpast hrecent hearliest hlatest =>
      have hreference := h hremaining
      rw [← htaken, Nat.add_mul] at hreference
      have hsince : later - start = later - timer.reference + taken * tick := by omega
      have hpassed : (later - start) / tick = (later - timer.reference) / tick + taken := by
        rw [hsince, Nat.add_mul_div_right _ _ htick]
      rw [hpassed]
      obtain ⟨hall, hnext⟩ | ⟨hpos, hsome, hnext⟩ | ⟨hnone, hnext⟩ :=
        catchUp_cases hactive hremaining tick later
      · rw [hnext]
        dsimp only
        omega
      · rw [hnext]
        dsimp only
        omega
      · rw [hnext]
        omega
  | expired hactive hremaining hend =>
      have hall : count ≤ (later - start) / tick := by
        rw [Nat.le_div_iff_mul_le htick]
        omega
      rw [catchUp_expired hremaining, hremaining, Nat.min_eq_left hall, Nat.sub_self]

end Timer

namespace Timers

/-! ## a timer of a bank -/

/-- The clock reading at which an access reads the timer at an index, if it does. -/
def TimedAccess.readTime? (event : TimedAccess) (index : Nat) : Option Nat :=
  match event.access with
  | .read offset => if indexOf? offset = some index then some event.now.toNat else none
  | _ => none

/-- The clock readings at which accesses read the timer at an index, in order. -/
def readTimes (index : Nat) (events : List TimedAccess) : List Nat :=
  events.filterMap (·.readTime? index)

/-- The access is no reset and does not write the timer at the index. -/
def TimedAccess.Spares (event : TimedAccess) (index : Nat) : Prop :=
  match event.access with
  | .read _ => True
  | .write offset _ => indexOf? offset ≠ some index
  | .reset => False

/-- How many ticks remain of the timer at an index. -/
def remaining (bank : Timers) (index : Nat) : Nat := (bank.timers[index]?.getD {}).remaining

/-- Every access that takes ticks off the timer at the index is made a whole number of
ticks after `start`. -/
def OnBeat (index start : Nat) (bank : Timers) : List TimedAccess → Prop
  | [] => True
  | event :: rest =>
      ((bank.act event).remaining index < bank.remaining index →
        bank.tick ∣ event.now.toNat - start) ∧
      OnBeat index start (bank.act event) rest

theorem remaining_eq {bank : Timers} {index : Nat} {timer : Timer}
    (h : bank.timers[index]? = some timer) : bank.remaining index = timer.remaining := by
  rw [remaining, h, Option.getD_some]

/-- An access that spares a timer leaves it alone or reads it. -/
theorem act_cases {bank : Timers} (hlength : bank.timers.length = timerCount) {index : Nat}
    {timer : Timer} (htimer : bank.timers[index]? = some timer) {event : TimedAccess}
    (h : event.Spares index) :
    (event.readTime? index = none ∧ (bank.act event).timers[index]? = some timer) ∨
      (event.readTime? index = some event.now.toNat ∧
        (bank.act event).timers[index]? =
          some (timer.catchUp bank.tick event.now.toNat)) := by
  rw [getElem?_act hlength, htimer, Option.map_some]
  obtain ⟨now, access⟩ := event
  cases access with
  | read offset =>
      simp only [TimedAccess.effect, TimedAccess.readTime?]
      split
      next => exact .inr ⟨rfl, rfl⟩
      next => exact .inl ⟨rfl, rfl⟩
  | write offset value => exact .inl ⟨rfl, congrArg some (if_neg h)⟩
  | reset => cases h

/-- Where the timer at an index is not read, nothing is taken off it. -/
theorem onBeat_of_readTimes_eq_nil {bank : Timers} {index start : Nat} {timer : Timer}
    {events : List TimedAccess} (hlength : bank.timers.length = timerCount)
    (htimer : bank.timers[index]? = some timer)
    (hspared : ∀ event ∈ events, event.Spares index) (hnone : readTimes index events = []) :
    OnBeat index start bank events := by
  induction events generalizing bank with
  | nil => trivial
  | cons event rest ih =>
      obtain ⟨htime, hnext⟩ | ⟨htime, _⟩ := act_cases hlength htimer (hspared event (by simp))
      · have hrest : readTimes index rest = [] := by simpa [readTimes, htime] using hnone
        refine ⟨fun hless => ?_, ih (length_act hlength event) hnext
          (fun other hother => hspared other (by simp [hother])) hrest⟩
        rw [remaining_eq htimer, remaining_eq hnext] at hless
        exact absurd hless (Nat.lt_irrefl _)
      · simp [readTimes, htime] at hnone

/-- **Run**: the timer at an index counts through all accesses that spare it, if it is
read at times that do not decrease; and it stays in step if it is read on the beat. -/
theorem countsFrom_actAll {bank : Timers} {index count tick start last now : Nat} {timer : Timer}
    {events : List TimedAccess} (hlength : bank.timers.length = timerCount)
    (hbank : bank.tick = tick) (htick : 0 < tick)
    (htimer : bank.timers[index]? = some timer) (hcounts : timer.CountsFrom count tick start last)
    (hspared : ∀ event ∈ events, event.Spares index)
    (htimes : (last :: (readTimes index events ++ [now])).Pairwise (· ≤ ·)) :
    ∃ after before, (bank.actAll events).timers[index]? = some after ∧ before ≤ now ∧
      after.CountsFrom count tick start before ∧
      (timer.InStep count tick start → OnBeat index start bank events →
        after.InStep count tick start) := by
  induction events generalizing bank timer last with
  | nil =>
      have hlast : last ≤ now := List.rel_of_pairwise_cons htimes (by simp)
      exact ⟨timer, last, htimer, hlast, hcounts, fun hstep _ => hstep⟩
  | cons event rest ih =>
      have hrest : ∀ other ∈ rest, other.Spares index :=
        fun other hother => hspared other (by simp [hother])
      have hcarried := (tick_act bank event).trans hbank
      obtain ⟨htime, hnext⟩ | ⟨htime, hnext⟩ :=
        act_cases hlength htimer (hspared event (by simp))
      · have hothers : (last :: (readTimes index rest ++ [now])).Pairwise (· ≤ ·) := by
          simpa [readTimes, htime] using htimes
        obtain ⟨after, before, hafter, hbefore, hcounted, hstep⟩ :=
          ih (length_act hlength event) hcarried hnext hcounts hrest hothers
        exact ⟨after, before, hafter, hbefore, hcounted, fun hin hbeat => hstep hin hbeat.2⟩
      · rw [hbank] at hnext
        have hall :
            (last :: event.now.toNat :: (readTimes index rest ++ [now])).Pairwise (· ≤ ·) := by
          simpa [readTimes, htime] using htimes
        have hlater : last ≤ event.now.toNat := List.rel_of_pairwise_cons hall (by simp)
        obtain ⟨after, before, hafter, hbefore, hcounted, hstep⟩ :=
          ih (length_act hlength event) hcarried hnext (hcounts.catchUp htick hlater) hrest
            hall.of_cons
        refine ⟨after, before, hafter, hbefore, hcounted, fun hin hbeat => hstep ?_ hbeat.2⟩
        refine hin.catchUp hcounts hlater fun hless => ?_
        have hwhole := hbeat.1
        rw [remaining_eq htimer, remaining_eq hnext, hbank] at hwhole
        exact hwhole hless

/-! ## the countdown -/

/-- A read of a timer shows it as it is at the clock reading. -/
theorem result_read {bank : Timers} {offset : UInt32} {index : Nat} {timer : Timer}
    (hindex : indexOf? offset = some index) (htimer : bank.timers[index]? = some timer)
    (now : UInt64) :
    (bank.read now offset).result = .ok (timer.catchUp bank.tick now.toNat).word := by
  simp [read, hindex, readTimer, htimer]

/-- A bank has the timers that its offsets name. -/
theorem exists_timer {bank : Timers} (h : bank.timers.length = timerCount) {offset : UInt32}
    {index : Nat} (hindex : indexOf? offset = some index) :
    ∃ timer, bank.timers[index]? = some timer := by
  have hlt : index < bank.timers.length := by
    rw [indexOf?] at hindex
    split at hindex
    next hbelow =>
      cases hindex
      exact h ▸ hbelow
    next => cases hindex
  exact ⟨_, List.getElem?_eq_getElem hlt⟩

/-- A write to a timer is accepted. -/
theorem result_write {bank : Timers} {offset : UInt32} {index : Nat} {timer : Timer}
    (hindex : indexOf? offset = some index) (htimer : bank.timers[index]? = some timer)
    (now : UInt64) (value : UInt32) : (bank.write now offset value).result = .ok () := by
  simp [write, hindex, htimer]

/-- **Countdown**: in a bank with any history, a timer is armed at `start` by a word with
the active bit and a count, and other accesses follow that spare it, in which it is read
at times that do not decrease.  A read at `now` finds it active with a number of
remaining ticks:

1. no more ticks are taken off than have passed, so the timer is never early;
2. while some remain, each tick that is taken off has cost less than two, and less than
   one has passed since; so none remain once `2 * count - 1` ticks have passed, however
   often the timer was read;
3. if this is the first read, or all reads that took ticks off were made a whole number
   of ticks after `start`, then exactly the ticks that have passed are taken off. -/
theorem countdown {nanos : Nat} {history : List TimedAccess} {offset : UInt32} {index : Nat}
    (hindex : indexOf? offset = some index) {value : UInt32}
    (hactive : hasBit value Timer.activeBit = true)
    (hcount : 0 < value.toNat % (1 <<< Timer.activeBit)) {start : UInt64}
    {events : List TimedAccess} (hspared : ∀ event ∈ events, event.Spares index) {now : UInt64}
    (htimes : (start.toNat :: (readTimes index events ++ [now.toNat])).Pairwise (· ≤ ·)) :
    let bank := (fresh nanos).actAll history
    let armed := (bank.write start offset value).state
    let tick := max nanos 1
    let count := value.toNat % (1 <<< Timer.activeBit)
    let elapsed := now.toNat - start.toNat
    (bank.write start offset value).result = .ok () ∧
    ∃ remaining,
      ((armed.actAll events).read now offset).result =
        .ok (UInt32.ofNat ((1 <<< Timer.activeBit) + remaining)) ∧
      remaining ≤ count ∧
      count - remaining ≤ elapsed / tick ∧
      (0 < remaining → elapsed < (2 * (count - remaining) + 1) * tick) ∧
      ((2 * count - 1) * tick ≤ elapsed → remaining = 0) ∧
      (readTimes index events = [] ∨ OnBeat index start.toNat armed events →
        remaining = count - min count (elapsed / tick)) := by
  intro bank armed tick count elapsed
  have htick : 0 < tick := Nat.lt_of_lt_of_le Nat.one_pos (Nat.le_max_right ..)
  have hlength : bank.timers.length = timerCount :=
    length_actAll List.length_replicate history
  have harmedTick : armed.tick = tick :=
    (tick_act bank ⟨start, .write offset value⟩).trans (tick_actAll _ history)
  have harmedLength : armed.timers.length = timerCount :=
    length_act hlength ⟨start, .write offset value⟩
  obtain ⟨timer, htimer⟩ := exists_timer hlength hindex
  have harmed : armed.timers[index]? =
      some { active := true, remaining := count, reference := start.toNat } := by
    rw [timers_write bank start hindex, List.getElem?_modify_eq, htimer]
    exact congrArg some (Timer.rewrite_eq hactive hcount timer start.toNat)
  have hcounts := Timer.countsFrom_armed hcount htick start.toNat
  obtain ⟨after, before, hafter, hbefore, hcounted, hstep⟩ :=
    countsFrom_actAll harmedLength harmedTick htick harmed hcounts hspared htimes
  have hshown := hcounted.catchUp htick hbefore
  refine ⟨result_write hindex htimer start value, (after.catchUp tick now.toNat).remaining, ?_,
    hshown.remaining_le, hshown.taken_le htick, hshown.lag_lt, hshown.remaining_eq_zero, ?_⟩
  · rw [result_read hindex hafter, tick_actAll, harmedTick, Timer.word_of_active hshown.active]
  · intro hbeat
    have hin : after.InStep count tick start.toNat := by
      refine hstep (fun _ => rfl) ?_
      obtain hnone | hbeat := hbeat
      · exact onBeat_of_readTimes_eq_nil harmedLength harmed hspared hnone
      · exact hbeat
    exact hin.remaining_eq hcounted htick hbefore

/-- Two ticks of twenty nanoseconds, with the timer read late and again too early, have
run out after sixty nanoseconds. -/
theorem countdown_two_ticks :
    (((((fresh 20).actAll []).write 100 0x4 0x80002).state.actAll
      [⟨130, .read 0x4⟩, ⟨7, .write 0x0 0x80005⟩, ⟨145, .read 0x4⟩]).read 160 0x4).result =
        .ok 0x80000 := by
  have hspared : ∀ event ∈ [⟨130, .read 0x4⟩, ⟨7, .write 0x0 0x80005⟩, ⟨145, .read 0x4⟩],
      TimedAccess.Spares event 1 := by
    simp only [List.forall_mem_cons]
    have hother : indexOf? 0x0 ≠ some 1 := by decide
    exact ⟨trivial, hother, trivial, fun event hnone => (nomatch hnone)⟩
  obtain ⟨_, remaining, hresult, _, _, _, hexpired, _⟩ :=
    @countdown 20 [] 0x4 1 (by decide) 0x80002 (by decide) (by decide) 100 _ hspared 160 (by decide)
  rw [hexpired (by decide)] at hresult
  exact hresult

end Timers

end BoardSim
