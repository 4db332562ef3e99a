import Mathlib.Data.List.Pairwise
import BoardSim.Proofs.Device.Safety
import BoardSim.Proofs.Timers.Countdown

/-!
# BoardSim.Proofs.Timers.Readings

What the timers of a bank show, however the clock moves.

The clock can be moved on, around its end too, or set to any reading.  One that lies before
the reference of a timer lets no time pass for it, so the ticks of a timer can only go down
until it is written or reset.

1. `Descends` says what a timer can become that is not written, and `WordDescends` what its
   word can; every read keeps to it (`descends_catchUp`), and so does every run of events
   that spare the timer (`descends_occurAll`).
2. A read where the clock stands as it did finds the same word (`catchUp_catchUp`).
3. What concerns other timers has no part in what a timer shows: two runs that are `Alike`
   for the timer stay so, whether or not such events are left out (`Alike.occurAll`).
-/

namespace BoardSim

namespace Timer

/-! ## one timer -/

/-- What a timer can become that is not written: it stays active or inactive, its ticks go
down at most, and one that does not run stays as it is. -/
structure Descends (older newer : Timer) : Prop where
  active : newer.active = older.active
  remaining : newer.remaining ≤ older.remaining
  stopped : older.isRunning = false → newer = older

/-- The word of an active timer that has run out. -/
def spentWord : UInt32 := 0x80000

/-- What a later word of such a timer can be: it is no greater, it has the same active bit,
and a word without it or without ticks stays. -/
structure WordDescends (older newer : UInt32) : Prop where
  le : newer ≤ older
  active : hasBit newer activeBit = hasBit older activeBit
  stopped : hasBit older activeBit = false ∨ older = spentWord → newer = older

theorem Descends.refl (timer : Timer) : timer.Descends timer :=
  ⟨rfl, Nat.le_refl _, fun _ => rfl⟩

theorem Descends.trans {older between newer : Timer} (h : older.Descends between)
    (hnext : between.Descends newer) : older.Descends newer := by
  refine ⟨hnext.active.trans h.active, Nat.le_trans hnext.remaining h.remaining, ?_⟩
  intro hstopped
  have hsame := h.stopped hstopped
  subst hsame
  exact hnext.stopped hstopped

instance : IsTrans UInt32 WordDescends where
  trans older between newer h hnext := by
    refine ⟨UInt32.le_trans hnext.le h.le, hnext.active.trans h.active, fun hstopped => ?_⟩
    have hsame := h.stopped hstopped
    subst hsame
    exact hnext.stopped hstopped

/-- A read at any reading of the clock takes ticks off at most. -/
theorem descends_catchUp (timer : Timer) (tick now : Nat) :
    timer.Descends (timer.catchUp tick now) := by
  refine ⟨?_, timer.remaining_catchUp_le tick now, fun hstopped => by simp [catchUp, hstopped]⟩
  simp only [catchUp]
  repeat' split
  all_goals rfl

/-- A second read at the same reading of the clock takes nothing off. -/
theorem catchUp_catchUp (timer : Timer) (tick now : Nat) :
    (timer.catchUp tick now).catchUp tick now = timer.catchUp tick now := by
  cases hrunning : timer.isRunning with
  | false =>
      have hsame := (timer.descends_catchUp tick now).stopped hrunning
      rw [hsame, hsame]
  | true =>
      have hcounts : timer.active = true ∧ 0 < timer.remaining := by
        simpa [isRunning] using hrunning
      obtain ⟨-, hnext⟩ | ⟨-, -, hnext⟩ | ⟨-, hnext⟩ :=
        catchUp_cases hcounts.1 hcounts.2 tick now
      · rw [hnext]
        exact catchUp_expired rfl tick now
      · -- The reference is the reading itself, so that no tick has passed.
        rw [hnext]
        simp +contextual [catchUp]
      · rw [hnext, hnext]

/-! ## the word of a timer -/

section Word

variable {timer newer : Timer} (h : timer.remaining < 1 <<< activeBit)

include h

theorem toNat_word :
    timer.word.toNat = (if timer.active then 1 <<< activeBit else 0) + timer.remaining := by
  have hroom : 1 <<< activeBit = 524288 := by decide
  have hsize : UInt32.size = 4294967296 := rfl
  rw [word, UInt32.toNat_ofNat_of_lt']
  rw [hroom] at h ⊢
  split <;> omega

theorem hasBit_word : hasBit timer.word activeBit = timer.active := by
  rw [hasBit, toNat_word h, Nat.one_shiftLeft]
  rw [Nat.one_shiftLeft] at h
  cases timer.active with
  | true => simp [Nat.testBit_two_pow_add_eq, Nat.testBit_lt_two_pow h]
  | false => simp [Nat.testBit_lt_two_pow h]

/-- The bits above the active bit are not used. -/
theorem hasBit_word_above {i : Nat} (hi : activeBit < i) : hasBit timer.word i = false := by
  have hroom : 1 <<< activeBit = 524288 := by decide
  have hword : timer.word.toNat < 2 ^ (activeBit + 1) := by
    rw [toNat_word h, hroom]
    rw [hroom] at h
    split <;> simp only [activeBit] <;> omega
  exact Nat.testBit_lt_two_pow (Nat.lt_of_lt_of_le hword (Nat.pow_le_pow_right (by decide) hi))

/-- A word without the active bit or without ticks is that of a timer that does not run. -/
theorem isRunning_eq_false
    (hstopped : hasBit timer.word activeBit = false ∨ timer.word = spentWord) :
    timer.isRunning = false := by
  obtain hinactive | hspent := hstopped
  · rw [hasBit_word h] at hinactive
    simp [isRunning, hinactive]
  · have hnat := congrArg UInt32.toNat hspent
    have hroom : 1 <<< activeBit = 524288 := by decide
    have hvalue : spentWord.toNat = 524288 := by decide
    rw [toNat_word h, hvalue, hroom] at hnat
    rw [hroom] at h
    have hnone : timer.remaining = 0 := by
      split at hnat <;> omega
    simp [isRunning, hnone]

theorem Descends.word (hdescends : timer.Descends newer) : WordDescends timer.word newer.word := by
  have hless := hdescends.remaining
  have hnewer : newer.remaining < 1 <<< activeBit := Nat.lt_of_le_of_lt hless h
  refine ⟨?_, ?_, fun hstopped => ?_⟩
  · rw [UInt32.le_iff_toNat_le, toNat_word h, toNat_word hnewer, hdescends.active]
    omega
  · rw [hasBit_word h, hasBit_word hnewer, hdescends.active]
  · rw [hdescends.stopped (isRunning_eq_false h hstopped)]

end Word

end Timer

namespace Timers

/-- An access leaves the bank sound. -/
theorem Sound.act {bank : Timers} (h : bank.Sound) (event : TimedAccess) :
    (bank.act event).Sound := by
  obtain ⟨now, access⟩ := event
  cases access with
  | read offset => exact (h.safe_read now offset).state
  | write offset value => exact (h.safe_write now offset value).state
  | reset => exact h.reset

/-! ## a bank and its clock -/

/-- What can happen around a bank: an access is made, or its clock is moved on by so many
nanoseconds or set to them. -/
inductive Event where
  | access (access : DeviceAccess)
  | advance (nanos : Nat)
  | set (nanos : Nat)

namespace Event

/-- Is the clock moved? -/
def moves : Event → Bool
  | .access _ => false
  | .advance _ | .set _ => true

/-- The event neither writes the timer at the index nor resets the bank. -/
def Spares (event : Event) (index : Nat) : Prop :=
  match event with
  | .access request => TimedAccess.Spares ⟨0, request⟩ index
  | .advance _ | .set _ => True

/-- Is the timer at the index read? -/
def reads (index : Nat) : Event → Bool
  | .access (.read offset) => indexOf? offset = some index
  | _ => false

/-- Is the event more than an access that is made elsewhere than at the timer of the index? -/
def concerns (index : Nat) : Event → Bool
  | .access (.read offset) | .access (.write offset _) => indexOf? offset = some index
  | .access .reset | .advance _ | .set _ => true

end Event

/-- A bank on a board, whose clock it reads. -/
structure Clocked where
  bank : Timers
  board : Board

namespace Clocked

/-- The bank and the board after an event. -/
def occur (state : Clocked) : Event → Clocked
  | .access access => { state with bank := state.bank.act ⟨state.board.clock, access⟩ }
  | .advance nanos => { state with board := state.board.advanceClock nanos }
  | .set nanos => { state with board := state.board.setClock nanos }

/-- The bank and the board after events, first to last. -/
def occurAll (state : Clocked) (events : List Event) : Clocked := events.foldl occur state

/-- The reply to a read where the clock stands. -/
def read (state : Clocked) (offset : UInt32) : Reply Timers UInt32 :=
  state.bank.read state.board.clock offset

/-- The timer at an index as it is recorded. -/
def timer? (state : Clocked) (index : Nat) : Option Timer := state.bank.timers[index]?

/-- Its word. -/
def word (state : Clocked) (index : Nat) : UInt32 := ((state.timer? index).getD {}).word

/-- The word that an event reads from the timer at an index, if it reads that timer. -/
def reading? (state : Clocked) (index : Nat) : Event → Option UInt32
  | .access (.read offset) =>
      if indexOf? offset = some index then (state.read offset).result.toOption else none
  | _ => none

/-- The words that events read from the timer at an index, first to last. -/
def readings (state : Clocked) (index : Nat) : List Event → List UInt32
  | [] => []
  | event :: rest => (state.reading? index event).toList ++ (state.occur event).readings index rest

/-! ## one event -/

theorem Sound.occur {state : Clocked} (h : state.bank.Sound) (event : Event) :
    (state.occur event).bank.Sound := by
  cases event with
  | access access => exact h.act ⟨state.board.clock, access⟩
  | advance nanos => exact h
  | set nanos => exact h

theorem Sound.occurAll {state : Clocked} (h : state.bank.Sound) (events : List Event) :
    (state.occurAll events).bank.Sound := by
  induction events generalizing state with
  | nil => exact h
  | cons event rest ih => exact ih (Sound.occur h event)

theorem tick_occur (state : Clocked) (event : Event) :
    (state.occur event).bank.tick = state.bank.tick := by
  cases event with
  | access access => exact tick_act _ _
  | advance nanos => rfl
  | set nanos => rfl

/-- A timer brought up to where the clock stands. -/
def current (state : Clocked) (timer : Timer) : Timer :=
  timer.catchUp state.bank.tick state.board.clock.toNat

/-- What an event makes of the timer at an index, whatever the other timers are. -/
def effect (state : Clocked) (index : Nat) : Event → Timer → Timer
  | .access access => TimedAccess.effect ⟨state.board.clock, access⟩ state.bank.tick index
  | .advance _ | .set _ => id

variable {state : Clocked} {index : Nat} {timer : Timer}

/-- A read of a timer shows it as it is where the clock stands. -/
theorem result_read_current (htimer : state.timer? index = some timer) {offset : UInt32}
    (hindex : indexOf? offset = some index) :
    (state.read offset).result = .ok (state.current timer).word :=
  result_read hindex htimer state.board.clock

/-- **Step**: an event does to each timer what it does to that timer alone. -/
theorem timer?_occur (hsound : state.bank.Sound) (index : Nat) (event : Event) :
    (state.occur event).timer? index = (state.timer? index).map (state.effect index event) := by
  cases event with
  | access access => exact getElem?_act hsound.size ⟨state.board.clock, access⟩ index
  | advance nanos => exact (congrFun Option.map_id _).symm
  | set nanos => exact (congrFun Option.map_id _).symm

/-- What an event reads is told from the timer and the clock. -/
theorem reading?_eq (hsound : state.bank.Sound) (index : Nat) (event : Event) :
    state.reading? index event =
      if event.reads index then (state.timer? index).map fun timer => (state.current timer).word
      else none := by
  cases event with
  | advance nanos => rfl
  | set nanos => rfl
  | access access =>
      cases access with
      | write offset value => rfl
      | reset => rfl
      | read offset =>
          by_cases hindex : indexOf? offset = some index
          · obtain ⟨timer, htimer⟩ := exists_timer hsound.size hindex
            have hstored : state.timer? index = some timer := htimer
            have hresult := result_read_current hstored hindex
            simp [reading?, Event.reads, hindex, hstored, hresult, Except.toOption]
          · simp [reading?, Event.reads, hindex]

/-- A read of a timer that is up to the clock changes nothing. -/
theorem read_eq_answer (htimer : state.timer? index = some timer)
    (hcurrent : state.current timer = timer) {offset : UInt32}
    (hindex : indexOf? offset = some index) :
    state.read offset = .answer state.bank timer.word := by
  have hstored : state.bank.timers[index]? = some timer := htimer
  have hset : state.bank.timers.set index timer = state.bank.timers := by
    obtain ⟨hlt, rfl⟩ := List.getElem?_eq_some_iff.mp hstored
    exact List.set_getElem_self hlt
  have hcatch : timer.catchUp state.bank.tick state.board.clock.toNat = timer := hcurrent
  rw [read, Timers.read, hindex]
  simp only [readTimer, hstored, hcatch, hset]

/-- **Run**: no word that is read has a bit above the active bit. -/
theorem hasBit_readings {events : List Event} (hsound : state.bank.Sound) {word : UInt32}
    (hword : word ∈ state.readings index events) {i : Nat} (hi : Timer.activeBit < i) :
    hasBit word i = false := by
  induction events generalizing state with
  | nil => cases hword
  | cons event rest ih =>
      rw [readings, List.mem_append, Option.mem_toList] at hword
      obtain hfirst | hlater := hword
      · rw [reading?_eq hsound, Option.ite_none_right_eq_some] at hfirst
        obtain ⟨timer, htimer, rfl⟩ := Option.map_eq_some_iff.mp hfirst.2
        have hroom := hsound.remaining timer (List.mem_of_getElem? htimer)
        have hless := timer.remaining_catchUp_le state.bank.tick state.board.clock.toNat
        exact Timer.hasBit_word_above (Nat.lt_of_le_of_lt hless hroom) hi
      · exact ih (Sound.occur hsound event) hlater

/-- An event that spares a timer leaves it alone or reads it. -/
theorem occur_cases (hsound : state.bank.Sound) (htimer : state.timer? index = some timer)
    {event : Event} (hspared : event.Spares index) :
    (state.reading? index event = none ∧ (state.occur event).timer? index = some timer) ∨
      (state.reading? index event = some (state.current timer).word ∧
        (state.occur event).timer? index = some (state.current timer)) := by
  rw [reading?_eq hsound, timer?_occur hsound, htimer, Option.map_some, Option.map_some]
  cases event with
  | advance nanos => exact .inl ⟨rfl, rfl⟩
  | set nanos => exact .inl ⟨rfl, rfl⟩
  | access access =>
      cases access with
      | read offset =>
          by_cases hindex : indexOf? offset = some index
          · exact .inr (by simp [Event.reads, effect, TimedAccess.effect, hindex, current])
          · exact .inl (by simp [Event.reads, effect, TimedAccess.effect, hindex])
      | write offset value => exact .inl ⟨rfl, congrArg some (if_neg hspared)⟩
      | reset => cases hspared

/-! ## events that spare a timer -/

/-- **Run**: through events that spare a timer it goes down at most, and the words that are
read from it do. -/
theorem descends_occurAll {events : List Event} (hsound : state.bank.Sound)
    (htimer : state.timer? index = some timer)
    (hspared : ∀ event ∈ events, event.Spares index) :
    ∃ after, (state.occurAll events).timer? index = some after ∧ timer.Descends after ∧
      (timer.word :: state.readings index events).Pairwise Timer.WordDescends := by
  induction events generalizing state timer with
  | nil => exact ⟨timer, htimer, Timer.Descends.refl timer, List.pairwise_singleton ..⟩
  | cons event rest ih =>
      have hrest : ∀ other ∈ rest, other.Spares index :=
        fun other hother => hspared other (List.mem_cons_of_mem event hother)
      obtain ⟨hnone, hnext⟩ | ⟨hshown, hnext⟩ :=
        occur_cases hsound htimer (hspared event List.mem_cons_self)
      · obtain ⟨after, hafter, hdescends, hwords⟩ := ih (Sound.occur hsound event) hnext hrest
        refine ⟨after, hafter, hdescends, ?_⟩
        rw [readings, hnone]
        exact hwords
      · have hread : timer.Descends (state.current timer) := timer.descends_catchUp ..
        have hroom := hsound.remaining timer (List.mem_of_getElem? htimer)
        obtain ⟨after, hafter, hdescends, hwords⟩ := ih (Sound.occur hsound event) hnext hrest
        refine ⟨after, hafter, hread.trans hdescends, ?_⟩
        rw [readings, hshown]
        exact List.Pairwise.cons_cons_of_trans (hread.word hroom) hwords

/-- **Run**: where the clock stands still, events that spare a timer leave it as it was
read. -/
theorem timer?_occurAll_still {events : List Event} (hsound : state.bank.Sound)
    (htimer : state.timer? index = some timer) (hcurrent : state.current timer = timer)
    (hstill : ∀ event ∈ events, event.Spares index ∧ event.moves = false) :
    (state.occurAll events).timer? index = some timer ∧
      (state.occurAll events).current timer = timer := by
  induction events generalizing state with
  | nil => exact ⟨htimer, hcurrent⟩
  | cons event rest ih =>
      obtain ⟨hspared, hmoves⟩ := hstill event List.mem_cons_self
      have hnext : (state.occur event).timer? index = some timer := by
        obtain ⟨-, hnext⟩ | ⟨-, hnext⟩ := occur_cases hsound htimer hspared
        · exact hnext
        · rw [hnext, hcurrent]
      have hclock : (state.occur event).board = state.board := by
        cases event with
        | access access => rfl
        | advance nanos => cases hmoves
        | set nanos => cases hmoves
      refine ih (Sound.occur hsound event) hnext ?_
        fun other hother => hstill other (List.mem_cons_of_mem event hother)
      rw [current, tick_occur, hclock]
      exact hcurrent

/-! ## other timers -/

/-- An event that does not concern a timer does not read it. -/
theorem reads_eq_false {event : Event} (haside : event.concerns index = false) :
    event.reads index = false := by
  cases event with
  | advance nanos => rfl
  | set nanos => rfl
  | access access =>
      cases access with
      | read offset => exact haside
      | write offset value => rfl
      | reset => rfl

/-- Nor does it do anything else to it. -/
theorem effect_eq_id (state : Clocked) {event : Event} (haside : event.concerns index = false) :
    state.effect index event = id := by
  funext timer
  cases event with
  | advance nanos => rfl
  | set nanos => rfl
  | access access =>
      cases access with
      | read offset => exact if_neg (of_decide_eq_false haside)
      | write offset value => exact if_neg (of_decide_eq_false haside)
      | reset => cases haside

/-- Two banks are the same as far as a timer and its clock are concerned. -/
structure Alike (index : Nat) (one other : Clocked) : Prop where
  board : one.board = other.board
  tick : one.bank.tick = other.bank.tick
  timer : one.timer? index = other.timer? index
  sound : one.bank.Sound
  sound' : other.bank.Sound

namespace Alike

variable {one other : Clocked}

/-- An event does the same to a timer in both. -/
theorem occur (h : Alike index one other) (event : Event) :
    Alike index (one.occur event) (other.occur event) where
  board := by cases event <;> simp [Clocked.occur, h.board]
  tick := by rw [tick_occur, tick_occur, h.tick]
  timer := by
    have heffect : one.effect index event = other.effect index event := by
      cases event <;> simp [effect, h.board, h.tick]
    rw [timer?_occur h.sound, timer?_occur h.sound', h.timer, heffect]
  sound := Sound.occur h.sound event
  sound' := Sound.occur h.sound' event

/-- An event that does not concern a timer may be left out. -/
theorem skip (h : Alike index one other) {event : Event} (haside : event.concerns index = false) :
    Alike index (one.occur event) other where
  board := by
    cases event with
    | access access => exact h.board
    | advance nanos => cases haside
    | set nanos => cases haside
  tick := (tick_occur one event).trans h.tick
  timer := by rw [timer?_occur h.sound, effect_eq_id one haside, Option.map_id, id, h.timer]
  sound := Sound.occur h.sound event
  sound' := h.sound'

/-- An event reads the same word from a timer in both. -/
theorem reading? (h : Alike index one other) (event : Event) :
    one.reading? index event = other.reading? index event := by
  have hcurrent : one.current = other.current := by
    funext timer
    rw [current, current, h.board, h.tick]
  rw [reading?_eq h.sound, reading?_eq h.sound', h.timer, hcurrent]

/-- **Run**: the events that do not concern a timer may all be left out. -/
theorem occurAll (h : Alike index one other) (events : List Event) :
    one.readings index events = other.readings index (events.filter (·.concerns index)) ∧
      Alike index (one.occurAll events) (other.occurAll (events.filter (·.concerns index))) := by
  induction events generalizing one other with
  | nil => exact ⟨rfl, h⟩
  | cons event rest ih =>
      cases hconcerns : event.concerns index with
      | true =>
          obtain ⟨hreadings, halike⟩ := ih (h.occur event)
          rw [List.filter_cons_of_pos hconcerns, readings, readings, h.reading?, hreadings]
          exact ⟨rfl, halike⟩
      | false =>
          obtain ⟨hreadings, halike⟩ := ih (h.skip hconcerns)
          have hnone : one.reading? index event = none := by
            rw [reading?_eq h.sound, reads_eq_false hconcerns]
            rfl
          rw [List.filter_cons_of_neg (by simp [hconcerns]), readings, hnone, hreadings]
          exact ⟨rfl, halike⟩

end Alike

/-! ## what the timers show -/

end Clocked

/-- **What a timer shows.**  In a bank with any history, on a clock that was moved in any way:

1. a read of a timer is answered with its word, as it then is; and a later read where the
   clock stands as it did, the timer neither written nor reset since, is answered with the
   same word and changes nothing;
2. until the timer is written or reset, the words that are read from it go down at most,
   their active bits agree, and a word without that bit or without ticks stays;
3. no word has a bit above the active bit;
4. an access that does not concern a timer leaves it as it is, with its reference;
5. all that is read from a timer, and the timer itself, is as if such accesses had not been
   made. -/
theorem readings_of_run (nanos : Nat) (board : Board) (history : List Event)
    (index : Fin timerCount) :
    let state := Clocked.occurAll ⟨fresh nanos, board⟩ history
    (∀ offset, indexOf? offset = some ↑index →
      let shown := state.occur (.access (.read offset))
      (state.read offset).result = .ok (shown.word index) ∧
        ∀ events, (∀ event ∈ events, event.Spares index ∧ event.moves = false) →
          let later := shown.occurAll events
          later.timer? index = shown.timer? index ∧
            later.read offset = .answer later.bank (shown.word index)) ∧
      (∀ events, (∀ event ∈ events, event.Spares index) →
        (state.word index :: state.readings index events).Pairwise Timer.WordDescends ∧
          (hasBit (state.word index) Timer.activeBit = false ∨
              state.word index = Timer.spentWord →
            (state.occurAll events).timer? index = state.timer? index)) ∧
      (∀ events, ∀ word ∈ state.readings index events,
        ∀ i, Timer.activeBit < i → hasBit word i = false) ∧
      (∀ event, event.concerns index = false →
        (state.occur event).timer? index = state.timer? index) ∧
      (∀ events,
        let others := events.filter fun event => event.concerns index
        state.readings index events = state.readings index others ∧
          (state.occurAll events).timer? index = (state.occurAll others).timer? index) := by
  intro state
  have hfresh : (Clocked.mk (fresh nanos) board).bank.Sound := sound_fresh nanos
  have hsound : state.bank.Sound := Clocked.Sound.occurAll hfresh history
  obtain ⟨timer, htimer⟩ : ∃ timer, state.timer? index = some timer :=
    ⟨_, List.getElem?_eq_getElem (hsound.size.symm ▸ index.isLt)⟩
  have hword : state.word index = timer.word := by rw [Clocked.word, htimer, Option.getD_some]
  have hroom := hsound.remaining timer (List.mem_of_getElem? htimer)
  refine ⟨fun offset hindex => ?_, fun events hspared => ⟨?_, fun hstopped => ?_⟩,
    fun events word hmem i hi => Clocked.hasBit_readings hsound hmem hi,
    fun event haside => ?_, fun events => ?_⟩
  · intro shown
    have hshown : shown.timer? index = some (state.current timer) := by
      rw [Clocked.timer?_occur hsound, htimer]
      exact congrArg some (if_pos hindex)
    have hshownWord : shown.word index = (state.current timer).word := by
      rw [Clocked.word, hshown, Option.getD_some]
    have hcurrent : shown.current (state.current timer) = state.current timer := by
      rw [Clocked.current, Clocked.tick_occur]
      exact timer.catchUp_catchUp ..
    rw [hshownWord]
    refine ⟨Clocked.result_read_current htimer hindex, fun events hstill => ?_⟩
    intro later
    obtain ⟨hlater, hsettled⟩ :=
      Clocked.timer?_occurAll_still (Clocked.Sound.occur hsound _) hshown hcurrent hstill
    exact ⟨hlater.trans hshown.symm, Clocked.read_eq_answer hlater hsettled hindex⟩
  · obtain ⟨after, -, -, hwords⟩ := Clocked.descends_occurAll hsound htimer hspared
    rw [hword]
    exact hwords
  · obtain ⟨after, hafter, hdescends, -⟩ := Clocked.descends_occurAll hsound htimer hspared
    rw [hword] at hstopped
    rw [hafter, htimer, hdescends.stopped (Timer.isRunning_eq_false hroom hstopped)]
  · have halike : Clocked.Alike index state state := ⟨rfl, rfl, rfl, hsound, hsound⟩
    exact (halike.skip haside).timer
  · have halike : Clocked.Alike index state state := ⟨rfl, rfl, rfl, hsound, hsound⟩
    obtain ⟨hreadings, hafter⟩ := halike.occurAll events
    exact ⟨hreadings, hafter.timer⟩

/-- The clock is set back, moved once around its end, and moved on by a tick and a quarter. -/
example :
    Clocked.readings ⟨fresh 20, .fresh 0 0⟩ 1
      [.set 100, .access (.write 0x4 0x80002), .set 50, .access (.read 0x4),
        .advance (2 ^ 64), .access (.read 0x4), .advance 75, .access (.read 0x4)] =
      [0x80002, 0x80002, 0x80001] := by decide

end Timers

end BoardSim
