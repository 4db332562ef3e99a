import BoardSim.Proofs.Device.History
import BoardSim.Proofs.Device.PlainRegisters

/-!
# BoardSim.Proofs.Mailbox.Queues

What the mailbox holds, told from what the firmware and the host have done in turn.

1. the outgoing queue holds the bytes that the firmware sent since the queues were emptied;
2. the incoming queue holds the bytes that the host pushed since, less the first ones, as
   many as the firmware took (`taken`);
3. the trigger register holds the word that was written to it last, less the flush bits,
   and the flushes are counted since the reset.

`Step` says once what each event does; `Queues` and `Words` are what it keeps.
-/

namespace BoardSim.Mailbox

open RegisterDevice (perform)
open History (since last? since_concat last?_concat filterMap_concat)

instance : RegisterDevice Mailbox where
  readAt := read
  writeAt := write
  powerUp _ := fresh

/-! ## events -/

/-- What happens to a mailbox: an access of the firmware, a byte that the host queues, or a
word that it sets. -/
inductive Event where
  | access (access : DeviceAccess)
  | push (byte : UInt8)
  | preload (offset value : UInt32)

/-- The mailbox after an event. -/
def act (box : Mailbox) : Event → Mailbox
  | .access access => (perform box access).state
  | .push byte => box.pushIncoming byte
  | .preload offset value => box.preload offset value

/-- The mailbox after a sequence of events. -/
def actAll (box : Mailbox) (events : List Event) : Mailbox := events.foldl act box

def isReset : Event → Bool
  | .access .reset => true
  | _ => false

/-- Is a flush bit written to the trigger register? -/
def isFlush : Event → Bool
  | .access (.write offset value) => offset = triggerOffset && (hasBit value 1 || hasBit value 2)
  | _ => false

/-- The events after which both queues are empty. -/
def empties (event : Event) : Bool := isReset event || isFlush event

/-- The byte that the firmware sends. -/
def sent? : Event → Option UInt8
  | .access (.write offset value) => if offset = 0x34 then some value.toUInt8 else none
  | _ => none

/-- The byte that the host queues. -/
def pushed? : Event → Option UInt8
  | .push byte => some byte
  | _ => none

/-- Does the firmware read the incoming queue? -/
def isFetch : Event → Bool
  | .access (.read offset) => offset = 0x38
  | _ => false

/-- The word that the trigger register is given. -/
def triggerWord? : Event → Option UInt32
  | .access (.write offset value) =>
      if offset = triggerOffset then some (value &&& ~~~0x6) else none
  | .preload offset value => if offset = triggerOffset then some value else none
  | _ => none

/-- The accesses to the queues and to the trigger register. -/
def isService : Event → Bool
  | .access (.read offset) | .access (.write offset _) =>
      offset = triggerOffset || offset = 0x34 || offset = 0x38
  | .push _ => true
  | _ => false

/-- The bytes that the host queued, oldest first. -/
def pushed (history : List Event) : List UInt8 := history.filterMap pushed?

/-- How many bytes the firmware took, of a history with the newest event first: each fetch
takes one, unless all that were queued before it are taken. -/
def takenBefore : List Event → Nat
  | [] => 0
  | event :: before =>
      if isFetch event then min (takenBefore before + 1) (pushed before).length
      else takenBefore before

/-- How many bytes the firmware took. -/
def taken (history : List Event) : Nat := takenBefore history.reverse

theorem taken_concat (history : List Event) (event : Event) :
    taken (history ++ [event]) =
      if isFetch event then min (taken history + 1) (pushed history).length
      else taken history := by
  have hpushed : (pushed history.reverse).length = (pushed history).length := by
    rw [pushed, List.filterMap_reverse, List.length_reverse, pushed]
  rw [taken, List.reverse_append, List.reverse_singleton, List.singleton_append, takenBefore,
    hpushed, taken]

theorem pushed_concat (history : List Event) (event : Event) :
    pushed (history ++ [event]) = pushed history ++ (pushed? event).toList :=
  filterMap_concat pushed? history event

/-! ## single events -/

/-- What an event makes of a mailbox. -/
inductive Step (box : Mailbox) : Event → Mailbox → Prop where
  | reset : Step box (.access .reset) fresh
  | push (byte : UInt8) : Step box (.push byte) { box with incoming := box.incoming ++ [byte] }
  | preload (offset value : UInt32) :
      Step box (.preload offset value) { box with registers := box.registers.set offset value }
  | fetch : Step box (.access (.read 0x38)) { box with incoming := box.incoming.tail }
  | look (offset : UInt32) (hfetch : offset ≠ 0x38) : Step box (.access (.read offset)) box
  | send (value : UInt32) :
      Step box (.access (.write 0x34 value))
        { box with outgoing := box.outgoing ++ [value.toUInt8] }
  | trigger (value : UInt32) :
      Step box (.access (.write triggerOffset value)) (box.writeTrigger value)
  | ignore (value : UInt32) : Step box (.access (.write 0x38 value)) box
  | store (offset value : UInt32) (hplain : Register.ofOffset offset = .plain)
      (bank : WordBank) (hbank : bank = box.registers ∨ bank = box.registers.set offset value) :
      Step box (.access (.write offset value)) { box with registers := bank }

theorem offset_of_plain {offset : UInt32} (h : Register.ofOffset offset = .plain) :
    offset ≠ triggerOffset ∧ offset ≠ 0x34 ∧ offset ≠ 0x38 := by
  grind [Register.ofOffset]

/-- What a read of the incoming queue gives. -/
theorem read_fetch (box : Mailbox) :
    box.read 0x38 =
      match box.incoming with
      | [] => .answer box 0
      | byte :: rest => .answer { box with incoming := rest } byte.toUInt32 := rfl

theorem state_fetch (box : Mailbox) :
    (box.read 0x38).state = { box with incoming := box.incoming.tail } := by
  rw [read_fetch]
  split
  next hempty =>
    rw [hempty, List.tail_nil, ← hempty]
    rfl
  next hbyte =>
    rw [hbyte]
    rfl

theorem state_read (box : Mailbox) {offset : UInt32} (hfetch : offset ≠ 0x38) :
    (box.read offset).state = box := by
  have hother : Register.ofOffset offset ≠ .incoming := by grind [Register.ofOffset]
  have hplain : (box.readPlain offset).state = box := by
    rw [readPlain, WordBank.read]
    split <;> rfl
  rw [read]
  split
  next => rfl
  next hincoming => exact absurd hincoming hother
  next => exact hplain
  next => exact hplain

/-- A write beside the trigger register and the queues sets at most its own word. -/
theorem step_store (box : Mailbox) {offset : UInt32} (value : UInt32)
    (h : Register.ofOffset offset = .plain) :
    Step box (.access (.write offset value)) (box.write offset value).state := by
  rw [write, h, Reply.state_mapState, WordBank.write]
  split
  next => exact .store offset value h _ (.inr rfl)
  next => exact .store offset value h _ (.inl rfl)

theorem step_write (box : Mailbox) (offset value : UInt32) :
    Step box (.access (.write offset value)) (box.write offset value).state := by
  by_cases htrigger : offset = triggerOffset
  · subst htrigger
    exact .trigger value
  by_cases hsend : offset = 0x34
  · subst hsend
    exact .send value
  by_cases hfetch : offset = 0x38
  · subst hfetch
    exact .ignore value
  exact box.step_store value (by grind [Register.ofOffset])

theorem step_act (box : Mailbox) (event : Event) : Step box event (act box event) := by
  cases event with
  | push byte => exact .push byte
  | preload offset value => exact .preload offset value
  | access access =>
      cases access with
      | reset => exact .reset
      | read offset =>
          by_cases hfetch : offset = 0x38
          · subst hfetch
            have hstate : act box (.access (.read 0x38)) = _ := box.state_fetch
            rw [hstate]
            exact .fetch
          · have hstate : act box (.access (.read offset)) = _ := box.state_read hfetch
            rw [hstate]
            exact .look offset hfetch
      | write offset value => exact box.step_write offset value

/-! ## the queues -/

/-- The queues hold what a history tells since they were emptied. -/
structure Queues (history : List Event) (box : Mailbox) : Prop where
  outgoing : box.outgoing = history.filterMap sent?
  incoming : box.incoming = (pushed history).drop (taken history)
  taken_le : taken history ≤ (pushed history).length

namespace Queues

variable {history : List Event} {box after : Mailbox} {event : Event}

theorem empty {box : Mailbox} (hout : box.outgoing = []) (hin : box.incoming = []) :
    Queues [] box := ⟨hout, hin, Nat.le_refl _⟩

/-- An event that takes no byte puts in those that it sends or queues. -/
theorem concat (h : Queues history box) (hfetch : isFetch event = false)
    (hout : after.outgoing = box.outgoing ++ (sent? event).toList)
    (hin : after.incoming = box.incoming ++ (pushed? event).toList) :
    Queues (history ++ [event]) after := by
  refine ⟨?_, ?_, ?_⟩
  · rw [hout, h.outgoing, filterMap_concat]
  · rw [hin, h.incoming, pushed_concat, taken_concat, hfetch]
    exact (List.drop_append_of_le_length h.taken_le).symm
  · rw [pushed_concat, taken_concat, hfetch, List.length_append]
    exact Nat.le_add_right_of_le h.taken_le

/-- An event that is neither a byte nor a fetch has no part in the queues. -/
theorem aside (h : Queues history box) (hfetch : isFetch event = false)
    (hsent : sent? event = none) (hpushed : pushed? event = none)
    (hout : after.outgoing = box.outgoing) (hin : after.incoming = box.incoming) :
    Queues (history ++ [event]) after := by
  refine h.concat hfetch ?_ ?_
  · rw [hout, hsent, Option.toList_none, List.append_nil]
  · rw [hin, hpushed, Option.toList_none, List.append_nil]

/-- A fetch takes the first of the bytes that are not taken. -/
theorem fetch (h : Queues history box) :
    Queues (history ++ [.access (.read 0x38)]) { box with incoming := box.incoming.tail } := by
  have hfetch : isFetch (.access (.read 0x38)) = true := rfl
  have hpushed : pushed (history ++ [.access (.read 0x38)]) = pushed history := by
    rw [pushed_concat]
    exact List.append_nil _
  refine ⟨?_, ?_, ?_⟩
  · rw [filterMap_concat, ← h.outgoing]
    exact (List.append_nil _).symm
  · rw [hpushed, taken_concat, hfetch, if_pos rfl, h.incoming, List.tail_drop, Nat.min_def]
    split
    next => rfl
    -- All were taken before, so the count stays and the queue is as empty as it was.
    next hall =>
      rw [List.drop_length, List.drop_of_length_le (Nat.le_of_not_le hall)]
  · rw [hpushed, taken_concat, hfetch, if_pos rfl]
    exact Nat.min_le_right ..

/-- A read of the incoming queue gives the first of the bytes that are not taken, or takes
none. -/
theorem read_fetch (h : Queues history box) :
    box.read 0x38 =
      match (pushed history)[taken history]? with
      | some byte =>
          .answer { box with incoming := (pushed history).drop (taken history + 1) } byte.toUInt32
      | none => .answer box 0 := by
  cases hbyte : (pushed history)[taken history]? with
  | none =>
      have hempty : box.incoming = [] := by
        rw [h.incoming, List.drop_of_length_le (List.getElem?_eq_none_iff.mp hbyte)]
      rw [Mailbox.read_fetch, hempty]
  | some byte =>
      obtain ⟨hlt, hget⟩ := List.getElem?_eq_some_iff.mp hbyte
      have hnext : box.incoming = byte :: (pushed history).drop (taken history + 1) := by
        rw [h.incoming, List.drop_eq_getElem_cons hlt, hget]
      rw [Mailbox.read_fetch, hnext]

end Queues

/-! ## flushes -/

theorem hasBit_flushMask (i : Nat) : hasBit flushMask i = decide (i = 1 ∨ i = 2) := by
  match i with
  | 0 | 1 | 2 => rfl
  | i + 3 =>
      have hlow : 6 < 2 ^ (i + 3) :=
        Nat.lt_of_lt_of_le (by decide : 6 < 2 ^ 3) (Nat.pow_le_pow_right (by decide) (by omega))
      rw [decide_eq_false (by omega)]
      exact Nat.testBit_lt_two_pow hlow

theorem and_flushMask_ne_zero (value : UInt32) :
    value &&& flushMask ≠ 0 ↔ (hasBit value 1 || hasBit value 2) = true := by
  simp [ne_zero_iff_hasBit, hasBit_and, hasBit_flushMask, and_or_left, exists_or]

/-- What a word written to the trigger register does, bit by bit. -/
theorem writeTrigger_eq (box : Mailbox) (value : UInt32) :
    box.writeTrigger value =
      { registers := box.registers.set triggerOffset (value &&& ~~~flushMask)
        outgoing := if hasBit value 1 || hasBit value 2 then [] else box.outgoing
        incoming := if hasBit value 1 || hasBit value 2 then [] else box.incoming
        flushCount := box.flushCount + if hasBit value 1 || hasBit value 2 then 1 else 0 } := by
  rw [writeTrigger]
  simp only [and_flushMask_ne_zero]
  split <;> rfl

theorem isFlush_write (value : UInt32) :
    isFlush (.access (.write triggerOffset value)) = (hasBit value 1 || hasBit value 2) := by
  simp [isFlush]

theorem isFlush_write_of_ne {offset : UInt32} (h : offset ≠ triggerOffset) (value : UInt32) :
    isFlush (.access (.write offset value)) = false := by
  rw [isFlush, decide_eq_false h, Bool.false_and]

/-! ## the queues after every event -/

/-- **Step**: the queues go on with each event, and are empty after a reset or a flush. -/
theorem queues_act {history : List Event} {box : Mailbox} (h : Queues history box) (event : Event) :
    Queues (if empties event then [] else history ++ [event]) (act box event) := by
  have hstep := step_act box event
  generalize act box event = after at hstep ⊢
  cases hstep with
  | reset => exact .empty rfl rfl
  | push byte => exact h.concat rfl (List.append_nil _).symm rfl
  | preload offset value => exact h.aside rfl rfl rfl rfl rfl
  | fetch => exact h.fetch
  | look offset hfetch => exact h.aside (decide_eq_false hfetch) rfl rfl rfl rfl
  | send value => exact h.concat rfl rfl (List.append_nil _).symm
  | trigger value =>
      rw [writeTrigger_eq, empties, isFlush_write]
      cases hasBit value 1 || hasBit value 2 with
      | true => exact .empty rfl rfl
      | false => exact h.aside rfl rfl rfl rfl rfl
  | ignore value => exact h.aside rfl rfl rfl rfl rfl
  | store offset value hplain bank =>
      obtain ⟨htrigger, hsend, -⟩ := offset_of_plain hplain
      rw [empties, isFlush_write_of_ne htrigger]
      exact h.aside rfl (if_neg hsend) rfl rfl rfl

/-! ## the words -/

/-- The trigger register and the count of flushes show what a history tells since the
reset. -/
structure Words (history : List Event) (box : Mailbox) : Prop where
  span : box.registers.span = wordCount * 4
  trigger : box.registers.get triggerOffset = (last? triggerWord? history).getD 0
  flushCount : box.flushCount = history.countP isFlush

theorem words_fresh : Words [] fresh := ⟨rfl, rfl, rfl⟩

/-- What an event does to the words, from what it does to the trigger register. -/
theorem Words.concat {history : List Event} {box after : Mailbox} {event : Event}
    (h : Words history box) (hspan : after.registers.span = box.registers.span)
    (htrigger : after.registers.get triggerOffset =
      (triggerWord? event).getD (box.registers.get triggerOffset))
    (hcount : after.flushCount = box.flushCount + if isFlush event then 1 else 0) :
    Words (history ++ [event]) after := by
  refine ⟨hspan.trans h.span, ?_, ?_⟩
  · rw [htrigger, h.trigger, last?_concat]
    cases triggerWord? event <;> rfl
  · rw [hcount, h.flushCount, List.countP_append, List.countP_singleton]

theorem Words.result_read {history : List Event} {box : Mailbox} (h : Words history box) :
    (box.read triggerOffset).result = .ok ((last? triggerWord? history).getD 0) := by
  have hinside : triggerOffset < box.registers.span := by
    rw [h.span]
    decide
  change (box.registers.read triggerOffset).result = _
  rw [WordBank.read, if_pos hinside, Reply.result_answer, h.trigger]

/-- **Step**: the words go on with each event, and start over with a reset. -/
theorem words_act {history : List Event} {box : Mailbox} (h : Words history box) (event : Event) :
    Words (if isReset event then [] else history ++ [event]) (act box event) := by
  have hstep := step_act box event
  generalize act box event = after at hstep ⊢
  cases hstep with
  | reset => exact words_fresh
  | push byte => exact h.concat rfl rfl rfl
  | fetch => exact h.concat rfl rfl rfl
  | look offset hfetch => exact h.concat rfl rfl rfl
  | send value => exact h.concat rfl rfl rfl
  | preload offset value =>
      refine h.concat (WordBank.span_set ..) ?_ rfl
      rw [WordBank.get_set, triggerWord?]
      by_cases htrigger : offset = triggerOffset
      · rw [if_pos htrigger.symm, if_pos htrigger, Option.getD_some]
      · rw [if_neg (Ne.symm htrigger), if_neg htrigger, Option.getD_none]
  | trigger value =>
      rw [writeTrigger_eq]
      refine h.concat (WordBank.span_set ..) ?_ ?_
      · rw [WordBank.get_set, if_pos rfl]
        rfl
      · rw [isFlush_write]
  | ignore value => exact h.concat rfl rfl rfl
  | store offset value hplain bank hbank =>
      have htrigger := (offset_of_plain hplain).1
      have hword : triggerWord? (.access (.write offset value)) = none := if_neg htrigger
      refine h.concat ?_ ?_ ?_
      · obtain rfl | rfl := hbank
        · rfl
        · exact WordBank.span_set ..
      · rw [hword]
        obtain rfl | rfl := hbank
        · rfl
        · exact (WordBank.get_set ..).trans (if_neg htrigger.symm)
      · rw [isFlush_write_of_ne htrigger]
        rfl

/-! ## runs -/

theorem actAll_concat (box : Mailbox) (events : List Event) (event : Event) :
    actAll box (events ++ [event]) = act (actAll box events) event :=
  List.foldl_append

/-- **Run**: the mailbox keeps up with every sequence of events from power-up. -/
theorem keeps_up (events : List Event) :
    Queues (since empties events) (actAll fresh events) ∧
      Words (since isReset events) (actAll fresh events) := by
  induction events using List.reverseRecOn with
  | nil => exact ⟨.empty rfl rfl, words_fresh⟩
  | append_singleton events event ih =>
      rw [since_concat, since_concat, actAll_concat]
      exact ⟨queues_act ih.1 event, words_act ih.2 event⟩

/-- Only the trigger register is changed by an access to it or to a queue. -/
theorem registers_service (box : Mailbox) {event : Event} (hservice : isService event = true)
    {offset : UInt32} (hoffset : offset ≠ triggerOffset) :
    ((act box event).registers.read offset).result = (box.registers.read offset).result := by
  have hstep := step_act box event
  generalize act box event = after at hstep ⊢
  cases hstep with
  | push | fetch | look | send | ignore => rfl
  | reset | preload => cases hservice
  | trigger value =>
      rw [writeTrigger_eq, WordBank.read, WordBank.read, WordBank.span_set, WordBank.get_set,
        if_neg hoffset]
      split <;> rfl
  | store other value hplain =>
      obtain ⟨htrigger, hsend, hfetch⟩ := offset_of_plain hplain
      simp [isService, htrigger, hsend, hfetch] at hservice

/-- **The mailbox** after every sequence of what the firmware and the host do: what its
queues hold, the byte that a fetch gives, the count of flushes, what a flush leaves, the word
of the trigger register, and that the other words have no part in any of this. -/
theorem queues_of_run (events : List Event) :
    let box := actAll fresh events
    let history := since empties events
    box.outgoing = history.filterMap sent? ∧
      box.incoming = (pushed history).drop (taken history) ∧
      taken history ≤ (pushed history).length ∧
      box.read 0x38 =
        (match (pushed history)[taken history]? with
        | some byte =>
            .answer { box with incoming := (pushed history).drop (taken history + 1) } byte.toUInt32
        | none => .answer box 0) ∧
      box.flushCount = (since isReset events).countP isFlush ∧
      (∀ event, isFlush event = true →
        (act box event).outgoing = [] ∧ (act box event).incoming = []) ∧
      (box.read triggerOffset).result =
        .ok ((last? triggerWord? (since isReset events)).getD 0) ∧
      ∀ event, isService event = true → ∀ offset, offset ≠ triggerOffset →
        ((act box event).registers.read offset).result = (box.registers.read offset).result := by
  intro box history
  obtain ⟨hqueues, hwords⟩ := keeps_up events
  refine ⟨hqueues.outgoing, hqueues.incoming, hqueues.taken_le, ?_, hwords.flushCount, ?_, ?_, ?_⟩
  · exact hqueues.read_fetch
  · intro event hflush
    have hnext := queues_act hqueues event
    rw [empties, hflush, Bool.or_true, if_pos rfl] at hnext
    exact ⟨hnext.outgoing, hnext.incoming⟩
  · exact hwords.result_read
  · exact fun event hservice offset hoffset => registers_service box hservice hoffset

example :
    let box := actAll fresh [.push 1, .access (.write 0x2C 0x5), .push 2, .push 3,
      .access (.read 0x38), .access (.write 0x38 4)]
    box.incoming = [3] ∧ box.flushCount = 1 ∧ (box.read 0x2C).result = .ok 1 :=
  ⟨rfl, rfl, rfl⟩

end BoardSim.Mailbox
