import BoardSim.Proofs.Device.Run
import Mathlib.Data.List.DropRight

/-!
# BoardSim.Proofs.Device.History

What has happened to a device, as a list, first to last.

Most registers show something about what happened since an event of some kind (`since`),
about what had happened when one last did (`upTo`), or the word that was told last
(`last?`).  How each of these goes on with one more event is all that is needed to show
that a device keeps up with it: `holds_of_run` is the induction over the accesses that a
device accepted, `holds_since_reset` the one over all accesses since the last reset.  Plain
words are what was written to them last (`StoresWord`).
-/

namespace BoardSim

namespace History

variable {ε α : Type}

/-- What happened after the last event of a kind, or all of it if there was none. -/
def since (kind : ε → Bool) (history : List ε) : List ε :=
  history.rtakeWhile fun event => !kind event

/-- What happened up to the last event of a kind and this event itself; nothing if there
was none. -/
def upTo (kind : ε → Bool) (history : List ε) : List ε :=
  history.rdropWhile fun event => !kind event

/-- What the last event tells of those that tell something. -/
def last? (tell : ε → Option α) (history : List ε) : Option α := history.reverse.findSome? tell

variable (kind : ε → Bool) (tell : ε → Option α) (history : List ε) (event : ε)

@[simp] theorem since_nil : since kind [] = [] := rfl

@[simp] theorem upTo_nil : upTo kind [] = [] := rfl

@[simp] theorem last?_nil : last? tell [] = none := rfl

@[simp] theorem since_concat :
    since kind (history ++ [event]) =
      if kind event then [] else since kind history ++ [event] := by
  rw [since, List.rtakeWhile_concat, since]
  cases kind event <;> rfl

/-- An event of another kind is noted after the last one of the kind. -/
theorem since_noted (h : kind event = false) (noted : Bool) :
    since kind (if noted then history ++ [event] else history) =
      if noted then since kind history ++ [event] else since kind history := by
  rw [apply_ite (since kind), since_concat, h]
  rfl

@[simp] theorem upTo_concat :
    upTo kind (history ++ [event]) =
      if kind event then history ++ [event] else upTo kind history := by
  rw [upTo, List.rdropWhile_concat, upTo]
  cases kind event <;> rfl

@[simp] theorem last?_concat :
    last? tell (history ++ [event]) = (tell event).or (last? tell history) := by
  rw [last?, List.reverse_append, List.reverse_singleton, List.singleton_append,
    List.findSome?_cons, last?]
  cases tell event <;> rfl

/-- What one more event tells comes after all that was told. -/
theorem filterMap_concat :
    (history ++ [event]).filterMap tell = history.filterMap tell ++ (tell event).toList :=
  List.filterMap_append

end History

namespace DeviceAccess

/-- Is the access a reset? -/
def isReset : DeviceAccess → Bool
  | .reset => true
  | _ => false

/-- The word that is written to an offset of a kind. -/
def writtenTo? (own : UInt32 → Bool) : DeviceAccess → Option UInt32
  | .write offset value => if own offset then some value else none
  | _ => none

/-- The word that was written to such an offset last since the reset, or zero. -/
def lastWritten (own : UInt32 → Bool) (accesses : List DeviceAccess) : UInt32 :=
  (History.last? (writtenTo? own) (History.since isReset accesses)).getD 0

end DeviceAccess

namespace RegisterDevice

variable {σ : Type} [RegisterDevice σ]

theorem run_concat (device : σ) (accesses : List DeviceAccess) (access : DeviceAccess) :
    run device (accesses ++ [access]) = (perform (run device accesses) access).state :=
  List.foldl_append

theorem run_append_cons (device : σ) (earlier : List DeviceAccess) (access : DeviceAccess)
    (later : List DeviceAccess) :
    run device (earlier ++ access :: later) =
      run (perform (run device earlier) access).state later :=
  List.foldl_append

/-- One more access of a sequence is among the accepted ones if it is carried out where the
others lead. -/
theorem accepted_concat (device : σ) (accesses : List DeviceAccess) (access : DeviceAccess) :
    accepted device (accesses ++ [access]) =
      if (perform (run device accesses) access).result.isOk then
        accepted device accesses ++ [access]
      else accepted device accesses := by
  induction accesses generalizing device with
  | nil => rfl
  | cons first rest ih =>
      rw [List.cons_append, accepted, ih, accepted, run_cons]
      split <;> split <;> rfl

/-- **Runs from steps**, with the accesses themselves as the record: what holds at power-up
and is kept by each access, noted if it was accepted, holds after every run. -/
theorem holds_of_run {Holds : List DeviceAccess → σ → Prop} {device : σ} (hnil : Holds [] device)
    (hstep : ∀ history device access, Holds history device →
      Holds (if (perform device access).result.isOk then history ++ [access] else history)
        (perform device access).state)
    (accesses : List DeviceAccess) : Holds (accepted device accesses) (run device accesses) := by
  have hall := related_of_step (fun history access => history ++ [access]) Holds hstep accesses hnil
  rw [List.foldl_append_eq_append, ← List.flatMap_def, List.flatMap_singleton',
    List.nil_append] at hall
  exact hall

/-- **Runs from steps**, with the accesses since the last reset as the record, whether they
were accepted or not. -/
theorem holds_since_reset (Holds : List DeviceAccess → σ → Prop) {device : σ}
    (hnil : Holds [] device)
    (hstep : ∀ history device access, Holds history device →
      Holds (if access.isReset then [] else history ++ [access]) (perform device access).state)
    (accesses : List DeviceAccess) :
    Holds (History.since DeviceAccess.isReset accesses) (run device accesses) := by
  induction accesses using List.reverseRecOn with
  | nil => exact hnil
  | append_singleton accesses access ih =>
      rw [History.since_concat, run_concat]
      exact hstep _ _ access ih

/-- What each access keeps is kept by a run. -/
theorem kept_of_run {Kept : σ → Prop}
    (hstep : ∀ device access, Kept device → Kept (perform device access).state) {device : σ}
    (h : Kept device) (accesses : List DeviceAccess) : Kept (run device accesses) :=
  holds_since_reset (fun _ => Kept) h (fun _ => hstep) accesses

/-- In the states of a kind, a word of the device is what is written to its own offsets: no
other access changes it but a reset, which clears it. -/
structure StoresWord (Kind : σ → Prop) (word : σ → UInt32) (own : UInt32 → Bool) : Prop where
  keeps : ∀ device access, Kind device → Kind (perform device access).state
  read : ∀ device offset, Kind device → word (readAt device offset).state = word device
  write : ∀ device offset value, Kind device →
    word (writeAt device offset value).state = if own offset then value else word device
  reset : ∀ device, word (powerUp device) = 0

/-- The device is of the kind, and its word is the one that the history has written last. -/
structure Stored (Kind : σ → Prop) (word : σ → UInt32) (own : UInt32 → Bool)
    (history : List DeviceAccess) (device : σ) : Prop where
  kind : Kind device
  word_eq : word device = (History.last? (DeviceAccess.writtenTo? own) history).getD 0

/-- **Step**: an access stores what it writes, and a reset starts the history anew. -/
theorem StoresWord.perform {Kind : σ → Prop} {word : σ → UInt32} {own : UInt32 → Bool}
    (h : StoresWord Kind word own) {history : List DeviceAccess} {device : σ}
    (hstored : Stored Kind word own history device) (access : DeviceAccess) :
    Stored Kind word own (if access.isReset then [] else history ++ [access])
      (RegisterDevice.perform device access).state := by
  refine ⟨h.keeps device access hstored.kind, ?_⟩
  cases access with
  | reset => exact h.reset device
  | read offset =>
      change word (readAt device offset).state =
        (History.last? _ (history ++ [.read offset])).getD 0
      rw [h.read device offset hstored.kind, hstored.word_eq, History.last?_concat]
      rfl
  | write offset value =>
      change word (writeAt device offset value).state =
        (History.last? _ (history ++ [.write offset value])).getD 0
      rw [h.write device offset value hstored.kind, hstored.word_eq, History.last?_concat,
        DeviceAccess.writtenTo?]
      split <;> rfl

/-- **Stored words** are what was written to them last since the reset. -/
theorem StoresWord.of_run {Kind : σ → Prop} {word : σ → UInt32} {own : UInt32 → Bool}
    (h : StoresWord Kind word own) {device : σ} (hkind : Kind device) (hzero : word device = 0)
    (accesses : List DeviceAccess) :
    word (run device accesses) = DeviceAccess.lastWritten own accesses :=
  (holds_since_reset (Stored Kind word own) ⟨hkind, hzero⟩
    (fun _ _ access hstored => h.perform hstored access) accesses).word_eq

end RegisterDevice

end BoardSim
