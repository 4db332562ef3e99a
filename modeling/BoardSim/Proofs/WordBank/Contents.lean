import BoardSim.Proofs.Device.History
import BoardSim.Proofs.Device.PlainRegisters
import BoardSim.Proofs.SortedMap

/-!
# BoardSim.Proofs.WordBank.Contents

What a bank of plain words stores, and that nothing else is recorded of it.

1. the words that are stored are those below the span that do not read as zero
   (`Canonical`), so that a bank is known from what it reads (`Canonical.ext`);
2. each word reads as it was written last since the reset;
3. the recorded state lists the stored words, so it is the same for two banks exactly if
   they read alike, whatever has happened to them.
-/

namespace BoardSim.WordBank

open RegisterDevice (perform run kept_of_run StoresWord)

instance : RegisterDevice WordBank where
  readAt := read
  writeAt := write
  powerUp := clear

/-! ## stored words -/

/-- The bank stores words below its span that are not zero. -/
def Canonical (bank : WordBank) : Prop := bank.words.Sparse (· < bank.span)

theorem Canonical.set {bank : WordBank} (h : bank.Canonical) {offset : UInt32}
    (hspan : offset < bank.span) (value : UInt32) : (bank.set offset value).Canonical :=
  SortedMap.Sparse.setWord h hspan value

/-- **Banks are known from what they read.** -/
theorem Canonical.ext {bank rival : WordBank} (h : bank.Canonical) (hrival : rival.Canonical)
    (hspan : bank.span = rival.span)
    (hget : ∀ offset, offset < bank.span → bank.get offset = rival.get offset) : bank = rival := by
  obtain ⟨span, words⟩ := bank
  obtain ⟨rivalSpan, rivalWords⟩ := rival
  cases hspan
  exact congrArg (mk span) (SortedMap.Sparse.ext h hrival hget)

/-! ## recorded states -/

/-- The field of the recorded state that a stored word makes. -/
def field (entry : UInt32 × UInt32) : String × Snapshot :=
  (toString entry.1.toNat, .word entry.2)

theorem field_injective : Function.Injective field := by
  intro a b h
  obtain ⟨hname, hword⟩ := Prod.mk.inj h
  have hdigits : Nat.toDigits 10 a.1.toNat = Nat.toDigits 10 b.1.toNat := by
    simpa using congrArg String.toList hname
  have hoffset : a.1.toNat = b.1.toNat := calc
    a.1.toNat = Nat.ofDigitChars 10 (Nat.toDigits 10 a.1.toNat) 0 :=
      Nat.ofDigitChars_ten_toDigits.symm
    _ = b.1.toNat := by rw [hdigits, Nat.ofDigitChars_ten_toDigits]
  exact Prod.ext (UInt32.toNat_inj.mp hoffset) (UInt32.toNat_inj.mp (Snapshot.number.inj hword))

/-- Nothing of a bank is left out of its recorded state. -/
theorem snapshot_inj {bank rival : WordBank} : bank.snapshot = rival.snapshot ↔ bank = rival := by
  refine ⟨fun h => ?_, congrArg snapshot⟩
  have hfields := Snapshot.record.inj h
  simp only [List.cons.injEq, Prod.mk.injEq, Snapshot.record.injEq, Snapshot.word,
    Snapshot.number.injEq, UInt32.toNat_inj, true_and, and_true] at hfields
  obtain ⟨hspan, hwords⟩ := hfields
  obtain ⟨span, ⟨entries⟩⟩ := bank
  obtain ⟨rivalSpan, ⟨rivalEntries⟩⟩ := rival
  have hentries : entries = rivalEntries := field_injective.list_map hwords
  cases hspan
  cases hentries
  rfl

/-- The recorded state lists the words that do not read as zero. -/
theorem Canonical.mem_fields_iff {bank : WordBank} (h : bank.Canonical)
    {recorded : String × Snapshot} :
    recorded ∈ bank.words.entries.map field ↔
      ∃ offset, offset < bank.span ∧ bank.get offset ≠ 0 ∧
        recorded = field (offset, bank.get offset) := by
  rw [List.mem_map]
  constructor
  · rintro ⟨⟨offset, word⟩, hmem, rfl⟩
    obtain ⟨-, hinside⟩ := h.stored _ hmem
    obtain ⟨rfl, hzero⟩ := (SortedMap.Sparse.mem_iff h).mp hmem
    exact ⟨offset, hinside, hzero, rfl⟩
  · rintro ⟨offset, -, hzero, rfl⟩
    exact ⟨(offset, bank.get offset), (SortedMap.Sparse.mem_iff h).mpr ⟨rfl, hzero⟩, rfl⟩

/-! ## runs -/

/-- A bank of this span stores words below it that are not zero. -/
structure Spans (span : UInt32) (bank : WordBank) : Prop where
  canonical : bank.Canonical
  span_eq : bank.span = span

variable {span : UInt32} {bank : WordBank}

theorem spans_fresh (span : UInt32) : Spans span { span } := ⟨SortedMap.Sparse.empty _, rfl⟩

/-- **Step**: no access changes the span or stores a word beyond it. -/
theorem spans_perform (bank : WordBank) (access : DeviceAccess) (h : Spans span bank) :
    Spans span (perform bank access).state := by
  cases access with
  | reset => exact ⟨SortedMap.Sparse.empty _, h.span_eq⟩
  | read offset =>
      change Spans span (bank.read offset).state
      rwa [state_read]
  | write offset value =>
      change Spans span (bank.write offset value).state
      rw [write]
      split
      next hinside => exact ⟨h.canonical.set hinside value, h.span_eq⟩
      next => exact h

/-- A word below the span is stored as it is written.  A write that is refused goes to no
such word. -/
theorem storesWord {offset : UInt32} (hoffset : offset < span) :
    StoresWord (Spans span) (fun bank => bank.get offset) (· = offset) where
  keeps := spans_perform
  read bank other _ := congrArg (get · offset) (bank.state_read other)
  write bank other value h := by
    change (bank.write other value).state.get offset = _
    rw [write]
    split
    next => simp [eq_comm]
    next houtside =>
      have hother : other ≠ offset := by
        rintro rfl
        exact houtside (h.span_eq ▸ hoffset)
      simp [hother]
  reset _ := rfl

theorem Spans.result_read (h : Spans span bank) {offset : UInt32} (hoffset : offset < span) :
    (bank.read offset).result = .ok (bank.get offset) := by
  rw [read, if_pos (h.span_eq ▸ hoffset), Reply.result_answer]

/-- **Banks of plain words** after any two sequences of accesses, accepted or not: no word
that is stored is zero or beyond the span, a word reads as it was written last since the
reset, the recorded state lists the words that do not read as zero, and it is the same for
both banks exactly if both read alike. -/
theorem contents_of_runs (span : UInt32) (accesses others : List DeviceAccess) :
    let bank := run ({ span } : WordBank) accesses
    let rival := run ({ span } : WordBank) others
    (∀ entry ∈ bank.words.entries, entry.2 ≠ 0 ∧ entry.1 < span) ∧
    (∀ offset, offset < span →
      (bank.read offset).result = .ok (DeviceAccess.lastWritten (· = offset) accesses)) ∧
    (∃ values, bank.snapshot = .record [("span", .word span), ("values", .record values)] ∧
      ∀ recorded, recorded ∈ values ↔
        ∃ offset, offset < span ∧ bank.get offset ≠ 0 ∧
          recorded = (toString offset.toNat, .word (bank.get offset))) ∧
    (bank.snapshot = rival.snapshot ↔
      ∀ offset, offset < span → (bank.read offset).result = (rival.read offset).result) := by
  intro bank rival
  have h : Spans span bank := kept_of_run spans_perform (spans_fresh span) accesses
  have hrival : Spans span rival := kept_of_run spans_perform (spans_fresh span) others
  refine ⟨h.span_eq ▸ h.canonical.stored, fun offset hoffset => ?_,
    ⟨bank.words.entries.map field, ?_, fun recorded => ?_⟩, ?_⟩
  · rw [h.result_read hoffset]
    exact congrArg Except.ok ((storesWord hoffset).of_run (spans_fresh span) rfl accesses)
  · rw [← h.span_eq]
    rfl
  · rw [h.canonical.mem_fields_iff, h.span_eq]
    rfl
  · rw [snapshot_inj]
    constructor
    · rintro hsame offset -
      rw [hsame]
    · intro hread
      have hspan : bank.span = rival.span := h.span_eq.trans hrival.span_eq.symm
      refine h.canonical.ext hrival.canonical hspan fun offset hinside => ?_
      have hoffset : offset < span := h.span_eq ▸ hinside
      have hresults := hread offset hoffset
      rw [h.result_read hoffset, hrival.result_read hoffset] at hresults
      exact Except.ok.inj hresults

example :
    run ({ span := 0x10 } : WordBank) [.write 4 9, .write 8 1, .write 4 0] =
      run { span := 0x10 } [.write 8 2, .reset, .write 0x10 7, .write 8 1] := by
  decide

end BoardSim.WordBank
