import BoardSim.Size
import Mathlib.Data.List.TakeWhile
import Mathlib.Tactic.ByContra

/-!
# BoardSim.Proofs.Size.Cut

Where an amount of storage is cut into its number and its unit.

The number is as long as the characters at the front that can stand in one (`figures`).
Its length counts characters and the cut counts bytes, so the two meet only where every
one of these characters is a single byte.  Otherwise the cut comes too early.

1. A text breaks off exactly if the cut falls inside a character (`parse_eq_broken_iff`).
2. It never breaks off where the number is written in single bytes (`not_cutsCharacter`).
3. With a wider character in the number it is never read either: it breaks off, or is
   refused for its number (`parse_of_wide`).
-/

namespace BoardSim.Size

open Text

/-! ## texts in bytes -/

/-- How many bytes the characters of a text take. -/
def byteLength : (text : List Char) → Nat
  | [] => 0
  | c :: text => c.utf8Size + byteLength text

@[simp]
theorem byteLength_nil : byteLength [] = 0 := rfl

@[simp]
theorem byteLength_cons (c : Char) (text : List Char) :
    byteLength (c :: text) = c.utf8Size + byteLength text := rfl

theorem length_le_byteLength (text : List Char) : text.length ≤ byteLength text := by
  induction text with
  | nil => exact Nat.le_refl 0
  | cons c text ih =>
      have hpos := c.utf8Size_pos
      rw [List.length_cons, byteLength_cons]
      omega

theorem byteLength_eq_length {text : List Char} (h : ∀ c ∈ text, c.utf8Size = 1) :
    byteLength text = text.length := by
  induction text with
  | nil => rfl
  | cons c text ih =>
      rw [byteLength_cons, List.length_cons, ih fun d hd => h d (List.mem_cons_of_mem c hd),
        h c List.mem_cons_self, Nat.add_comm]

/-! ## cuts -/

/-- Does the place after `count` bytes lie inside a character of the text? -/
def InsideCharacter (count : Nat) (text : List Char) : Prop :=
  ∃ before c after, text = before ++ c :: after ∧
    byteLength before < count ∧ count < byteLength before + c.utf8Size

theorem not_insideCharacter_nil (count : Nat) : ¬InsideCharacter count [] := by
  rintro ⟨before, c, after, htext, -, -⟩
  simp at htext

theorem insideCharacter_cons (count : Nat) (c : Char) (rest : List Char) :
    InsideCharacter count (c :: rest) ↔
      (0 < count ∧ count < c.utf8Size) ∨
        (c.utf8Size ≤ count ∧ InsideCharacter (count - c.utf8Size) rest) := by
  constructor
  · rintro ⟨before, d, after, htext, hlow, hhigh⟩
    cases before with
    | nil =>
        obtain ⟨rfl, rfl⟩ := List.cons.inj htext
        exact .inl ⟨hlow, by simpa using hhigh⟩
    | cons b before =>
        obtain ⟨rfl, rfl⟩ := List.cons.inj htext
        rw [byteLength_cons] at hlow hhigh
        exact .inr ⟨by omega, before, d, after, rfl, by omega, by omega⟩
  · rintro (⟨hlow, hhigh⟩ | ⟨hfit, before, d, after, rfl, hlow, hhigh⟩)
    · exact ⟨[], c, rest, rfl, hlow, by simpa using hhigh⟩
    · exact ⟨c :: before, d, after, rfl, by rw [byteLength_cons]; omega,
        by rw [byteLength_cons]; omega⟩

/-- A text can be cut behind any of its characters. -/
theorem splitAtByte_append (before after : List Char) :
    splitAtByte (byteLength before) (before ++ after) = some (before, after) := by
  induction before with
  | nil => cases after <;> rfl
  | cons c before ih =>
      have hmore : c.utf8Size + byteLength before ≠ 0 :=
        Nat.ne_of_gt (Nat.add_pos_left c.utf8Size_pos _)
      rw [List.cons_append, byteLength_cons, splitAtByte, if_neg hmore,
        if_pos (Nat.le_add_right ..), Nat.add_sub_cancel_left, ih]
      rfl

/-- The first part of a text that is cut has the stated number of bytes. -/
theorem of_splitAtByte_eq_some {count : Nat} {text before after : List Char}
    (h : splitAtByte count text = some (before, after)) :
    text = before ++ after ∧ byteLength before = count := by
  induction text generalizing count before with
  | nil =>
      rw [splitAtByte] at h
      split at h
      next hzero =>
        cases h
        exact ⟨rfl, hzero.symm⟩
      next => cases h
  | cons c rest ih =>
      rw [splitAtByte] at h
      split at h
      next hzero =>
        cases h
        exact ⟨rfl, hzero.symm⟩
      next =>
        split at h
        next hfit =>
          obtain ⟨⟨front, back⟩, hrest, hparts⟩ := Option.map_eq_some_iff.mp h
          cases hparts
          obtain ⟨rfl, hfront⟩ := ih hrest
          exact ⟨rfl, (congrArg (c.utf8Size + ·) hfront).trans (Nat.add_sub_cancel' hfit)⟩
        next => cases h

/-- A place that the text reaches cannot be cut exactly if it lies inside a character. -/
theorem splitAtByte_eq_none_iff {count : Nat} {text : List Char} (h : count ≤ byteLength text) :
    splitAtByte count text = none ↔ InsideCharacter count text := by
  induction text generalizing count with
  | nil =>
      rw [byteLength_nil, Nat.le_zero] at h
      simp [splitAtByte, h, not_insideCharacter_nil]
  | cons c rest ih =>
      have hpos := c.utf8Size_pos
      rw [byteLength_cons] at h
      rw [splitAtByte, insideCharacter_cons]
      split
      next hzero =>
        simp only [reduceCtorEq, false_iff, not_or]
        omega
      next hmore =>
        split
        next hfit =>
          rw [Option.map_eq_none_iff, ih (by omega)]
          simp [hfit, Nat.not_lt.mpr hfit]
        next hwide =>
          simp only [true_iff]
          omega

/-! ## the number -/

/-- The characters at the front that can stand in a number. -/
def figures (text : List Char) : List Char := text.takeWhile isValueChar

theorem figures_append (text : List Char) :
    text = figures text ++ text.dropWhile isValueChar :=
  List.takeWhile_append_dropWhile.symm

theorem length_figures_eq_iff (text : List Char) :
    (figures text).length = text.length ↔ figures text = text :=
  ⟨(List.takeWhile_prefix isValueChar).eq_of_length, congrArg List.length⟩

/-- The cut lies within the number. -/
theorem length_figures_le (text : List Char) : (figures text).length ≤ byteLength text :=
  Nat.le_trans (List.takeWhile_prefix isValueChar).length_le (length_le_byteLength text)

/-- Does the cut between number and unit fall inside a character? -/
def CutsCharacter (text : String) : Prop :=
  figures (trim text.toList) ≠ trim text.toList ∧
    InsideCharacter (figures (trim text.toList)).length (trim text.toList)

theorem split_eq_broken_iff (text : List Char) (defect : Defect) :
    split text = .error (.broken defect) ↔
      defect = .splitInsideCharacter ∧ figures text ≠ text ∧
        InsideCharacter (figures text).length text := by
  have hreach := length_figures_le text
  rw [split, ← figures]
  simp only [length_figures_eq_iff]
  split
  next hempty =>
    obtain rfl := List.isEmpty_iff.mp hempty
    simp [refuse, not_insideCharacter_nil]
  next hsome =>
    split
    next hall => simp [refuse, hall]
    next hrest =>
      split
      next hnone =>
        have hinside : ¬InsideCharacter 0 text := by
          rintro ⟨before, c, after, -, hlow, -⟩
          omega
        simp [refuse, hnone, hinside]
      next hmore =>
        rw [← splitAtByte_eq_none_iff hreach]
        cases splitAtByte (figures text).length text with
        | none => simp [breakOff, hrest, eq_comm]
        | some parts => simp

/-- **Cuts**: reading an amount breaks off exactly if the cut between number and unit falls
inside a character; it has no other defect. -/
theorem parse_eq_broken_iff (text : String) (defect : Defect) :
    parse text = .error (.broken defect) ↔
      defect = .splitInsideCharacter ∧ CutsCharacter text := by
  rw [CutsCharacter, ← split_eq_broken_iff, parse]
  cases split (trim text.toList) with
  | error failure => simp [bind, Except.bind]
  | ok parts =>
      simp only [bind, Except.bind, reduceCtorEq, iff_false]
      cases readValue? parts.1 with
      | none => simp [refuse]
      | some value => cases readUnit? parts.2 <;> simp [refuse]

/-- **Single bytes**: where every character of the number is a single byte, the cut falls
behind the number. -/
theorem not_cutsCharacter {text : String}
    (h : ∀ c ∈ figures (trim text.toList), c.utf8Size = 1) : ¬CutsCharacter text := by
  rintro ⟨-, hinside⟩
  rw [← splitAtByte_eq_none_iff (length_figures_le _)] at hinside
  have hcut := splitAtByte_append (figures (trim text.toList))
    ((trim text.toList).dropWhile isValueChar)
  rw [← figures_append, byteLength_eq_length h] at hcut
  rw [hcut] at hinside
  cases hinside

/-! ## wider characters -/

theorem utf8Size_of_isDigit {c : Char} (h : c.isDigit = true) : c.utf8Size = 1 := by
  rw [Char.utf8Size_eq_one_iff]
  simp only [Char.isDigit, Bool.and_eq_true, decide_eq_true_eq] at h
  exact UInt32.le_trans h.2 (by decide)

/-- What is read as a number has single bytes only. -/
theorem utf8Size_of_readValue? {text : List Char} {value : Binary64}
    (h : readValue? text = some value) : ∀ c ∈ text, c.utf8Size = 1 := by
  rw [readValue?] at h
  split at h
  next hform =>
    simp only [Bool.and_eq_true, List.all_eq_true] at hform
    obtain ⟨⟨hpoint, hpart⟩, -⟩ := hform
    intro c hc
    rw [← List.takeWhile_append_dropWhile (p := Char.isDigit) (l := text),
      List.mem_append] at hc
    obtain hwhole | hrest := hc
    · exact utf8Size_of_isDigit (List.mem_takeWhile_imp hwhole)
    · -- the first character behind the digits is the point, what follows it are digits
      cases hsplit : text.dropWhile Char.isDigit with
      | nil => simp [hsplit] at hrest
      | cons p part =>
          rw [hsplit] at hpoint hpart hrest
          obtain rfl | hmem := List.mem_cons.mp hrest
          · obtain rfl : c = '.' := by simpa using hpoint
            rfl
          · exact utf8Size_of_isDigit (hpart c (by simpa using hmem))
  next => cases h

/-- What is cut off as the number has a wider character if the whole number has one. -/
theorem exists_wide_of_cut {text before after : List Char}
    (hwide : ∃ c ∈ figures text, c.utf8Size ≠ 1)
    (hcut : splitAtByte (figures text).length text = some (before, after)) :
    ∃ c ∈ before, c.utf8Size ≠ 1 := by
  obtain ⟨htext, hlength⟩ := of_splitAtByte_eq_some hcut
  by_contra hnone
  have hnarrow : ∀ c ∈ before, c.utf8Size = 1 := fun c hc =>
    by_contra fun hsize => hnone ⟨c, hc, hsize⟩
  -- a part in single bytes has as many characters as the number, so it would be the number
  rw [byteLength_eq_length hnarrow] at hlength
  have hsame : before = figures text :=
    List.append_inj_left (htext.symm.trans (figures_append text)) hlength
  obtain ⟨c, hc, hsize⟩ := hwide
  exact hsize (hnarrow c (hsame ▸ hc))

/-- **Wider characters**: with a character of several bytes in its number an amount is never
read. It breaks off if the cut falls inside a character, and else is refused for its number. -/
theorem parse_of_wide {text : String} (hunit : figures (trim text.toList) ≠ trim text.toList)
    (hwide : ∃ c ∈ figures (trim text.toList), c.utf8Size ≠ 1) :
    (CutsCharacter text → parse text = breakOff .splitInsideCharacter) ∧
      (¬CutsCharacter text → parse text = refuse .invalidValue) := by
  refine ⟨fun hcuts => (parse_eq_broken_iff text _).mpr ⟨rfl, hcuts⟩, fun hwhole => ?_⟩
  cases hsplit : splitAtByte (figures (trim text.toList)).length (trim text.toList) with
  | none =>
      exact absurd ⟨hunit, (splitAtByte_eq_none_iff (length_figures_le _)).mp hsplit⟩ hwhole
  | some parts =>
      obtain ⟨c, hc, hsize⟩ := exists_wide_of_cut hwide hsplit
      have hvalue : readValue? parts.1 = none := by
        cases hread : readValue? parts.1 with
        | none => rfl
        | some value => exact absurd (utf8Size_of_readValue? hread c hc) hsize
      have hparts : split (trim text.toList) = .ok parts := by
        obtain ⟨d, hd, -⟩ := hwide
        have hsome : (trim text.toList).isEmpty = false :=
          List.isEmpty_eq_false_iff.mpr (List.ne_nil_of_mem
            ((List.takeWhile_prefix isValueChar).mem hd))
        have hmore : (figures (trim text.toList)).length ≠ 0 :=
          Nat.ne_of_gt (List.length_pos_of_mem hd)
        rw [split, ← figures]
        simp only [length_figures_eq_iff, hsome, Bool.false_eq_true, hunit, hmore, if_false, hsplit]
      simp only [parse, hparts, bind, Except.bind, hvalue]

/-- Here the cut falls between the two figures, so the amount is refused. -/
example : parse "½½MiB" = refuse .invalidValue := by decide +kernel

end BoardSim.Size
