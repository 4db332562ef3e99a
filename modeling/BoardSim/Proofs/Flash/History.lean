import BoardSim.Flash.Image

/-!
# BoardSim.Proofs.Flash.History

The bytes of the flash chips, told from what happened to them.

A change either *supplies* a byte, whatever stood there before, or *programs* one
over it, which can only clear bits.  After a history of changes a byte is the one
that was supplied last, the erased byte if none was, with each byte that was
programmed since cleared into it (`content`).

The operations on images are changes in this sense (`Pair.Changed`), and what
single operations change adds up over a sequence of them (`Pair.Changed.trans`).
-/

namespace BoardSim.Flash

/-! ## changes -/

/-- Something that happened to the flash chips. -/
inductive Change where
  /-- Both chips were erased as a whole. -/
  | cleared
  | erased (target : Chip) (start length : Nat)
  | loaded (target : Chip) (start : Nat) (bytes : List UInt8)
  | programmed (target : Chip) (start : Nat) (word : UInt32)
deriving DecidableEq

namespace Change

/-- The byte that a change puts at an offset, whatever stood there. -/
def supplied? (chip : Chip) (offset : Nat) : Change → Option UInt8
  | .cleared => some erasedByte
  | .erased target start length =>
      if target = chip ∧ start ≤ offset ∧ offset < start + length then some erasedByte else none
  | .loaded target start bytes =>
      if target = chip ∧ start ≤ offset then bytes[offset - start]? else none
  | .programmed .. => none

/-- The byte that a change programs over what stands at an offset. -/
def programmed? (chip : Chip) (offset : Nat) : Change → Option UInt8
  | .programmed target start word =>
      if target = chip ∧ start ≤ offset then (Bytes.ofWord word)[offset - start]? else none
  | _ => none

/-- What a change makes of the byte at an offset. -/
def byteAfter (chip : Chip) (offset : Nat) (byte : UInt8) (change : Change) : UInt8 :=
  match change.supplied? chip offset, change.programmed? chip offset with
  | some new, _ => new
  | none, some new => byte &&& new
  | none, none => byte

/-! ## histories -/

/-- The byte that was supplied last at an offset. -/
def lastSupplied (chip : Chip) (offset : Nat) (history : List Change) : UInt8 :=
  (history.reverse.findSome? (supplied? chip offset)).getD erasedByte

/-- The bytes that were programmed at an offset since, oldest first. -/
def programmedSince (chip : Chip) (offset : Nat) (history : List Change) : List UInt8 :=
  (history.reverse.takeWhile fun change => (change.supplied? chip offset).isNone).reverse.filterMap
    (programmed? chip offset)

/-- The byte at an offset after a history of changes to erased chips. -/
def content (chip : Chip) (offset : Nat) (history : List Change) : UInt8 :=
  (programmedSince chip offset history).foldl (· &&& ·) (lastSupplied chip offset history)

variable (chip : Chip) (offset : Nat)

theorem content_nil : content chip offset [] = erasedByte := rfl

theorem content_concat (history : List Change) (change : Change) :
    content chip offset (history ++ [change]) =
      change.byteAfter chip offset (content chip offset history) := by
  rw [content, lastSupplied, programmedSince, List.reverse_concat, List.findSome?_cons,
    List.takeWhile_cons, byteAfter]
  cases hsupplied : change.supplied? chip offset with
  | some new => simp
  | none =>
      cases hprogrammed : change.programmed? chip offset with
      | some new =>
          simp [hprogrammed, content, programmedSince, lastSupplied, List.filterMap_append]
      | none => simp [hprogrammed, content, programmedSince, lastSupplied, List.filterMap_append]

theorem content_append (history later : List Change) :
    content chip offset (history ++ later) =
      later.foldl (byteAfter chip offset) (content chip offset history) := by
  induction later generalizing history with
  | nil => rw [List.append_nil, List.foldl_nil]
  | cons change rest ih =>
      rw [List.append_cons, ih, content_concat, List.foldl_cons]

theorem byteAfter_and {change : Change} (h : change.supplied? chip offset = none) (byte : UInt8) :
    change.byteAfter chip offset byte &&& byte = change.byteAfter chip offset byte := by
  rw [byteAfter, h]
  cases change.programmed? chip offset with
  | some new =>
      show byte &&& new &&& byte = byte &&& new
      rw [UInt8.and_comm byte new, UInt8.and_assoc, UInt8.and_self]
  | none => exact UInt8.and_self

/-- As long as no byte is supplied, bits are only cleared. -/
theorem foldl_byteAfter_and {later : List Change}
    (h : ∀ change ∈ later, change.supplied? chip offset = none) (byte : UInt8) :
    later.foldl (byteAfter chip offset) byte &&& byte =
      later.foldl (byteAfter chip offset) byte := by
  induction later generalizing byte with
  | nil => exact UInt8.and_self
  | cons change rest ih =>
      rw [List.forall_mem_cons] at h
      have hstep := byteAfter_and chip offset h.1 byte
      have hrest := ih h.2 (change.byteAfter chip offset byte)
      rw [List.foldl_cons, ← hrest, UInt8.and_assoc, hstep]

end Change

/-! ## the chips after changes -/

theorem Pair.image_withImage (pair : Pair) (image : Image) (chip other : Chip) :
    (pair.withImage image chip).image other = if other = chip then image else pair.image other := by
  cases chip <;> cases other <;> rfl

/-- The chips `after` are the chips `before`, as the changes leave them. -/
structure Pair.Changed (changes : List Change) (before after : Pair) : Prop where
  size : ∀ chip, (after.image chip).size = (before.image chip).size
  byte : ∀ chip offset, offset < (before.image chip).size →
    (after.image chip).byte offset =
      changes.foldl (Change.byteAfter chip offset) ((before.image chip).byte offset)

namespace Pair

variable {before between after pair : Pair}

theorem changed_nil (pair : Pair) : Changed [] pair pair where
  size := fun _ => rfl
  byte := fun _ _ _ => rfl

theorem Changed.trans {first second : List Change} (hfirst : Changed first before between)
    (hsecond : Changed second between after) : Changed (first ++ second) before after where
  size := fun chip => (hsecond.size chip).trans (hfirst.size chip)
  byte := by
    intro chip offset hoffset
    have hbetween : offset < (between.image chip).size := by rwa [hfirst.size]
    rw [hsecond.byte chip offset hbetween, hfirst.byte chip offset hoffset, List.foldl_append]

/-- A change of one chip. -/
theorem changed_withImage {chip : Chip} {image : Image} {change : Change}
    (hsize : image.size = (pair.image chip).size)
    (hbyte : ∀ offset, offset < (pair.image chip).size →
      image.byte offset = change.byteAfter chip offset ((pair.image chip).byte offset))
    (hother : ∀ other, other ≠ chip → ∀ offset byte, change.byteAfter other offset byte = byte) :
    Changed [change] pair (pair.withImage image chip) where
  size := by
    intro other
    rw [image_withImage]
    split
    next heq => rw [heq, hsize]
    next => rfl
  byte := by
    intro other offset hoffset
    rw [image_withImage, List.foldl_cons, List.foldl_nil]
    split
    next heq =>
      subst heq
      exact hbyte offset hoffset
    next hne => rw [hother other hne]

theorem changed_programWord {chip : Chip} {start : Nat} {word : UInt32} {image : Image}
    (h : (pair.image chip).programWord? start word = some image) :
    Changed [.programmed chip start word] pair (pair.withImage image chip) := by
  rw [Image.programWord?, Option.ite_none_right_eq_some] at h
  obtain ⟨-, hsome⟩ := h
  obtain rfl := Option.some.inj hsome
  refine changed_withImage (Image.size_overlay ..) ?_ ?_
  · intro offset hoffset
    rw [Image.byte_overlay _ _ hoffset]
    simp only [Change.byteAfter, Change.supplied?, Change.programmed?, true_and]
    split
    next => cases (Bytes.ofWord word)[offset - start]? <;> rfl
    next => rfl
  · intro other hne offset byte
    simp [Change.byteAfter, Change.supplied?, Change.programmed?, hne.symm]

theorem changed_erase {chip : Chip} {start length : Nat} {image : Image}
    (h : (pair.image chip).erase? start length = some image) :
    Changed [.erased chip start length] pair (pair.withImage image chip) := by
  rw [Image.erase?, Image.fill?, Option.ite_none_right_eq_some] at h
  obtain ⟨-, hsome⟩ := h
  obtain rfl := Option.some.inj hsome
  refine changed_withImage rfl ?_ ?_
  · intro offset hoffset
    have hreached : offset < Cells.capacity (pair.image chip).height :=
      Nat.lt_trans hoffset (Cells.lt_capacity_log2 _)
    have hfill := Cells.get_fill hreached (pair.image chip).cells start (start + length) erasedByte
    refine hfill.trans ?_
    simp only [Change.byteAfter, Change.supplied?, Change.programmed?, true_and]
    split <;> simp_all [Image.byte]
  · intro other hne offset byte
    simp [Change.byteAfter, Change.supplied?, Change.programmed?, hne.symm]

theorem changed_load {chip : Chip} {start : Nat} {bytes : List UInt8} {image : Image}
    (h : (pair.image chip).load? start bytes = some image) :
    Changed [.loaded chip start bytes] pair (pair.withImage image chip) := by
  rw [Image.load?, Option.ite_none_right_eq_some] at h
  obtain ⟨-, hsome⟩ := h
  obtain rfl := Option.some.inj hsome
  refine changed_withImage (Image.size_overlay ..) ?_ ?_
  · intro offset hoffset
    rw [Image.byte_overlay _ _ hoffset]
    simp only [Change.byteAfter, Change.supplied?, Change.programmed?, true_and]
    split
    next => cases bytes[offset - start]? <;> rfl
    next => rfl
  · intro other hne offset byte
    simp [Change.byteAfter, Change.supplied?, Change.programmed?, hne.symm]

theorem byte_erased (size offset : Nat) : (Image.erased size).byte offset = erasedByte :=
  Cells.get_uniform ..

theorem changed_reset (pair : Pair) : Changed [.cleared] pair pair.reset where
  size := by
    intro chip
    cases chip <;> rfl
  byte := by
    intro chip offset _
    have hcleared : ([Change.cleared].foldl (Change.byteAfter chip offset)
        ((pair.image chip).byte offset)) = erasedByte := rfl
    rw [hcleared]
    cases chip with
    | bmc => exact byte_erased _ _
    | pch => exact byte_erased _ _

/-- Erased chips hold after some changes what the history of these tells. -/
theorem Changed.content {bmcSize pchSize : Nat} {changes : List Change}
    (h : Changed changes (erased bmcSize pchSize) after) {chip : Chip} {offset : Nat}
    (hoffset : offset < (after.image chip).size) :
    (after.image chip).byte offset = Change.content chip offset changes := by
  have herased : ((erased bmcSize pchSize).image chip).byte offset = erasedByte := by
    cases chip with
    | bmc => exact byte_erased _ _
    | pch => exact byte_erased _ _
  rw [h.byte chip offset (by rwa [← h.size]), herased, ← Change.content_nil chip offset,
    ← Change.content_append, List.nil_append]

end Pair

end BoardSim.Flash
