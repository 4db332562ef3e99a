import BoardSim.Bits
import BoardSim.Device.Violation
import BoardSim.Snapshot
import BoardSim.SortedMap

/-!
# BoardSim.Device.PageMap

The map of the flash pages that the host may write, one bit for each page of 4096
bytes. It records the firmware's choice and enforces nothing.
-/

namespace BoardSim

open Flash (Chip)

/-- The map of one chip. -/
structure PageMap where
  chip : Chip
  /-- How many words the map has. -/
  wordCount : Nat
  words : SortedMap Nat UInt32 := .empty
deriving DecidableEq

namespace PageMap

/-- How many bytes a page has. -/
def pageSize : Nat := 0x1000

/-- How many pages a word covers. -/
def pagesPerWord : Nat := 32

/-- A map without writable pages that takes `span` bytes of addresses. -/
def fresh (chip : Chip) (span : UInt32) : PageMap where
  chip := chip
  wordCount := span.toNat / 4

/-- The word at an index. -/
def get (map : PageMap) (index : Nat) : UInt32 := map.words.word index

/-- The map with a word replaced. -/
def set (map : PageMap) (index : Nat) (value : UInt32) : PageMap :=
  { map with words := map.words.setWord index value }

@[simp] theorem get_set (map : PageMap) (index : Nat) (value : UInt32) (other : Nat) :
    (map.set index value).get other = if other = index then value else map.get other :=
  map.words.word_setWord index value other

/-- May the host write the page of this flash offset? -/
def isWritable (map : PageMap) (flashOffset : Nat) : Bool :=
  let page := flashOffset / pageSize
  page / pagesPerWord < map.wordCount &&
    hasBit (map.get (page / pagesPerWord)) (page % pagesPerWord)

/-- How many pages the host may write. -/
def writablePages (map : PageMap) : Nat :=
  (map.words.entries.map fun entry => bitCount entry.2).foldr (· + ·) 0

/-- The cause of the refusal at an offset outside the map. -/
def outside (map : PageMap) (offset : UInt32) : Violation :=
  .outsidePageMap offset (4 * map.wordCount)

/-- Read a word. -/
def read (map : PageMap) (offset : UInt32) : Reply PageMap UInt32 :=
  if offset.toNat / 4 < map.wordCount then .answer map (map.get (offset.toNat / 4))
  else .decline map (map.outside offset)

/-- Write a word. -/
def write (map : PageMap) (offset value : UInt32) : Reply PageMap Unit :=
  if offset.toNat / 4 < map.wordCount then .accept (map.set (offset.toNat / 4) value)
  else .decline map (map.outside offset)

/-- The map without writable pages. -/
def reset (map : PageMap) : PageMap := { map with words := .empty }

/-- The chip and the number of writable pages. -/
def snapshot (map : PageMap) : Snapshot :=
  .record [("device", .text map.chip.name), ("writable_pages", .number map.writablePages)]

end PageMap

end BoardSim
