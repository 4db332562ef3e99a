import BoardSim.Device.Violation
import BoardSim.Snapshot
import BoardSim.SortedMap

/-!
# BoardSim.Device.WordBank

A plain block of words without side effects.
-/

namespace BoardSim

/-- A block of `span` bytes of plain words. -/
structure WordBank where
  span : UInt32
  words : SortedMap UInt32 UInt32 := .empty
deriving DecidableEq

namespace WordBank

/-- The word at an offset; one never written is zero. -/
def get (bank : WordBank) (offset : UInt32) : UInt32 := bank.words.word offset

/-- The bank with a word replaced, whatever the span. -/
def set (bank : WordBank) (offset value : UInt32) : WordBank :=
  { bank with words := bank.words.setWord offset value }

@[simp] theorem get_set (bank : WordBank) (offset value other : UInt32) :
    (bank.set offset value).get other = if other = offset then value else bank.get other :=
  bank.words.word_setWord offset value other

/-- The bank with all words zero. -/
def clear (bank : WordBank) : WordBank := { bank with words := .empty }

/-- Read the word at an offset below the span. -/
def read (bank : WordBank) (offset : UInt32) : Reply WordBank UInt32 :=
  if offset < bank.span then .answer bank (bank.get offset)
  else .decline bank (.outsideWordBank offset bank.span)

/-- Write the word at an offset below the span. -/
def write (bank : WordBank) (offset value : UInt32) : Reply WordBank Unit :=
  if offset < bank.span then .accept (bank.set offset value)
  else .decline bank (.outsideWordBank offset bank.span)

/-- The span, and the stored words under their offsets in decimal. -/
def snapshot (bank : WordBank) : Snapshot :=
  .record
    [("span", .word bank.span),
     ("values", .record (bank.words.entries.map fun e => (toString e.1.toNat, .word e.2)))]

end WordBank

end BoardSim
