/-!
# BoardSim.Bus.RangeIndex

Which device owns an address.

An address range is a base and a span. The index holds ranges with the slots of their
owners, in ascending order of their bases; `insert` accepts a range only if it is not
empty and touches no other, so that at most one range contains an address. A look-up
need then look at one candidate only: the last range that begins at or below the
address.
-/

namespace BoardSim

/-! ## Ranges -/

/-- A range of bus addresses. -/
structure AddressRange where
  base : UInt32
  span : UInt32
deriving DecidableEq

namespace AddressRange

/-- The address after the last one, which may be `2 ^ 32`. -/
def stop (range : AddressRange) : Nat := range.base.toNat + range.span.toNat

/-- Does the range have no addresses? -/
def isEmpty (range : AddressRange) : Bool := range.span = 0

/-- Does the range contain the address? -/
def contains (range : AddressRange) (address : UInt32) : Bool :=
  range.base.toNat ≤ address.toNat && address.toNat < range.stop

theorem contains_iff (range : AddressRange) (address : UInt32) :
    range.contains address = true ↔
      range.base.toNat ≤ address.toNat ∧ address.toNat < range.stop := by
  simp [contains]

/-- Does each range begin before the other stops? -/
def overlaps (a b : AddressRange) : Bool := a.base.toNat < b.stop && b.base.toNat < a.stop

theorem overlaps_comm (a b : AddressRange) : a.overlaps b = b.overlaps a := Bool.and_comm ..

end AddressRange

/-! ## The index -/

/-- A range and the slot of its owner. -/
structure RangeIndex.Region where
  range : AddressRange
  slot : Nat
deriving DecidableEq

/-- The ranges that are taken, in ascending order of their bases. -/
structure RangeIndex where
  regions : List RangeIndex.Region := []
deriving DecidableEq

namespace RangeIndex

/-- Why a range is not accepted. -/
inductive Conflict where
  /-- It has no addresses. -/
  | empty
  /-- It shares addresses with the range of this slot. -/
  | overlaps (slot : Nat)
deriving DecidableEq

/-- The index without ranges. -/
def empty : RangeIndex := ⟨[]⟩

/-- How many ranges the index has. -/
def size (index : RangeIndex) : Nat := index.regions.length

/-- Does the region begin before this base? -/
def Region.startsBelow (base : UInt32) (region : Region) : Bool :=
  region.range.base.toNat < base.toNat

/-- The two regions that a range from `base` on can collide with: the last one that
begins below, and the first one that does not. -/
def neighbours (index : RangeIndex) (base : UInt32) : List Region :=
  (index.regions.takeWhile (Region.startsBelow base)).getLast?.toList ++
    (index.regions.dropWhile (Region.startsBelow base)).head?.toList

/-- Add a range for a slot. -/
def insert (index : RangeIndex) (range : AddressRange) (slot : Nat) : Except Conflict RangeIndex :=
  if range.isEmpty then .error .empty
  else
    match (index.neighbours range.base).find? fun region => region.range.overlaps range with
    | some region => .error (.overlaps region.slot)
    | none =>
      .ok ⟨index.regions.takeWhile (Region.startsBelow range.base) ++
        ⟨range, slot⟩ :: index.regions.dropWhile (Region.startsBelow range.base)⟩

/-- The slot whose range contains the address. -/
def lookup (index : RangeIndex) (address : UInt32) : Option Nat :=
  match (index.regions.takeWhile fun region =>
      region.range.base.toNat ≤ address.toNat).getLast? with
  | some region => if region.range.contains address then some region.slot else none
  | none => none

end RangeIndex

end BoardSim
