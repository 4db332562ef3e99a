import BoardSim.SortedMap

/-!
# BoardSim.Bus.Observer

Observers of the traffic on a bus.

A *tally* counts accesses by kind and by address, a *trace* lists them. An observer
that is detached keeps what it has seen.
-/

namespace BoardSim

/-- The kind of an access. -/
inductive AccessKind where
  | read
  | write
deriving DecidableEq

/-- The kind's name in records. -/
def AccessKind.name : AccessKind → String
  | .read => "read"
  | .write => "write"

/-- An access as observers see it: before it is served, and with the value zero for a
read. -/
structure Access where
  kind : AccessKind
  address : UInt32
  value : UInt32
deriving DecidableEq

/-- Counts of accesses. -/
structure Tally where
  reads : Nat := 0
  writes : Nat := 0
  byAddress : SortedMap UInt32 Nat := .empty
deriving DecidableEq

namespace Tally

/-- How many accesses went to an address. -/
def count (tally : Tally) (address : UInt32) : Nat := (tally.byAddress.get? address).getD 0

/-- Count one more access. -/
def note (tally : Tally) (access : Access) : Tally where
  reads := tally.reads + if access.kind = .read then 1 else 0
  writes := tally.writes + if access.kind = .write then 1 else 0
  byAddress := tally.byAddress.insert access.address (tally.count access.address + 1)

end Tally

/-- What an observer records. -/
inductive Record where
  | tally (counts : Tally)
  /-- The accesses, oldest first. -/
  | trace (accesses : List Access)
deriving DecidableEq

namespace Record

/-- Record one more access. -/
def note (access : Access) : Record → Record
  | .tally counts => .tally (counts.note access)
  | .trace accesses => .trace (accesses ++ [access])

/-- Forget all accesses. -/
def clear : Record → Record
  | .tally _ => .tally {}
  | .trace _ => .trace []

end Record

/-- An observer: its record, and whether it is attached to the bus. -/
structure Observer where
  record : Record
  attached : Bool := true
deriving DecidableEq

/-- The observer after an access. -/
def Observer.note (access : Access) (observer : Observer) : Observer :=
  if observer.attached then { observer with record := observer.record.note access } else observer

end BoardSim
