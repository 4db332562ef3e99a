import BoardSim.Bits
import BoardSim.Device.Violation
import BoardSim.Snapshot

/-!
# BoardSim.Device.Timers

A bank of three countdown timers.

A timer counts lazily: a read turns the time since the last decrement into whole
ticks, takes them off, and restarts the reference at the instant of the read, so
that the fraction of a tick that is left over is lost. A timer that runs out stays
active with nothing remaining until it is written.
-/

namespace BoardSim

/-- One countdown timer. -/
structure Timer where
  active : Bool := false
  /-- The ticks that remain. -/
  remaining : Nat := 0
  /-- The clock reading that the next decrement counts from, in nanoseconds. -/
  reference : Nat := 0
deriving DecidableEq

namespace Timer

/-- The bit of a timer's word that says it is active; the bits below it hold the
remaining ticks, those above it are not used. -/
def activeBit : Nat := 19

/-- The timer as a word. -/
def word (timer : Timer) : UInt32 :=
  UInt32.ofNat ((if timer.active then 1 <<< activeBit else 0) + timer.remaining)

/-- Does time pass for the timer? -/
def isRunning (timer : Timer) : Bool := timer.active && 0 < timer.remaining

/-- The timer brought up to the clock reading `now`. -/
def catchUp (timer : Timer) (tick now : Nat) : Timer :=
  if timer.isRunning then
    let ticks := (now - timer.reference) / tick
    if timer.remaining ≤ ticks then { timer with remaining := 0 }
    else if 0 < ticks then { timer with remaining := timer.remaining - ticks, reference := now }
    else timer
  else timer

/-- The timer after a word is written to it; if it counts then, it does so from
`now` on. -/
def rewrite (timer : Timer) (value : UInt32) (now : Nat) : Timer :=
  let written : Timer :=
    { timer with active := hasBit value activeBit, remaining := value.toNat % (1 <<< activeBit) }
  if written.isRunning then { written with reference := now } else written

end Timer

/-- A bank of timers with a common tick. -/
structure Timers where
  timers : List Timer
  /-- The length of a tick in nanoseconds, at least one. -/
  tick : Nat
deriving DecidableEq

namespace Timers

/-- How many timers a bank has. -/
def timerCount : Nat := 3

/-- How many nanoseconds a millisecond has. -/
def nanosPerMilli : Nat := 1000000

/-- The standard tick, 20 milliseconds. -/
def standardTick : Nat := 20 * nanosPerMilli

/-- A bank at power-up. A tick of no length counts as one nanosecond. -/
def fresh (nanos : Nat) : Timers where
  timers := List.replicate timerCount {}
  tick := max nanos 1

/-- Read the timer at an index, brought up to the clock reading. -/
def readTimer (bank : Timers) (now : UInt64) (index : Nat) : Reply Timers UInt32 :=
  match bank.timers[index]? with
  | none => .crash bank .noSuchTimer
  | some timer =>
    let current := timer.catchUp bank.tick now.toNat
    .answer { bank with timers := bank.timers.set index current } current.word

/-- The index of the timer at an offset; each takes a word. -/
def indexOf? (offset : UInt32) : Option Nat :=
  if offset.toNat / 4 < timerCount then some (offset.toNat / 4) else none

/-- Read a timer. -/
def read (bank : Timers) (now : UInt64) (offset : UInt32) : Reply Timers UInt32 :=
  match indexOf? offset with
  | none => .decline bank (.noRegister .timers offset)
  | some index => bank.readTimer now index

/-- Write a timer. -/
def write (bank : Timers) (now : UInt64) (offset value : UInt32) : Reply Timers Unit :=
  match indexOf? offset with
  | none => .decline bank (.noRegister .timers offset)
  | some index =>
    match bank.timers[index]? with
    | none => .crash bank .noSuchTimer
    | some timer =>
      .accept { bank with timers := bank.timers.set index (timer.rewrite value now.toNat) }

/-- The bank at power-up, with the same tick. -/
def reset (bank : Timers) : Timers :=
  { bank with timers := List.replicate timerCount {} }

/-- The words of the timers, as they were at the last access. -/
def snapshot (bank : Timers) : Snapshot :=
  .record [("timers", .list (bank.timers.map fun t => .record [("value", .word t.word)]))]

end Timers

end BoardSim
