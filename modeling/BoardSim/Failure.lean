/-!
# BoardSim.Failure

How an operation of the simulator ends when it gives no value.

A *refusal* is part of the contract: the operation turned its input down for a
cause that the caller is told. A *defect* is not: an assumption that the
operation rests on does not hold, so it breaks off where it stands. The two are
kept apart because only the absence of defects is a property of the simulator
itself; refusals belong to its inputs.
-/

namespace BoardSim

/-- An assumption of the simulator that turned out not to hold. -/
inductive Defect where
  /-- A text is to be cut at a byte that lies inside a character. -/
  | splitInsideCharacter
  /-- The index of ranges names a mount that the bus does not have. -/
  | noSuchMount
  /-- A timer index reaches past the bank. -/
  | noSuchTimer
  /-- More message bytes were taken in than the announced length. -/
  | inputPastLength
  /-- An operand arrived after the last operand slot was filled. -/
  | operandPastSlots
  /-- The serial memory's address register points past its store. -/
  | addressPastStore
  /-- A register index reaches past the register bank. -/
  | registerPastBank
deriving DecidableEq

/-- Why an operation gave no value. -/
inductive Failure (ε : Type) where
  /-- The input was turned down for this cause. -/
  | refused (cause : ε)
  /-- The operation broke off at this defect. -/
  | broken (defect : Defect)
deriving DecidableEq

namespace Failure

/-- The same failure, with its cause read as part of a wider one. -/
def mapCause {ε δ : Type} (f : ε → δ) : Failure ε → Failure δ
  | .refused cause => .refused (f cause)
  | .broken defect => .broken defect

end Failure

/-- Turn the input down for `cause`. -/
def refuse {ε α : Type} (cause : ε) : Except (Failure ε) α := .error (.refused cause)

/-- Break off at `defect`. -/
def breakOff {ε α : Type} (defect : Defect) : Except (Failure ε) α := .error (.broken defect)

end BoardSim
