import BoardSim.Bus.RangeIndex
import BoardSim.Device.Violation
import BoardSim.FaultPolicy

/-!
# BoardSim.Bus.Fault

How an access to the bus ends, and why a device is not mounted.
-/

namespace BoardSim

/-! ## Accesses -/

/-- Why an access is not served. -/
inductive Fault where
  /-- The device turned it down. -/
  | protocol (cause : Violation)
  /-- No device owns the address. -/
  | unmapped (address : UInt32)
  /-- The address is not a multiple of four. -/
  | unaligned (address : UInt32)
  /-- A fault was asked for. -/
  | injected (address : UInt32)
deriving DecidableEq

/-- The wording of a fault. -/
def Fault.message : Fault → String
  | .protocol cause => "protocol violation: " ++ cause.message
  | .unmapped address => "undefined handler for address " ++ Text.hexWord address.toNat
  | .unaligned address => "unaligned word access at " ++ Text.hexWord address.toNat
  | .injected address => "injected fault on access to " ++ Text.hexWord address.toNat

/-- How an access ends. -/
inductive Outcome (α : Type) where
  /-- It is served. -/
  | served (value : α)
  /-- It faults, and the caller is told. -/
  | fault (cause : Fault)
  /-- It faults, and the simulation ends. -/
  | ended (cause : Fault)
  /-- It breaks off. -/
  | crashed (defect : Defect)

/-- How a fault ends an access under a policy. -/
def FaultPolicy.onFault {α : Type} (policy : FaultPolicy) (cause : Fault) : Outcome α :=
  match policy with
  | .abort => .ended cause
  | .error => .fault cause

/-- How a device's result ends an access. -/
def FaultPolicy.conclude {α : Type} (policy : FaultPolicy) :
    Except (Failure Violation) α → Outcome α
  | .ok value => .served value
  | .error (.refused cause) => policy.onFault (.protocol cause)
  | .error (.broken defect) => .crashed defect

/-! ## Mounting -/

/-- Why a range is not given to a device. -/
inductive MountError where
  /-- The range shares addresses with that of a mounted device. -/
  | overlapping (name : String) (range : AddressRange) (other : String)
  /-- The range has no addresses. -/
  | empty (name : String) (base : UInt32)
deriving DecidableEq

/-- The wording of an error. -/
def MountError.message : MountError → String
  | .overlapping name range other =>
    "address range " ++ Text.hexWord range.base.toNat ++ "+" ++ Text.hex range.span.toNat ++
      " of '" ++ name ++ "' overlaps '" ++ other ++ "'"
  | .empty name base =>
    "address range of '" ++ name ++ "' at " ++ Text.hexWord base.toNat ++ " is empty"

end BoardSim
