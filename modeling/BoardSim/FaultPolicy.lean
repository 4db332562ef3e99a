import BoardSim.Text.Blank

/-!
# BoardSim.FaultPolicy

What the bus does about an access that cannot be served: end the simulation, or
hand the fault to the caller.
-/

namespace BoardSim

/-- What becomes of a fault. -/
inductive FaultPolicy where
  /-- The simulation ends at the first fault. -/
  | abort
  /-- The fault is the result of the access, and the simulation goes on. -/
  | error
deriving DecidableEq

namespace FaultPolicy

/-- The policy's name. -/
def name : FaultPolicy → String
  | .abort => "abort"
  | .error => "error"

/-- The environment variable that holds the policy where no one states it. -/
def variableName : String := "PFRSIM_FAULT_POLICY"

/-- A text that names no policy. -/
structure Unknown where
  text : String
deriving DecidableEq

/-- The wording of the refusal. -/
def Unknown.message (e : Unknown) : String :=
  "unsupported fault policy '" ++ e.text ++ "'; supported: abort, error"

/-- The policy that a word in lower case names. -/
def ofWord? : String → Option FaultPolicy
  | "abort" | "panic" | "crash" => some .abort
  | "error" | "raise" | "catch" => some .error
  | _ => none

/-- Read a policy, without regard to outer white space and to the case of ASCII
letters. -/
def parse (text : String) : Except Unknown FaultPolicy :=
  match ofWord? (String.ofList ((Text.trim text.toList).map Char.toLower)) with
  | some policy => .ok policy
  | none => .error ⟨text⟩

/-- The policy that the environment variable states. Where it is unset or names
no policy, a fault ends the simulation. -/
def ofEnvironment : Option String → FaultPolicy
  | none => .abort
  | some text =>
    match parse text with
    | .ok policy => policy
    | .error _ => .abort

end FaultPolicy

end BoardSim
