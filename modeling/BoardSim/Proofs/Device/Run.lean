import BoardSim.Device.Violation

/-!
# BoardSim.Proofs.Device.Run

Runs of a single device: sequences of register reads, register writes and
resets, in any order, with any of them turned down.

What a run amounts to is told by the accesses that were carried out
(`accepted`).  A record that is kept of them stays in step with the device if
each single access keeps the two in step (`related_of_step`), so that every
statement about all runs is proved from a statement about one access.
-/

namespace BoardSim

/-! ## replies -/

namespace Reply

variable {σ τ α : Type}

@[simp] theorem result_answer (state : σ) (value : α) : (answer state value).result = .ok value :=
  rfl

@[simp] theorem state_answer (state : σ) (value : α) : (answer state value).state = state := rfl

@[simp] theorem result_accept (state : σ) : (accept state).result = .ok () := rfl

@[simp] theorem state_accept (state : σ) : (accept state).state = state := rfl

@[simp] theorem result_decline (state : σ) (cause : Violation) :
    (decline state cause : Reply σ α).result = refuse cause := rfl

@[simp] theorem state_decline (state : σ) (cause : Violation) :
    (decline state cause : Reply σ α).state = state := rfl

@[simp] theorem result_crash (state : σ) (defect : Defect) :
    (crash state defect : Reply σ α).result = breakOff defect := rfl

@[simp] theorem state_crash (state : σ) (defect : Defect) :
    (crash state defect : Reply σ α).state = state := rfl

@[simp] theorem result_mapState (f : σ → τ) (reply : Reply σ α) :
    (reply.mapState f).result = reply.result := rfl

@[simp] theorem state_mapState (f : σ → τ) (reply : Reply σ α) :
    (reply.mapState f).state = f reply.state := rfl

end Reply

@[simp] theorem isOk_ok {ε α : Type} (value : α) : (Except.ok value : Except ε α).isOk = true := rfl

@[simp] theorem isOk_refuse {ε α : Type} (cause : ε) :
    (refuse cause : Except (Failure ε) α).isOk = false := rfl

@[simp] theorem isOk_breakOff {ε α : Type} (defect : Defect) :
    (breakOff defect : Except (Failure ε) α).isOk = false := rfl

@[simp] theorem isOk_map {ε α β : Type} (f : α → β) (result : Except ε α) :
    (result.map f).isOk = result.isOk := by
  cases result <;> rfl

/-! ## accesses -/

/-- An access to a device: a register is read, a register is written, or the
device is reset. -/
inductive DeviceAccess where
  | read (offset : UInt32)
  | write (offset value : UInt32)
  | reset
deriving DecidableEq

/-- Devices whose accesses depend on their own state alone. -/
class RegisterDevice (σ : Type) where
  readAt : σ → (offset : UInt32) → Reply σ UInt32
  writeAt : σ → (offset value : UInt32) → Reply σ Unit
  powerUp : σ → σ

namespace RegisterDevice

variable {σ : Type} [RegisterDevice σ]

/-- Carry out an access; a read gives a word. -/
def perform (device : σ) : DeviceAccess → Reply σ (Option UInt32)
  | .read offset => ⟨(readAt device offset).result.map some, (readAt device offset).state⟩
  | .write offset value =>
      ⟨(writeAt device offset value).result.map fun _ => none, (writeAt device offset value).state⟩
  | .reset => ⟨.ok none, powerUp device⟩

/-- The device after a sequence of accesses. -/
def run (device : σ) (accesses : List DeviceAccess) : σ :=
  accesses.foldl (fun device access => (perform device access).state) device

/-- What the accesses of a sequence give, in order. -/
def results (device : σ) : List DeviceAccess → List (Except (Failure Violation) (Option UInt32))
  | [] => []
  | access :: rest =>
      (perform device access).result :: results (perform device access).state rest

/-- The accesses of a sequence that were carried out, in order. -/
def accepted (device : σ) : List DeviceAccess → List DeviceAccess
  | [] => []
  | access :: rest =>
      if (perform device access).result.isOk then
        access :: accepted (perform device access).state rest
      else accepted (perform device access).state rest

@[simp] theorem run_nil (device : σ) : run device [] = device := rfl

@[simp] theorem run_cons (device : σ) (access : DeviceAccess) (rest : List DeviceAccess) :
    run device (access :: rest) = run (perform device access).state rest := rfl

/-- **Runs from steps**: if an accepted access keeps a record in step with the
device when it is noted, and a refused one when it is not, then so does a whole
run. -/
theorem related_of_step {ρ : Type} (note : ρ → DeviceAccess → ρ) (Related : ρ → σ → Prop)
    (hstep : ∀ record device access, Related record device →
      Related (if (perform device access).result.isOk then note record access else record)
        (perform device access).state)
    (accesses : List DeviceAccess) {record : ρ} {device : σ} (h : Related record device) :
    Related ((accepted device accesses).foldl note record) (run device accesses) := by
  induction accesses generalizing record device with
  | nil => exact h
  | cons access rest ih =>
      have hnext := hstep record device access h
      rw [accepted, run_cons]
      cases hok : (perform device access).result.isOk
      · rw [hok] at hnext
        exact ih hnext
      · rw [hok] at hnext
        exact ih hnext

end RegisterDevice

end BoardSim
