import BoardSim.Proofs.Platform.Construction
import BoardSim.Proofs.Size.Cut

/-!
# BoardSim.Proofs.Platform.SizeTexts

What the size texts of a manifest can do to a board.

A manifest's sizes are texts, and any text may stand there.  A text that is not a size is
to be refused, but a text whose number has characters of several bytes may be cut inside
one of them, and then the operation breaks off (`Size.CutsCharacter`).  This is the only
defect there is: how it reaches the check of a manifest and the building of a board is
told exactly, defect for defect (`size_texts`).
-/

namespace BoardSim

open Flash (Chip)
open Size (CutsCharacter)

/-! ## defects through a sequence -/

namespace Failure

variable {ε δ α β : Type}

theorem mapError_eq_broken_iff (f : ε → δ) (result : Except (Failure ε) α) (defect : Defect) :
    result.mapError (mapCause f) = .error (.broken defect) ↔ result = .error (.broken defect) := by
  obtain (_ | _) | _ := result <;> simp [Except.mapError, mapCause]

theorem bind_eq_broken_iff (result : Except (Failure ε) α) (next : α → Except (Failure ε) β)
    (defect : Defect) :
    (result >>= next) = .error (.broken defect) ↔
      result = .error (.broken defect) ∨
        ∃ value, result = .ok value ∧ next value = .error (.broken defect) := by
  cases result <;> simp [bind, Except.bind]

end Failure

open Failure (mapError_eq_broken_iff bind_eq_broken_iff)

/-! ## the check of a manifest -/

namespace Manifest

variable (manifest : Manifest)

theorem flashBytes_eq_broken_iff (chip : Chip) (defect : Defect) :
    manifest.flashBytes chip = .error (.broken defect) ↔
      defect = .splitInsideCharacter ∧ CutsCharacter (manifest.sizeText chip) :=
  Size.parse_eq_broken_iff (manifest.sizeText chip) defect

theorem validateSize_eq_broken_iff (chip : Chip) (defect : Defect) :
    manifest.validateSize chip = .error (.broken defect) ↔
      defect = .splitInsideCharacter ∧ CutsCharacter (manifest.sizeText chip) := by
  rw [validateSize, bind_eq_broken_iff, mapError_eq_broken_iff, flashBytes_eq_broken_iff,
    or_iff_left_iff_imp]
  rintro ⟨bytes, -, hrange⟩
  split at hrange
  next => cases hrange
  next => split at hrange <;> cases hrange

/-- **Check**: the check of a manifest breaks off exactly if its schema is known and one of its
sizes does, the second one only after the first was accepted. -/
theorem validate_eq_broken_iff (defect : Defect) :
    manifest.validate = .error (.broken defect) ↔
      defect = .splitInsideCharacter ∧ manifest.schemaVersion = "1.0" ∧
        (CutsCharacter manifest.bmcSize ∨
          manifest.validateSize .bmc = .ok () ∧ CutsCharacter manifest.pchSize) := by
  have htick : (if manifest.tickMillis = 0 then refuse .zeroTick else .ok () :
      Except (Failure Error) Unit) ≠ .error (.broken defect) := by
    split <;> rintro ⟨⟩
  rw [validate]
  split
  next hschema => simp [refuse, hschema]
  next hschema =>
    rw [Decidable.not_not] at hschema
    simp only [bind_eq_broken_iff, validateSize_eq_broken_iff, htick, and_false, exists_false,
      or_false, sizeText, hschema, true_and]
    constructor
    · rintro (⟨hdefect, hbmc⟩ | ⟨⟨⟩, haccepted, hdefect, hpch⟩)
      · exact ⟨hdefect, .inl hbmc⟩
      · exact ⟨hdefect, .inr ⟨haccepted, hpch⟩⟩
    · rintro ⟨hdefect, hbmc | ⟨haccepted, hpch⟩⟩
      · exact .inl ⟨hdefect, hbmc⟩
      · exact .inr ⟨(), haccepted, hdefect, hpch⟩

end Manifest

/-! ## the building of a board -/

namespace Platform

/-- Beside the sizes nothing about a board has a defect. -/
theorem build_eq_broken_iff_imageSizes (plan : Plan) (environment : Option String)
    (defect : Defect) :
    plan.build environment = .error (.broken defect) ↔
      plan.imageSizes = .error (.broken defect) := by
  cases himages : plan.imageSizes with
  | error failure => simp [Plan.build, himages, bind, Except.bind]
  | ok sizes =>
      obtain ⟨bmcSize, pchSize⟩ := sizes
      simp only [reduceCtorEq, iff_false]
      by_cases hexcess : flashWindowRange.span.toNat < bmcSize ∨
          flashWindowRange.span.toNat < pchSize
      · simp [Plan.build, himages, bind, Except.bind, refuse, hexcess]
      · rw [not_or, Nat.not_lt, Nat.not_lt] at hexcess
        have hbuild := (build_eq_ok_iff plan environment _).mpr
          ⟨bmcSize, pchSize, himages, hexcess.1, hexcess.2, rfl⟩
        simp [hbuild]

/-- **Building**: it breaks off exactly if the sizes are those of the manifest and one of them
does, the second one only after the first was read. -/
theorem build_eq_broken_iff (plan : Plan) (environment : Option String) (defect : Defect) :
    plan.build environment = .error (.broken defect) ↔
      defect = .splitInsideCharacter ∧ plan.flashSizes = none ∧
        (CutsCharacter plan.manifest.bmcSize ∨
          (∃ bytes, plan.manifest.flashBytes .bmc = .ok bytes) ∧
            CutsCharacter plan.manifest.pchSize) := by
  rw [build_eq_broken_iff_imageSizes, Plan.imageSizes]
  cases plan.flashSizes with
  | some sizes => simp
  | none =>
      simp only [bind_eq_broken_iff, mapError_eq_broken_iff, Manifest.flashBytes_eq_broken_iff,
        Manifest.sizeText, reduceCtorEq, and_false, exists_false, or_false, true_and]
      cases plan.manifest.flashBytes .bmc <;> simp [Except.mapError, and_or_left]

/-- **Size texts**: whatever texts stand for the sizes, reading them, checking the manifest and
building a board end with a result or a refusal, except where a size is cut inside a
character; then each of them breaks off with that defect, unless it has stopped before or
does not look at the text.  A size whose number is written in single bytes is never cut so. -/
theorem size_texts (manifest : Manifest) :
    (∀ chip defect, manifest.flashBytes chip = .error (.broken defect) ↔
      defect = .splitInsideCharacter ∧ CutsCharacter (manifest.sizeText chip)) ∧
    (∀ defect, manifest.validate = .error (.broken defect) ↔
      defect = .splitInsideCharacter ∧ manifest.schemaVersion = "1.0" ∧
        (CutsCharacter manifest.bmcSize ∨
          manifest.validateSize .bmc = .ok () ∧ CutsCharacter manifest.pchSize)) ∧
    (∀ policy flashSizes environment defect,
      Plan.build { manifest, policy, flashSizes } environment = .error (.broken defect) ↔
        defect = .splitInsideCharacter ∧ flashSizes = none ∧
          (CutsCharacter manifest.bmcSize ∨
            (∃ bytes, manifest.flashBytes .bmc = .ok bytes) ∧ CutsCharacter manifest.pchSize)) ∧
    ∀ chip, CutsCharacter (manifest.sizeText chip) →
      ∃ c ∈ Size.figures (Text.trim (manifest.sizeText chip).toList), 1 < c.utf8Size := by
  refine ⟨manifest.flashBytes_eq_broken_iff, manifest.validate_eq_broken_iff,
    fun policy flashSizes environment defect => build_eq_broken_iff _ environment defect, ?_⟩
  intro chip hcuts
  by_contra hnone
  refine Size.not_cutsCharacter (fun c hc => ?_) hcuts
  have hpos := c.utf8Size_pos
  have hnarrow : ¬1 < c.utf8Size := fun hwide => hnone ⟨c, hc, hwide⟩
  omega

theorem cutsCharacter_half : CutsCharacter "½MiB" :=
  ⟨by decide, [], '½', "MiB".toList, by decide, by decide, by decide⟩

/-- A size that starts with the character for one half has a wide character in its number. -/
theorem size_texts_half :
    CutsCharacter "½MiB" ∧
      ∃ c ∈ Size.figures (Text.trim "½MiB".toList), 1 < c.utf8Size :=
  ⟨cutsCharacter_half, (size_texts { bmcSize := "½MiB" }).2.2.2 .bmc cutsCharacter_half⟩

/-- With that size for the first chip neither the size, nor the check of the manifest, nor the
building of a board ends with a result or a refusal. -/
theorem half_breaks_off :
    let manifest : Manifest := { bmcSize := "½MiB" }
    manifest.flashBytes .bmc = .error (.broken .splitInsideCharacter) ∧
      manifest.validate = .error (.broken .splitInsideCharacter) ∧
      Plan.build { manifest } none = .error (.broken .splitInsideCharacter) := by
  refine ⟨by decide +kernel, by decide +kernel, ?_⟩
  exact (build_eq_broken_iff _ none _).mpr ⟨rfl, rfl, .inl cutsCharacter_half⟩

end Platform

end BoardSim
