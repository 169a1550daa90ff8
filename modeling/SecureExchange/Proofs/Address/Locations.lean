import SecureExchange.Failure.Address
import SecureExchange.Proofs.Failure.Alike

/-!
# Locations that cannot be resolved

A location that is no target at all is refused for that, whatever target was asked, and the refusal
shows the location. Any other location fails by a fault that no log shows
(`unlogged_of_not_isLocation`).
-/

namespace SecureExchange.Address.Redirect

open Failure

variable {t u : Target} {f : Redirect.Fault}

/-- The location itself is no target, whatever target was asked. -/
def Fault.isLocation : Redirect.Fault → Bool
  | .location _ => true
  | _ => false

theorem isLocation_of_reread {p : Target.Parts} (h : reread t p = .error f) :
    f.isLocation = false := by
  unfold reread at h
  split at h
  · cases h
    rfl
  · cases hnormal : p.normalize with
    | ok v => simp [hnormal, Except.mapError] at h
    | error e =>
        rw [hnormal] at h
        cases h
        rfl

theorem isLocation_of_borrowHost (h : borrowHost t u = .error f) : f.isLocation = false := by
  unfold borrowHost at h
  split at h
  · cases h
  · split at h
    · cases h
      rfl
    · split at h
      · split at h
        · cases h
          rfl
        · exact isLocation_of_reread h
      · cases h

theorem isLocation_of_complete (h : complete t u = .error f) : f.isLocation = false := by
  unfold complete at h
  split at h
  · cases h
  · split at h
    · cases h
      rfl
    · next s _ =>
        cases hparse : Target.parse s with
        | ok v => simp [hparse, Except.mapError] at h
        | error e =>
            rw [hparse] at h
            cases h
            rfl

theorem isLocation_of_takeFragment (h : takeFragment t u = .error f) : f.isLocation = false := by
  unfold takeFragment at h
  dsimp only at h
  split at h
  · cases h
  · unfold withFragment at h
    split at h
    · cases h
      rfl
    · exact isLocation_of_reread h

theorem isLocation_of_checkHost (h : checkHost t u = .error f) : f.isLocation = false := by
  unfold checkHost at h
  split at h
  · cases h
    rfl
  · cases h
    rfl
  · split at h
    · cases h
    · split at h
      · cases h
        rfl
      · cases h

theorem isLocation_of_resolve {location : List Char} (hparse : Target.parse location = .ok u)
    (h : resolve t location = .error f) : f.isLocation = false := by
  simp only [resolve, hparse] at h
  split at h
  · next hstep =>
      cases h
      exact isLocation_of_borrowHost hstep
  · split at h
    · next hstep =>
        cases h
        exact isLocation_of_complete hstep
    · split at h
      · next hstep =>
          cases h
          exact isLocation_of_takeFragment hstep
      · split at h
        · next hstep =>
            cases h
            exact isLocation_of_checkHost hstep
        · cases h

theorem unlogged_of_not_isLocation (h : f.isLocation = false) :
    ∃ g : Failure.Fault, f.toFaults = (g, none) ∧ g.cls.isUnlogged = true := by
  cases f with
  | location e => cases h
  | hostName e =>
      refine ⟨_, rfl, ?_⟩
      cases e with
      | label flaw codes => cases flaw <;> rfl
      | _ => rfl
  | _ => exact ⟨_, rfl, rfl⟩

/-- An empty location stands for the target that was asked, which may be too long to be read
anew. -/
theorem resolve_nil_of_tooLong (h : Target.maxLength < t.render.length) :
    resolve t [] = .error (.completed .tooLong) := by
  let nowhere : Target := ⟨[], [], [], none, [], none, none⟩
  have hparse : Target.parse t.render = .error .tooLong := if_pos h
  have hcomplete : complete t nowhere = .error (.completed .tooLong) := by
    have hjoin : Reference.join t.render nowhere.render = .ok t.render := rfl
    simp only [complete, hjoin, hparse]
    rfl
  have hempty : Target.parse [] = .ok nowhere := rfl
  have hborrow : borrowHost t nowhere = .ok nowhere := rfl
  simp only [resolve, hempty, hborrow, hcomplete]

end SecureExchange.Address.Redirect
