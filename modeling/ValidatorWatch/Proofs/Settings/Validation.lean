import ValidatorWatch.Settings.Validation
/-!
# What validation goes by

Checks are made one after another, so settings that pass have passed each of
them. None looks at the file that a validator was declared in
(`validate_withoutFiles`).
-/

namespace ValidatorWatch

/-- What comes of two steps is what comes of the second after the first has gone
well. -/
theorem bind_eq_ok_iff {ε α β : Type} {step : Except ε α} {next : α → Except ε β} {b : β} :
    (step >>= next) = .ok b ↔ ∃ a, step = .ok a ∧ next a = .ok b := by
  cases step <;> simp [bind, Except.bind]

namespace Settings

variable {s : Settings}

theorem require_eq_ok_iff {ok : Bool} {e : SettingsError} : require ok e = .ok () ↔ ok = true := by
  cases ok <;> simp [require]

theorem eq_ok_of_isOk {check : Check} (h : check.isOk = true) : check = .ok () := by
  cases check with
  | error e => cases h
  | ok => rfl

/-- The check interval of settings that pass is in its bounds. -/
theorem checkInterval_le (h : s.validate = .ok ()) : s.checkIntervalSeconds ≤ maxCheckInterval := by
  obtain ⟨_, htimes, -⟩ := bind_eq_ok_iff.1 h
  obtain ⟨_, hinterval, -⟩ := bind_eq_ok_iff.1 htimes
  rw [require_eq_ok_iff, Bool.and_eq_true, decide_eq_true_iff, decide_eq_true_iff] at hinterval
  exact hinterval.2

/-! ## Files of validators -/

/-- The settings without the files that validators were declared in. -/
def withoutFiles (s : Settings) : Settings :=
  { s with validators := s.validators.map fun _ v => { v with file := "" } }

/-- Validation does not go by the files of validators. -/
theorem validate_withoutFiles (s : Settings) : s.withoutFiles.validate = s.validate := by
  have hempty : s.withoutFiles.validators.isEmpty = s.validators.isEmpty := List.isEmpty_map
  have hvalidators : s.withoutFiles.checkValidators = s.checkValidators := by
    have hentries : (s.withoutFiles.validators.entries.forM fun e => checkValidator e.1 e.2) =
        s.validators.entries.forM fun e => checkValidator e.1 e.2 := List.forM_map
    rw [checkValidators, checkValidators, hempty, hentries]
  rw [validate, validate, hvalidators]
  rfl

end Settings

end ValidatorWatch
