import Mathlib.Data.List.Basic
import StringsAudit.ConfigFile
import StringsAudit.Proofs.Config.Validity

/-!
# When the configuration of a folder can be loaded

## Main definitions

* `ConfigFile.CannotLoad` : what is wrong with the configuration file that the search finds.

## Main results

* `load_eq_error_iff` : loading fails exactly for these reasons.
* `isValid_of_load` : what was loaded is a valid configuration.
-/

namespace StringsAudit
namespace ConfigFile

/-- What is wrong with the configuration file that the search from a folder finds. -/
inductive CannotLoad [Compilers] (files : Files Id) (start : Path) : Failure → Prop
  | unreadable {path : Path} {error : FileError} :
      Id.run (find? files start) = some path →
      (files.read path).run = .error error →
      CannotLoad files start (.unreadableConfig error)
  | malformed {path : Path} {text : String} {fault : Json.Fault} :
      Id.run (find? files start) = some path →
      (files.read path).run = .ok text →
      Config.parse text = .error fault →
      CannotLoad files start (.malformedConfig path fault)
  | invalid {path : Path} {text : String} {config : Config} {error : ConfigError} :
      Id.run (find? files start) = some path →
      (files.read path).run = .ok text →
      Config.parse text = .ok config →
      config.validate = .error error →
      CannotLoad files start (.invalidConfig error)

variable [Compilers] {files : Files Id} {start : Path}

/-- A text is refused if it does not parse, or describes a configuration that is refused. -/
theorem ofText_eq_error_iff
    {path : Path}
    {text : String}
    {failure : Failure} :
    ofText path text = .error failure ↔
      (∃ fault, Config.parse text = .error fault ∧ failure = .malformedConfig path fault) ∨
      ∃ config error, Config.parse text = .ok config ∧ config.validate = .error error ∧
        failure = .invalidConfig error := by
  rw [ofText]
  cases Config.parse text with
  | error fault => simp [eq_comm]
  | ok config =>
      cases hvalidate : config.validate with
      | error error => simp [hvalidate, eq_comm]
      | ok _ => simp [hvalidate]

/-- The configuration of an accepted text is valid. -/
theorem isValid_of_ofText
    {path : Path}
    {text : String}
    {loaded : Loaded}
    (h : ofText path text = .ok loaded) :
    loaded.config.IsValid := by
  rw [ofText] at h
  cases hparse : Config.parse text with
  | error fault => simp [hparse] at h
  | ok config =>
      cases hvalidate : config.validate with
      | error error => simp [hparse, hvalidate] at h
      | ok _ =>
          simp only [hparse, hvalidate, Except.ok.injEq] at h
          rw [← h]
          exact Config.validate_eq_ok_iff.mp hvalidate

theorem run_load
    (files : Files Id)
    (start : Path) :
    Id.run (load files start) =
      match Id.run (find? files start) with
      | none => .ok ⟨.standard, none⟩
      | some path =>
          match (files.read path).run with
          | .error error => .error (.unreadableConfig error)
          | .ok text => ofText path text := by
  rw [load, Id.run_bind]
  cases Id.run (find? files start) with
  | none => rfl
  | some path => cases hread : (files.read path).run <;> simp [hread]

/-- Loading fails exactly if the file that is found cannot be read, parsed or accepted. -/
theorem load_eq_error_iff
    {failure : Failure} :
    Id.run (load files start) = .error failure ↔ CannotLoad files start failure := by
  rw [run_load]
  constructor
  · intro h
    cases hfind : Id.run (find? files start) with
    | none => simp [hfind] at h
    | some path =>
        cases hread : (files.read path).run with
        | error error =>
            simp only [hfind, hread, Except.error.injEq] at h
            exact h ▸ .unreadable hfind hread
        | ok text =>
            simp only [hfind, hread] at h
            obtain ⟨fault, hparse, rfl⟩ | ⟨config, error, hparse, hvalidate, rfl⟩ :=
              ofText_eq_error_iff.mp h
            · exact .malformed hfind hread hparse
            · exact .invalid hfind hread hparse hvalidate
  · rintro (⟨hfind, hread⟩ | ⟨hfind, hread, hparse⟩ | ⟨hfind, hread, hparse, hvalidate⟩)
    · simp only [hfind, hread]
    · simp only [hfind, hread]
      exact ofText_eq_error_iff.mpr (.inl ⟨_, hparse, rfl⟩)
    · simp only [hfind, hread]
      exact ofText_eq_error_iff.mpr (.inr ⟨_, _, hparse, hvalidate, rfl⟩)

/-- What was loaded is valid, be it read from a file or the standard configuration. -/
theorem isValid_of_load
    {loaded : Loaded}
    (hstandard : Config.standard.IsValid)
    (h : Id.run (load files start) = .ok loaded) :
    loaded.config.IsValid := by
  rw [run_load] at h
  cases hfind : Id.run (find? files start) with
  | none =>
      simp only [hfind, Except.ok.injEq] at h
      rw [← h]
      exact hstandard
  | some path =>
      cases hread : (files.read path).run with
      | error error => simp [hfind, hread] at h
      | ok text =>
          simp only [hfind, hread] at h
          exact isValid_of_ofText h

end ConfigFile
end StringsAudit
