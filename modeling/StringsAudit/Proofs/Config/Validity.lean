import Mathlib.Data.List.Basic
import StringsAudit.Proofs.UsagePattern.Standard
import StringsAudit.Scan

/-!
# What a validated configuration is good for

The patterns of a configuration are read twice: when it is validated, where a bad one is refused,
and when a project is loaded, where a bad glob pattern is passed over and a bad usage pattern is a
failure. Validation covers all that is read later, so what passed it cannot go wrong later, whatever
compiles the patterns.

## Main definitions

* `Config.IsValid` : what validation checks.

## Main results

* `validate_eq_ok_iff` : validation accepts exactly these configurations.
* `isValid_standard_of_compiles` : the standard configuration is one of them if its own patterns are
  accepted, as the program's own compilers do.
* `Scan.badIgnores_eq_nil_iff` : when a scan passes over no pattern.
-/

namespace StringsAudit

namespace Config

variable [Compilers] {config : Config}

/-- What validation checks: all patterns can be read, and neither text is unusable. -/
structure IsValid (config : Config) : Prop where
  ignores : ∀ pattern ∈ config.ignores, ∃ glob, Compilers.glob pattern = .ok glob
  usagePattern : ∃ pattern, UsagePattern.compile config.usagePattern = .ok pattern
  placeholder : config.placeholder ≠ ""
  suffix : isSuffix config.localeFolderSuffix = true

theorem checkIgnores_cons
    (pattern : String)
    (rest : List String) :
    checkIgnores (pattern :: rest) =
      match Compilers.glob pattern with
      | .ok _ => checkIgnores rest
      | .error error => .error (.badIgnore pattern error) := by
  rw [checkIgnores]
  change (match Compilers.glob pattern with
    | .ok _ => Except.ok ()
    | .error error => Except.error (ConfigError.badIgnore pattern error)).bind _ = _
  cases Compilers.glob pattern <;> rfl

theorem checkIgnores_eq_ok_iff
    {patterns : List String} :
    checkIgnores patterns = .ok () ↔
      ∀ pattern ∈ patterns, ∃ glob, Compilers.glob pattern = .ok glob := by
  induction patterns with
  | nil => exact iff_of_true rfl (List.forall_mem_nil _)
  | cons pattern rest ih =>
      rw [checkIgnores_cons, List.forall_mem_cons, ← ih]
      cases Compilers.glob pattern with
      | ok glob => simp
      | error error => simp

/-- The checks one after the other; the first defect counts. -/
theorem validate_eq
    (config : Config) :
    config.validate =
      match checkIgnores config.ignores, UsagePattern.compile config.usagePattern with
      | .error error, _ => .error error
      | .ok _, .error error => .error (.badUsagePattern error)
      | .ok _, .ok _ =>
          if config.placeholder = "" then .error .emptyPlaceholder
          else if isSuffix config.localeFolderSuffix then .ok ()
          else .error (.badSuffix config.localeFolderSuffix) := by
  rw [validate]
  cases checkIgnores config.ignores
  case error => rfl
  case ok =>
    cases UsagePattern.compile config.usagePattern
    case error => rfl
    case ok =>
      by_cases hplaceholder : config.placeholder = ""
      · rw [hplaceholder]
        rfl
      · rw [beq_false_of_ne hplaceholder, if_neg hplaceholder]
        cases isSuffix config.localeFolderSuffix <;> rfl

/-- Validation accepts exactly the valid configurations. -/
theorem validate_eq_ok_iff :
    config.validate = .ok () ↔ config.IsValid := by
  have hparts : config.IsValid ↔ checkIgnores config.ignores = .ok () ∧
      (∃ pattern, UsagePattern.compile config.usagePattern = .ok pattern) ∧
      config.placeholder ≠ "" ∧ isSuffix config.localeFolderSuffix = true := by
    rw [checkIgnores_eq_ok_iff]
    exact ⟨fun h => ⟨h.ignores, h.usagePattern, h.placeholder, h.suffix⟩,
      fun ⟨hignores, hpattern, hplaceholder, hsuffix⟩ =>
        ⟨hignores, hpattern, hplaceholder, hsuffix⟩⟩
  rw [hparts, validate_eq]
  cases checkIgnores config.ignores
  case error => simp
  case ok =>
    cases UsagePattern.compile config.usagePattern
    case error => simp
    case ok =>
      by_cases hplaceholder : config.placeholder = ""
      · simp [hplaceholder]
      · simp [hplaceholder]

/-- The standard configuration is valid if its patterns can be compiled. -/
theorem isValid_standard_of_compiles
    (hglobs : ∀ pattern ∈ standard.ignores, ∃ glob, Compilers.glob pattern = .ok glob)
    (hpattern : ∃ pattern, UsagePattern.compile standard.usagePattern = .ok pattern) :
    standard.IsValid :=
  ⟨hglobs, hpattern, by decide, by decide⟩

end Config

theorem Config.isValid_standard :
    standard.IsValid :=
  isValid_standard_of_compiles (checkIgnores_eq_ok_iff.mp rfl) ⟨_, UsagePattern.compile_standard⟩

/-- A scan passes over no pattern exactly if all can be read. -/
theorem Scan.badIgnores_eq_nil_iff
    [Compilers]
    {config : Config} :
    badIgnores config = [] ↔
      ∀ pattern ∈ config.ignores, ∃ glob, Compilers.glob pattern = .ok glob := by
  rw [badIgnores, List.filterMap_eq_nil_iff]
  refine forall₂_congr fun pattern _ => ?_
  cases Compilers.glob pattern with
  | ok glob => simp
  | error error => simp

end StringsAudit
