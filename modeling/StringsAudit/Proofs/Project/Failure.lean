import Mathlib.Data.List.Basic
import StringsAudit.Proofs.ConfigFile.Loading
import StringsAudit.Proofs.Project.Loading

/-!
# When a project cannot be loaded

A project is loaded unless its folder or its configuration is at fault. The patterns of a
configuration are read again after it was loaded, but validation has read all of them before, so
neither the usage pattern nor an ignore pattern can go wrong then. Files that cannot be read do not
keep a project from being loaded. What compiles the patterns is arbitrary here, but for the patterns
of the standard configuration, which nothing validates.

## Main definitions

* `Project.CannotLoad` : what keeps the project in a folder from being loaded.

## Main results

* `exists_loadWith_eq_ok` : with a valid configuration, a project is loaded.
* `load_fails_iff_cannotLoad` : loading fails exactly for these reasons.
-/

namespace StringsAudit

/-- Another primary locale leaves a configuration as valid as it is. -/
theorem Config.IsValid.withPrimaryLocale
    [Compilers]
    {config : Config}
    (hvalid : config.IsValid)
    (locale? : Option String) :
    (Project.withPrimaryLocale config locale?).IsValid := by
  cases locale? with
  | none => exact hvalid
  | some locale => exact ⟨hvalid.ignores, hvalid.usagePattern, hvalid.placeholder, hvalid.suffix⟩

namespace Project

/-- What keeps the project in a folder from being loaded. -/
inductive CannotLoad [Compilers] (files : Files Id) (root : Path) : Failure → Prop
  | missing :
      (files.kind? root).run = none →
      CannotLoad files root (.folderMissing root)
  | notFolder :
      (files.kind? root).run = some .file →
      CannotLoad files root (.notFolder root)
  | config {failure : Failure} :
      (files.kind? root).run = some .directory →
      ConfigFile.CannotLoad files root failure →
      CannotLoad files root failure

variable {files : Files Id} {root : Path} {options : LoadOptions}

theorem run_load
    [Compilers]
    (files : Files Id)
    (root : Path)
    (options : LoadOptions) :
    Id.run (load files root options) =
      match (files.kind? root).run with
      | none => .error (.folderMissing root)
      | some .file => .error (.notFolder root)
      | some .directory =>
          match Id.run (ConfigFile.load files root) with
          | .error failure => .error failure
          | .ok loaded => Id.run (loadWith files root options loaded) := by
  rw [load, Id.run_bind]
  cases (files.kind? root).run with
  | none => rfl
  | some kind =>
      cases kind with
      | file => rfl
      | directory => cases hload : Id.run (ConfigFile.load files root) <;> simp [hload]

/-- What is loaded is loaded with some configuration. -/
theorem exists_loadWith_of_load
    [Compilers]
    {project : Project}
    (h : Id.run (load files root options) = .ok project) :
    ∃ loaded, Id.run (loadWith files root options loaded) = .ok project := by
  rw [run_load] at h
  split at h
  next => cases h
  next => cases h
  next =>
    split at h
    next => cases h
    next loaded _ => exact ⟨loaded, h⟩

/-- What is loaded is as an audit expects it. -/
theorem isLoaded_of_load
    [Compilers]
    {project : Project}
    (h : Id.run (load files root options) = .ok project) :
    project.evidence.IsLoaded := by
  obtain ⟨loaded, hproject⟩ := exists_loadWith_of_load h
  exact isLoaded_of_loadWith hproject

/-- With a valid configuration, a project is loaded, whatever files cannot be read. -/
theorem exists_loadWith_eq_ok
    [Compilers]
    (files : Files Id)
    (root : Path)
    (options : LoadOptions)
    {loaded : ConfigFile.Loaded}
    (hvalid : loaded.config.IsValid) :
    ∃ project, Id.run (loadWith files root options loaded) = .ok project := by
  obtain ⟨pattern, hpattern⟩ := (hvalid.withPrimaryLocale options.primaryLocale?).usagePattern
  have hevidence := loadWith_map_evidence files root options loaded
  simp only [evidenceFrom, compiledPattern, hpattern] at hevidence
  cases hproject : Id.run (loadWith files root options loaded) with
  | error failure =>
      rw [hproject] at hevidence
      cases hevidence
  | ok project => exact ⟨project, rfl⟩

/-- Loading fails exactly if the folder is missing, is none, or has a configuration at fault. -/
theorem load_eq_error_iff
    [Compilers]
    {failure : Failure}
    (hstandard : Config.standard.IsValid) :
    Id.run (load files root options) = .error failure ↔ CannotLoad files root failure := by
  rw [run_load]
  constructor
  · intro h
    cases hkind : (files.kind? root).run with
    | none =>
        simp only [hkind, Except.error.injEq] at h
        exact h ▸ .missing hkind
    | some kind =>
        cases kind with
        | file =>
            simp only [hkind, Except.error.injEq] at h
            exact h ▸ .notFolder hkind
        | directory =>
            cases hload : Id.run (ConfigFile.load files root) with
            | error _ =>
                simp only [hkind, hload, Except.error.injEq] at h
                exact .config hkind (ConfigFile.load_eq_error_iff.mp (h ▸ hload))
            | ok loaded =>
                obtain ⟨project, hproject⟩ :=
                  exists_loadWith_eq_ok files root options
                    (ConfigFile.isValid_of_load hstandard hload)
                simp only [hkind, hload, hproject, reduceCtorEq] at h
  · rintro (hkind | hkind | ⟨hkind, hfault⟩)
    · simp only [hkind]
    · simp only [hkind]
    · simp only [hkind, ConfigFile.load_eq_error_iff.mpr hfault]

/--
Whatever compiles glob patterns and usage patterns, if it accepts those of the standard
configuration: loading a project fails exactly if its folder does not exist, if it is not a folder,
or if the configuration file that is found cannot be read, does not parse or is refused. Once a
configuration was loaded, with whatever primary locale is asked for, its usage pattern can be
compiled, each of its ignore patterns can be read, and the project is loaded.
-/
theorem load_fails_iff_cannotLoad
    [Compilers]
    (hglobs : ∀ pattern ∈ Config.standard.ignores, ∃ glob, Compilers.glob pattern = .ok glob)
    (hpattern : ∃ pattern, UsagePattern.compile Config.standard.usagePattern = .ok pattern)
    (files : Files Id)
    (root : Path)
    (options : LoadOptions) :
    (∀ failure, Id.run (load files root options) = .error failure ↔
      CannotLoad files root failure) ∧
    ∀ loaded, Id.run (ConfigFile.load files root) = .ok loaded →
      let config := withPrimaryLocale loaded.config options.primaryLocale?
      (∃ pattern, UsagePattern.compile config.usagePattern = .ok pattern) ∧
      Scan.badIgnores config = [] ∧
      ∃ project, Id.run (loadWith files root options loaded) = .ok project := by
  have hstandard := Config.isValid_standard_of_compiles hglobs hpattern
  refine ⟨fun failure => load_eq_error_iff hstandard, fun loaded hload => ?_⟩
  have hvalid := ConfigFile.isValid_of_load hstandard hload
  have hown := hvalid.withPrimaryLocale options.primaryLocale?
  exact ⟨hown.usagePattern, Scan.badIgnores_eq_nil_iff.mpr hown.ignores,
    exists_loadWith_eq_ok files root options hvalid⟩

/-- A folder whose configuration names patterns of its own. -/
theorem load_of_own_patterns :
    let text := "\x7b\"ignores\": [\"**/Vendor/[a-c]*\"], \"usagePattern\": \"tr\\\\('(\\\\w+)'\"\x7d"
    let world : World :=
      ⟨.directory [("app", .directory [(ConfigFile.name, .file (.text text))])], []⟩
    let config : Config :=
      { Config.standard with ignores := ["**/Vendor/[a-c]*"], usagePattern := "tr\\('(\\w+)'" }
    let loaded : ConfigFile.Loaded := ⟨config, some ⟨"/app/.lprojauditrc.json"⟩⟩
    Id.run (ConfigFile.load world.still ⟨"/app"⟩) = .ok loaded ∧
    (∃ pattern, UsagePattern.compile "tr\\('(\\w+)'" = .ok pattern) ∧
    Scan.badIgnores { config with primaryLocale := "de" } = [] ∧
    ∃ project, Id.run (loadWith world.still ⟨"/app"⟩ ⟨some "de", false⟩ loaded) = .ok project := by
  intro text world config loaded
  have hload : Id.run (ConfigFile.load world.still ⟨"/app"⟩) = .ok loaded := by
    refine eq_ok_of_toOption ?_
    decide +kernel
  have hstandard := Config.isValid_standard
  exact ⟨hload, (load_fails_iff_cannotLoad hstandard.ignores hstandard.usagePattern world.still
    ⟨"/app"⟩ ⟨some "de", false⟩).2 loaded hload⟩

end Project
end StringsAudit
