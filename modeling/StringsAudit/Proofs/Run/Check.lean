import StringsAudit.Proofs.Project.Failure
import StringsAudit.Run

/-!
# Checks

A check asks and changes nothing. So what it shows and tells the shell is what it would show in a
world that nothing changes, and all of that is told by its verdict, if it comes to one.

## Main definitions

* `CheckCommand.verdict?` : the verdict that a check comes to, if it comes to one.

## Main results

* `keeps_load` : loading a project leaves the world as it is.
* `keeps_runCheck` : so does a check.
* `output_runCheck`, `status_runCheck` : what is shown, and what the shell is told.
* `status_runCheck_iff` : what the shell is told, by the defects of what was loaded.
-/

namespace StringsAudit

namespace World

theorem run_kind?
    (world : World)
    (path : Path) :
    (files.kind? path).run world = pure ((world.lookup path).toOption.map Node.kind, world) := by
  simp only [files, StateT.run]
  cases world.lookup path <;> rfl

theorem run_kind?_still
    (world : World)
    (path : Path) :
    (world.still.kind? path).run = (world.lookup path).toOption.map Node.kind :=
  congrArg Prod.fst (run_kind? world path)

theorem keeps_kind?
    (world : World)
    (path : Path) :
    world.Keeps (files.kind? path) (world.still.kind? path) := by
  rw [Keeps, run_kind?_still, run_kind?]

theorem keeps_exists?
    (world : World)
    (path : Path) :
    world.Keeps (files.exists? path) (world.still.exists? path) :=
  (world.keeps_kind? path).bind fun _ => .pure _

end World

open World

/-! ### Loading -/

theorem ConfigFile.keeps_findIn?
    (world : World)
    (folders : List Path) :
    world.Keeps (findIn? files folders) (findIn? world.still folders) := by
  induction folders with
  | nil => exact .pure none
  | cons folder rest ih =>
      refine (world.keeps_exists? _).bind fun found => ?_
      cases found with
      | true => exact .pure _
      | false =>
          refine (world.keeps_exists? _).bind fun marked => ?_
          cases marked with
          | true => exact .pure _
          | false => exact ih

theorem ConfigFile.keeps_find?
    (world : World)
    (start : Path) :
    world.Keeps (find? files start) (find? world.still start) :=
  keeps_findIn? world (folders start)

theorem ConfigFile.keeps_load
    [Compilers]
    (world : World)
    (start : Path) :
    world.Keeps (load files start) (load world.still start) := by
  refine (keeps_find? world start).bind fun found => ?_
  cases found with
  | none => exact .pure _
  | some path =>
      refine (world.keeps_read path).bind fun content => ?_
      cases content with
      | error error => exact .pure _
      | ok text => exact .pure _

/-- Loading a project leaves the world as it is. -/
theorem Project.keeps_load
    [Compilers]
    (world : World)
    (root : Path)
    (options : LoadOptions) :
    world.Keeps (load files root options) (load world.still root options) := by
  refine (world.keeps_kind? root).bind fun kind => ?_
  cases kind with
  | none => exact .pure _
  | some kind =>
      cases kind with
      | file => exact .pure _
      | directory =>
          refine (ConfigFile.keeps_load world root).bind fun loaded => ?_
          cases loaded with
          | error failure => exact .pure _
          | ok loaded => exact keeps_loadWith world root options loaded

/-! ### Checking -/

/-- The verdict that a check comes to, if it comes to one. -/
def CheckCommand.verdict? [Compilers] {m : Type → Type} [Monad m] (files : Files m)
    (command : CheckCommand) : m (Option Verdict) := do
  let project ← Project.load files command.target ⟨command.primaryLocale?, command.verbose⟩
  return project.toOption.map (·.audit command.rules)

/-- A check leaves the world as it is. -/
theorem keeps_runCheck
    [Compilers]
    (world : World)
    (command : CheckCommand) :
    world.Keeps (runCheck files command) (runCheck world.still command) := by
  refine (Project.keeps_load world _ _).bind fun project => ?_
  cases project with
  | error failure => exact .pure _
  | ok project => exact .pure _

/-- What a check tells the shell is told by its verdict; without one, it is an error. -/
theorem status_runCheck
    [Compilers]
    (files : Files Id)
    (command : CheckCommand) :
    (Id.run (runCheck files command)).status =
      (Id.run (command.verdict? files)).elim .error ExitStatus.ofVerdict := by
  rw [runCheck, Id.run_bind, CheckCommand.verdict?, Id.run_bind]
  cases Id.run (Project.load files command.target _) <;> rfl

/-- The audit of a project that was loaded fails exactly if there is a defect of a selected rule. -/
theorem Project.ofVerdict_audit_eq_failure_iff
    [Compilers]
    {files : Files Id}
    {root : Path}
    {options : LoadOptions}
    {project : Project}
    (h : Id.run (load files root options) = .ok project)
    (rules : List Rule) :
    ExitStatus.ofVerdict (project.audit rules) = .failure ↔
      ∃ rule ∈ if rules.isEmpty then Rule.all else rules, project.evidence.HasDefect rule :=
  Evidence.ofVerdict_eq_failure_iff (isLoaded_of_load h) _ _

/--
What a check tells the shell. It is an error exactly if the project cannot be loaded. Else it is a
failure exactly if what was loaded has a defect of a selected rule, and a success exactly if it has
none, where all rules are selected if none is named.
-/
theorem status_runCheck_iff
    [Compilers]
    (world : World)
    (command : CheckCommand) :
    let status := ((runCheck files command).run world).run.1.status
    let loaded := Id.run <|
      Project.load world.still command.target ⟨command.primaryLocale?, command.verbose⟩
    let selected := if command.rules.isEmpty then Rule.all else command.rules
    (status = .error ↔ ∃ failure, loaded = .error failure) ∧
    (status = .failure ↔ ∃ project, loaded = .ok project ∧
      ∃ rule ∈ selected, project.evidence.HasDefect rule) ∧
    (status = .success ↔ ∃ project, loaded = .ok project ∧
      ¬ ∃ rule ∈ selected, project.evidence.HasDefect rule) := by
  intro status loaded selected
  have hstatus : status =
      (loaded.toOption.map (·.audit command.rules)).elim .error ExitStatus.ofVerdict := by
    calc status
      _ = (Id.run (runCheck world.still command)).status :=
          congrArg Outcome.status (keeps_runCheck world command).run_fst
      _ = _ := status_runCheck world.still command
  cases hloaded : loaded with
  | error failure => simp [hstatus, hloaded, Except.toOption]
  | ok project =>
      have hfailure : ExitStatus.ofVerdict (project.audit command.rules) = .failure ↔
          ∃ rule ∈ selected, project.evidence.HasDefect rule :=
        Project.ofVerdict_audit_eq_failure_iff hloaded command.rules
      simp only [hstatus, hloaded, Except.toOption, Option.map_some, Option.elim_some,
        Except.ok.injEq, exists_eq_left', reduceCtorEq, exists_false, iff_false, ← hfailure]
      rcases ExitStatus.ofVerdict_cases (project.audit command.rules) with heq | heq
      · simp [heq]
      · simp [heq]

end StringsAudit
