import StringsAudit.CommandLine
import StringsAudit.Project
import StringsAudit.Report

/-!
# Runs

## Main definitions

* `Outcome` : what a run shows and tells the shell.
* `run` : carries out a command.
-/

namespace StringsAudit

open Text

/-- What a run shows and tells the shell. -/
structure Outcome where
  /-- The lines of the output. -/
  output : List Styled
  /-- The lines of the error output, without the failure. -/
  remarks : List Styled
  result : Except Failure ExitStatus

namespace Outcome

/-- A run that fails before it shows anything. -/
def failed (failure : Failure) : Outcome :=
  ⟨[], [], .error failure⟩

/-- What a run tells the shell. -/
def status (outcome : Outcome) : ExitStatus :=
  match outcome.result with
  | .ok status => status
  | .error _ => .error

end Outcome

/-- What is shown when no command is given. -/
def helpLines : List String :=
  ["A fast CLI tool for auditing Apple .strings localization files",
    "",
    "Usage: lproj-audit [COMMAND]",
    "",
    "Commands:",
    "  check  Check .strings files for duplicate, missing, untranslated, unused and undefined keys",
    "  init   Initialize a new .lprojauditrc.json configuration file",
    "  help   Print this message or the help of the given subcommand(s)",
    "",
    "Options:",
    "  -h, --help     Print help",
    "  -V, --version  Print version"]

variable {m : Type → Type} [Monad m]

/-- The outcome of auditing a project. -/
def auditOutcome (project : Project) (rules : List Rule) : Outcome :=
  let verdict := project.audit rules
  ⟨Report.verdictLines verdict,
    project.notices.map Notice.line
      ++ Report.unreadableLines verdict.unreadableFiles project.verbose,
    .ok (.ofVerdict verdict)⟩

/-- Audits a folder. -/
def runCheck [Compilers] (files : Files m) (command : CheckCommand) : m Outcome := do
  let options := ⟨command.primaryLocale?, command.verbose⟩
  match ← Project.load files command.target options with
  | .error failure => pure (.failed failure)
  | .ok project => pure (auditOutcome project command.rules)

/-- Writes the standard configuration into the current directory. -/
def runInit (files : Files m) : m Outcome := do
  match ← ConfigFile.create files ⟨"."⟩ with
  | .error failure => pure (.failed failure)
  | .ok () => pure ⟨[Report.createdLine ConfigFile.name], [], .ok .success⟩

/-- Carries out a command; without one, the help is shown. -/
def run [Compilers] (files : Files m) : Option Command → m Outcome
  | none => pure ⟨helpLines.map Styled.plain, [], .ok .success⟩
  | some (.check command) => runCheck files command
  | some .init => runInit files

end StringsAudit
