import StringsAudit.Issue

/-!
# Verdicts

## Main definitions

* `Verdict` : the findings of a run in the order of a report, with their numbers.
* `ExitStatus` : what a run tells the shell.

## Main results

* `Verdict.errors_add_warnings` : each finding is counted once.
-/

namespace StringsAudit

/-- How many things a run looked at. -/
structure Coverage where
  /-- The strings files in locale folders. -/
  resourceFiles : Nat
  /-- The groups that they form. -/
  groups : Nat
  /-- The source files searched for keys. -/
  sourceFiles : Nat
  deriving DecidableEq, Repr

/-- The findings of a run in the order of a report, with their numbers. -/
structure Verdict where
  issues : List Issue
  errors : Nat
  warnings : Nat
  /-- The number of files that could not be read. -/
  unreadableFiles : Nat
  coverage : Coverage
  deriving DecidableEq, Repr

namespace Verdict

/-- The verdict on findings. -/
def ofIssues (found : List Issue) (coverage : Coverage) : Verdict :=
  let issues := sortBy Issue.cmp found
  let errors := issues.countP (·.isError)
  ⟨issues, errors, issues.length - errors, issues.countP (·.isUnreadableFile), coverage⟩

/-- Each finding is counted once, as an error or as a warning. -/
theorem errors_add_warnings
    (found : List Issue)
    (coverage : Coverage) :
    (ofIssues found coverage).errors + (ofIssues found coverage).warnings = found.length := by
  have := List.countP_le_length (p := (·.isError)) (l := sortBy Issue.cmp found)
  simp only [ofIssues, length_sortBy] at this ⊢
  omega

end Verdict

/-- What a run tells the shell. -/
inductive ExitStatus where
  /-- No finding is an error. -/
  | success
  /-- Some finding is an error. -/
  | failure
  /-- The audit could not run. -/
  | error
  deriving DecidableEq, Repr

namespace ExitStatus

/-- The number of a status. -/
def code : ExitStatus → Nat
  | .success => 0
  | .failure => 1
  | .error => 2

/-- Errors fail a run, warnings do not. -/
def ofVerdict (verdict : Verdict) : ExitStatus :=
  if 0 < verdict.errors then .failure else .success

end ExitStatus
end StringsAudit
