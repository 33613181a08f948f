import Mathlib.Data.List.Basic
import StringsAudit.Proofs.Sorting
import StringsAudit.Verdict

/-!
# What a verdict says about the findings it was given

## Main definitions

* `Issue.isFromLoading` : the findings that are made while files are loaded.

## Main results

* `Issue.cmp_eq_iff` : the findings between which a report does not choose an order.
* `Verdict.filter_issues_ofIssues` : findings can be left out before or after they are ordered.
* `ExitStatus.ofVerdict_ofIssues_eq_failure_iff` : a run fails exactly if some finding is an error.
-/

namespace StringsAudit

namespace Issue

instance : Std.TransCmp cmp :=
  have := transCmp_on Location.cmp location
  inferInstanceAs (Std.TransCmp (compareLex _ (compareLex _ _)))

theorem cmp_eq_iff
    {first second : Issue} :
    cmp first second = .eq ↔
      first.location = second.location ∧ first.ruleRank = second.ruleRank ∧
        first.message = second.message := by
  simp only [cmp, compareLex, compareOn, Ordering.then_eq_eq, Std.LawfulEqCmp.compare_eq_iff_eq]

/-- Whether a finding is made while files are loaded, and not by a rule. -/
def isFromLoading : Issue → Bool
  | unbalancedComment .. | malformedEntry .. | unreadableFile .. => true
  | _ => false

theorem isError_of_isFromLoading
    {issue : Issue}
    (h : issue.isFromLoading = true) :
    issue.isError = false := by
  cases issue with
  | unbalancedComment | malformedEntry | unreadableFile => rfl
  | _ => exact absurd h Bool.false_ne_true

theorem cases_of_isFromLoading
    {issue : Issue}
    (h : issue.isFromLoading = true) :
    (∃ file line, issue = .unbalancedComment file line) ∨
    (∃ file line text remainder, issue = .malformedEntry file line text remainder) ∨
    ∃ file cause, issue = .unreadableFile file cause := by
  cases issue with
  | unbalancedComment file line => exact .inl ⟨file, line, rfl⟩
  | malformedEntry file line text remainder => exact .inr (.inl ⟨file, line, text, remainder, rfl⟩)
  | unreadableFile file cause => exact .inr (.inr ⟨file, cause, rfl⟩)
  | _ => exact absurd h Bool.false_ne_true

/-- What is found while files are loaded is told apart by its place, but for malformed entries. -/
theorem eq_or_malformedEntry_of_cmp
    {first second : Issue}
    (hfirst : first.isFromLoading = true)
    (hsecond : second.isFromLoading = true)
    (h : cmp first second = .eq) :
    first = second ∨
      ∃ file line text remainder text' remainder',
        first = .malformedEntry file line text remainder ∧
        second = .malformedEntry file line text' remainder' := by
  obtain ⟨hlocation, hrank, hmessage⟩ := cmp_eq_iff.mp h
  simp only [location] at hlocation
  -- Findings of different kinds have different ranks.
  rcases cases_of_isFromLoading hfirst with
    ⟨file, line, rfl⟩ | ⟨file, line, text, remainder, rfl⟩ | ⟨file, cause, rfl⟩ <;>
  rcases cases_of_isFromLoading hsecond with
    ⟨file', line', rfl⟩ | ⟨file', line', text', remainder', rfl⟩ | ⟨file', cause', rfl⟩ <;>
  simp only [ruleRank, Nat.reduceEqDiff] at hrank
  case inl.inl =>
    obtain ⟨rfl, rfl, -⟩ := Location.mk.inj hlocation
    exact .inl rfl
  case inr.inl.inr.inl =>
    obtain ⟨rfl, rfl, -⟩ := Location.mk.inj hlocation
    exact .inr ⟨file, line, text, remainder, text', remainder', rfl, rfl⟩
  case inr.inr.inr.inr =>
    obtain ⟨rfl, -⟩ := Location.mk.inj hlocation
    exact .inl (congrArg _ hmessage)

end Issue

namespace Verdict

/-- Findings behind others can come in any order if only equal ones are at one place. -/
theorem ofIssues_append_eq_of_perm
    (found : List Issue)
    {first second : List Issue}
    (hperm : first.Perm second)
    (hties : ∀ a ∈ first, ∀ b ∈ first, Issue.cmp a b = .eq → a = b)
    (coverage : Coverage) :
    ofIssues (found ++ first) coverage = ofIssues (found ++ second) coverage := by
  have hsorted : sortBy Issue.cmp (found ++ first) = sortBy Issue.cmp (found ++ second) := by
    refine sortBy_eq_of_filter_eq Issue.cmp fun issue => ?_
    rw [List.filter_append, List.filter_append, filter_eq_of_perm Issue.cmp hperm hties]
  rw [ofIssues, hsorted, ofIssues]

theorem mem_issues_ofIssues
    {found : List Issue}
    {coverage : Coverage}
    {issue : Issue} :
    issue ∈ (ofIssues found coverage).issues ↔ issue ∈ found :=
  mem_sortBy

/-- Findings can be left out before or after they are put in the order of a report. -/
theorem filter_issues_ofIssues
    (keep : Issue → Bool)
    (found : List Issue)
    (coverage : Coverage) :
    (ofIssues found coverage).issues.filter keep = sortBy Issue.cmp (found.filter keep) :=
  filter_sortBy Issue.cmp keep found

end Verdict

namespace ExitStatus

/-- A run fails exactly if some finding is an error, and else succeeds. -/
theorem ofVerdict_ofIssues_eq_failure_iff
    {found : List Issue}
    {coverage : Coverage} :
    ofVerdict (.ofIssues found coverage) = .failure ↔ ∃ issue ∈ found, issue.isError = true := by
  rw [ofVerdict, ite_eq_left_iff]
  simp only [Verdict.ofIssues, List.countP_pos_iff, mem_sortBy, reduceCtorEq, imp_false, not_not]

theorem ofVerdict_cases
    (verdict : Verdict) :
    ofVerdict verdict = .failure ∨ ofVerdict verdict = .success := by
  rw [ofVerdict]
  split
  · exact .inl rfl
  · exact .inr rfl

theorem ofVerdict_eq_of_failure_iff
    {first second : Verdict}
    (h : ofVerdict first = .failure ↔ ofVerdict second = .failure) :
    ofVerdict first = ofVerdict second := by
  rcases ofVerdict_cases second with hsecond | hsecond
  · rw [hsecond, h.mpr hsecond]
  · rcases ofVerdict_cases first with hfirst | hfirst
    · rw [hfirst, h.mp hfirst]
    · rw [hfirst, hsecond]

end ExitStatus
end StringsAudit
