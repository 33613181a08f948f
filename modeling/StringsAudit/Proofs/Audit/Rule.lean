import Mathlib.Data.List.Basic
import StringsAudit.Audit
import StringsAudit.Proofs.Check.Group
import StringsAudit.Proofs.Check.Usage
import StringsAudit.Proofs.Verdict

/-!
# Whose findings are whose

The rank of a finding tells which rule made it, and whether it is an error.

## Main definitions

* `Rule.rank` : the rank of the findings of a rule.
* `Rule.findsErrors` : whether they are errors.

## Main results

* `Evidence.ruleRank_of_mem_issuesOf` : a finding has the rank of the rule that made it.
* `Evidence.isError_of_mem_issuesOf` : a finding is an error if its rule finds errors.
* `Evidence.mem_issues_iff_of_mem_issuesOf` : a finding is made if its rule was selected.
-/

namespace StringsAudit

open Check

/-- The rank of the findings of a rule among findings at one place. -/
def Rule.rank : Rule → Nat
  | .duplicate => 0
  | .missing => 1
  | .identical => 2
  | .valueEqualsKey => 3
  | .placeholder => 4
  | .unused => 5
  | .ghost => 6

theorem Rule.eq_of_rank_eq
    {first second : Rule}
    (h : first.rank = second.rank) :
    first = second := by
  revert h
  cases first <;> cases second <;> decide

/-- Whether the findings of a rule are errors. -/
def Rule.findsErrors : Rule → Bool
  | .duplicate | .missing | .placeholder | .ghost => true
  | .identical | .valueEqualsKey | .unused => false

theorem Issue.isError_eq_any
    (issue : Issue) :
    issue.isError = Rule.all.any fun rule => rule.findsErrors && rule.rank == issue.ruleRank := by
  cases issue <;> rfl

theorem Rule.rank_lt_ruleRank
    {issue : Issue}
    (h : issue.isFromLoading = true)
    (rule : Rule) :
    rule.rank < issue.ruleRank := by
  have hrule : rule.rank ≤ 6 := by cases rule <;> decide
  have hissue : 6 < issue.ruleRank := by
    cases issue with
    | unbalancedComment | malformedEntry | unreadableFile => simp [Issue.ruleRank]
    | _ => exact absurd h Bool.false_ne_true
  omega

/-- A finding has the rank of the rule that made it. -/
theorem Evidence.ruleRank_of_mem_issuesOf
    {evidence : Evidence}
    {rule : Rule}
    {issue : Issue}
    (h : issue ∈ evidence.issuesOf rule) :
    issue.ruleRank = rule.rank := by
  cases rule with
  | duplicate =>
      obtain ⟨group, -, h⟩ := List.mem_flatMap.mp h
      obtain ⟨_, -, _, -, rfl⟩ := mem_duplicates_iff.mp h
      rfl
  | missing =>
      obtain ⟨group, -, h⟩ := List.mem_flatMap.mp h
      obtain ⟨_, -, _, -, -, rfl⟩ := mem_missing_iff.mp h
      rfl
  | identical =>
      obtain ⟨group, -, h⟩ := List.mem_flatMap.mp h
      obtain ⟨_, _, _, _, _, -, rfl⟩ := mem_identical_iff.mp h
      rfl
  | valueEqualsKey =>
      obtain ⟨group, -, h⟩ := List.mem_flatMap.mp h
      obtain ⟨_, -, _, -, rfl⟩ := mem_valueEqualsKey_iff.mp h
      rfl
  | placeholder =>
      obtain ⟨group, -, h⟩ := List.mem_flatMap.mp h
      obtain ⟨_, _, -, _, -, _, -, -, rfl⟩ := mem_placeholders_iff.mp h
      rfl
  | unused =>
      obtain ⟨_, _, _, -, -, rfl⟩ := mem_unused_iff.mp h
      rfl
  | ghost =>
      obtain ⟨_, _, _, -, -, rfl⟩ := mem_ghosts_iff.mp h
      rfl

/-- A finding is an error exactly if it is one of a rule that finds errors. -/
theorem Evidence.isError_of_mem_issuesOf
    {evidence : Evidence}
    {rule : Rule}
    {issue : Issue}
    (h : issue ∈ evidence.issuesOf rule) :
    issue.isError = rule.findsErrors := by
  rw [issue.isError_eq_any, ruleRank_of_mem_issuesOf h]
  cases rule <;> rfl

theorem Evidence.filter_rank_issuesOf_of_ne
    {evidence : Evidence}
    {rule other : Rule}
    (h : rule ≠ other) :
    (evidence.issuesOf rule).filter (·.ruleRank == other.rank) = [] := by
  refine List.filter_eq_nil_iff.mpr fun issue hissue => ?_
  rw [ruleRank_of_mem_issuesOf hissue, beq_iff_eq]
  exact fun heq => h (Rule.eq_of_rank_eq heq)

/-- What a rule finds is among the findings exactly if the rule was selected. -/
theorem Evidence.mem_issues_iff_of_mem_issuesOf
    {evidence : Evidence}
    (hload : ∀ issue ∈ evidence.loadIssues, issue.isFromLoading = true)
    {rule : Rule}
    {issue : Issue}
    (hissue : issue ∈ evidence.issuesOf rule)
    (rules : List Rule) :
    issue ∈ evidence.issues rules ↔ rule ∈ rules := by
  have hrank := ruleRank_of_mem_issuesOf hissue
  rw [issues, List.mem_append, List.mem_flatMap]
  constructor
  · rintro (⟨other, hother, hfound⟩ | hloaded)
    · have heq : rule = other :=
        Rule.eq_of_rank_eq (hrank.symm.trans (ruleRank_of_mem_issuesOf hfound))
      exact heq ▸ hother
    · have hlt := Rule.rank_lt_ruleRank (hload issue hloaded) rule
      omega
  · exact fun hrule => .inl ⟨rule, hrule, hissue⟩

end StringsAudit
