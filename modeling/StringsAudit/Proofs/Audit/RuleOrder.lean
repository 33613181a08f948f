import Mathlib.Data.List.Basic
import StringsAudit.Proofs.Audit.Rule

/-!
# The order in which rules run

A report orders findings by place, rule and message, so different findings can tie. Ties keep the
order in which the findings were made, but they never cross rules: all findings of a class are those
of one rule, or were made while loading, and these come last whatever the rules are. So the order in
which the rules were selected leaves no trace.

## Main results

* `filter_cmp_flatMap_eq_of_perm` : each class of ties comes in one order.
* `verdict_eq_of_rules_perm` : rules in another order give the same verdict.
-/

namespace StringsAudit
namespace Evidence

variable {evidence : Evidence}

/-- The findings of a rule do not tie with findings of another rank. -/
theorem filter_cmp_issuesOf_eq_nil
    {rule : Rule}
    {issue : Issue}
    (hrank : rule.rank ≠ issue.ruleRank) :
    (evidence.issuesOf rule).filter (Issue.cmp issue · == .eq) = [] := by
  refine List.filter_eq_nil_iff.mpr fun found hfound htie => ?_
  have hsame := (Issue.cmp_eq_iff.mp (beq_iff_eq.mp htie)).2.1
  exact hrank ((ruleRank_of_mem_issuesOf hfound).symm.trans hsame.symm)

/-- What rules find of a class of ties comes in one order, whatever order the rules run in. -/
theorem filter_cmp_flatMap_eq_of_perm
    {first second : List Rule}
    (hperm : first.Perm second)
    (issue : Issue) :
    (first.flatMap evidence.issuesOf).filter (Issue.cmp issue · == .eq) =
      (second.flatMap evidence.issuesOf).filter (Issue.cmp issue · == .eq) := by
  induction hperm with
  | nil => rfl
  | cons rule _ ih =>
      rw [List.flatMap_cons, List.filter_append, ih, List.flatMap_cons, List.filter_append]
  | swap rule other rest =>
      simp only [List.flatMap_cons, List.filter_append]
      by_cases heq : rule = other
      · rw [heq]
      · -- Of two different rules, one has nothing in the class.
        have hrank : rule.rank ≠ issue.ruleRank ∨ other.rank ≠ issue.ruleRank := by
          by_contra hboth
          rw [not_or, not_not, not_not] at hboth
          exact heq (Rule.eq_of_rank_eq (hboth.1.trans hboth.2.symm))
        rcases hrank with hrank | hrank
        · rw [filter_cmp_issuesOf_eq_nil hrank, List.nil_append, List.nil_append]
        · rw [filter_cmp_issuesOf_eq_nil hrank, List.nil_append, List.nil_append]
  | trans _ _ ih ih' => exact ih.trans ih'

/--
Rules in another order, each selected as often as before, give the same findings in the same order,
the same numbers and the same exit status.
-/
theorem verdict_eq_of_rules_perm
    (evidence : Evidence)
    {first second : List Rule}
    (hperm : first.Perm second)
    (coverage : Coverage) :
    Verdict.ofIssues (evidence.issues first) coverage =
      Verdict.ofIssues (evidence.issues second) coverage ∧
    ExitStatus.ofVerdict (.ofIssues (evidence.issues first) coverage) =
      ExitStatus.ofVerdict (.ofIssues (evidence.issues second) coverage) := by
  have hsorted : sortBy Issue.cmp (evidence.issues first) =
      sortBy Issue.cmp (evidence.issues second) := by
    refine sortBy_eq_of_filter_eq Issue.cmp fun issue => ?_
    rw [issues, List.filter_append, filter_cmp_flatMap_eq_of_perm hperm, issues,
      List.filter_append]
  have hverdict : Verdict.ofIssues (evidence.issues first) coverage =
      Verdict.ofIssues (evidence.issues second) coverage := by
    rw [Verdict.ofIssues, hsorted, Verdict.ofIssues]
  exact ⟨hverdict, by rw [hverdict]⟩

/--
Two databases of one file lack a key, so the findings about them tie; a rule that runs twice finds
each of them twice, before or behind what the other rule finds.
-/
theorem verdict_of_rules_with_ties :
    let english : Database :=
      .ofAssignments "en.lproj" "en" "en.lproj/L.strings" [⟨"title", 1, "Title"⟩]
    let german : Database := .ofAssignments "de.lproj" "de" "de.lproj/L.strings" []
    let austrian : Database := .ofAssignments "at.lproj" "at" "de.lproj/L.strings" []
    let evidence : Evidence :=
      ⟨[⟨"L.strings", [english, german, austrian]⟩],
        .insert .empty "titel" ⟨⟨"A.swift", 3, 9⟩, "let t = \"titel\".localized"⟩, "%@",
        [.unreadableFile "de.lproj/L.strings" "title"]⟩
    let verdict := fun (rules : List Rule) => Verdict.ofIssues (evidence.issues rules) ⟨3, 1, 1⟩
    (∃ first ∈ evidence.issuesOf .missing, ∃ second ∈ evidence.issuesOf .missing,
      first ≠ second ∧ Issue.cmp first second = .eq) ∧
    [Rule.ghost, .missing, .missing].Perm [.missing, .ghost, .missing] ∧
    verdict [.ghost, .missing, .missing] = verdict [.missing, .ghost, .missing] ∧
    ExitStatus.ofVerdict (verdict [.ghost, .missing, .missing]) =
      ExitStatus.ofVerdict (verdict [.missing, .ghost, .missing]) := by
  intro english german austrian evidence verdict
  have hperm : [Rule.ghost, .missing, .missing].Perm [.missing, .ghost, .missing] :=
    .swap Rule.missing Rule.ghost [.missing]
  exact ⟨by decide +kernel, hperm, verdict_eq_of_rules_perm evidence hperm ⟨3, 1, 1⟩⟩

end Evidence
end StringsAudit
