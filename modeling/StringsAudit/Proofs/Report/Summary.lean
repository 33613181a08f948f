import Mathlib.Data.Prod.Lex
import Mathlib.Data.String.Basic
import StringsAudit.Proofs.Report.Success
import StringsAudit.Proofs.Text.Styled
import StringsAudit.Proofs.Verdict

/-!
# The order and the numbers of a report

A verdict puts findings in order and counts them, and a report counts what it shows once more. Both
counts are the same, and since they can be read back from the last line of a report, that line tells
whether the run failed.

## Main definitions

* `Issue.sortKey` : what findings are ordered by.
* `summaryText` : what the last line of a report says.
* `EndsWith` : a report whose last line says some numbers.

## Main results

* `Issue.isLE_cmp_iff` : the order of findings is that of their keys.
* `summaryText_inj` : the numbers can be read back from the last line.
* `endsWith_iff` : the numbers in the last line of a report.
* `order_and_numbers_of_verdict` : the report of a verdict shows its numbers.
-/

namespace StringsAudit

/-! ### The order of findings -/

namespace Issue

/-- What findings are ordered by: the place, then the rule, then the message. -/
def sortKey (issue : Issue) : (String ×ₗ Nat ×ₗ Nat) ×ₗ Nat ×ₗ String :=
  toLex (toLex (issue.location.file, toLex (issue.location.line, issue.location.col)),
    toLex (issue.ruleRank, issue.message))

variable {first second : Issue}

theorem sortKey_eq_iff :
    first.sortKey = second.sortKey ↔
      first.location = second.location ∧ first.ruleRank = second.ruleRank ∧
        first.message = second.message := by
  simp only [sortKey, EmbeddingLike.apply_eq_iff_eq, Prod.mk.injEq]
  rw [← Location.mk.injEq]

theorem sortKey_lt_iff :
    first.sortKey < second.sortKey ↔ cmp first second = .lt := by
  simp only [sortKey, cmp, Location.cmp, compareLex, compareOn, Ordering.then_eq_lt,
    Ordering.then_eq_eq, compare_lt_iff_lt, compare_eq_iff_eq, Prod.Lex.toLex_lt_toLex,
    EmbeddingLike.apply_eq_iff_eq, Prod.mk.injEq]

/-- The order of findings is that of their keys. -/
theorem isLE_cmp_iff :
    (cmp first second).isLE ↔ first.sortKey ≤ second.sortKey := by
  rw [Ordering.isLE_iff_eq_lt_or_eq_eq, le_iff_lt_or_eq, sortKey_lt_iff, sortKey_eq_iff,
    cmp_eq_iff]

theorem cmp_beq_eq
    (first second : Issue) :
    (cmp first second == .eq) = decide (second.sortKey = first.sortKey) := by
  rw [Bool.beq_eq_decide_eq, decide_eq_decide, cmp_eq_iff, sortKey_eq_iff]
  exact ⟨fun h => ⟨h.1.symm, h.2.1.symm, h.2.2.symm⟩, fun h => ⟨h.1.symm, h.2.1.symm, h.2.2.symm⟩⟩

end Issue

theorem ExitStatus.code_ofVerdict_eq_one_iff
    {verdict : Verdict} :
    (ofVerdict verdict).code = 1 ↔ 0 < verdict.errors := by
  rw [ofVerdict]
  split <;> simp [code, *]

namespace Report

open Text

/-! ### The last line -/

/-- A number with its noun, which is in the plural unless the number is one. -/
def counted (count : Nat) (noun : String) : String :=
  Nat.repr count ++ (" " ++ (if count = 1 then noun else noun ++ "s"))

/-- What the last line of a report says. -/
def summaryText (total errors warnings : Nat) : String :=
  failureMark ++ (" " ++ (counted total "problem" ++ (" (" ++ (counted errors "error" ++ (", "
    ++ (counted warnings "warning" ++ ")"))))))

/-- A report whose last line says some numbers. -/
def EndsWith (shown : List Styled) (total errors warnings : Nat) : Prop :=
  shown.getLast?.map (Styled.render false) = some (summaryText total errors warnings)

/-- A number is read back from what is counted, whatever is behind. -/
theorem counted_append_inj
    {m n : Nat}
    {noun first second : String}
    (h : counted m noun ++ first = counted n noun ++ second) :
    m = n ∧ first = second := by
  simp only [counted, String.append_assoc] at h
  obtain ⟨rfl, h⟩ := repr_append_inj rfl h
  exact ⟨rfl, (String.append_right_inj _).mp h⟩

/-- The numbers can be read back from the last line. -/
theorem summaryText_inj
    {total errors warnings total' errors' warnings' : Nat} :
    summaryText total errors warnings = summaryText total' errors' warnings' ↔
      total = total' ∧ errors = errors' ∧ warnings = warnings' := by
  constructor
  · intro h
    simp only [summaryText, String.append_right_inj] at h
    obtain ⟨htotal, h⟩ := counted_append_inj h
    obtain ⟨herrors, h⟩ := counted_append_inj ((String.append_right_inj _).mp h)
    obtain ⟨hwarnings, -⟩ := counted_append_inj ((String.append_right_inj _).mp h)
    exact ⟨htotal, herrors, hwarnings⟩
  · rintro ⟨rfl, rfl, rfl⟩
    rfl

theorem counted_eq_plural
    (count : Nat)
    (noun : String) :
    counted count noun = toString count ++ (" " ++ plural count noun (noun ++ "s")) :=
  rfl

/-- The last line of a report counts the findings that it shows. -/
theorem render_getLast?_summaryLines
    (issues : List Issue) :
    let errors := issues.countP (·.isError)
    let warnings := issues.length - errors
    (summaryLines issues).getLast?.map (Styled.render false) =
      some (summaryText (errors + warnings) errors warnings) := by
  intro errors warnings
  have hopen : " (" = " " ++ "(" := rfl
  have hnext : ", " = "," ++ " " := rfl
  have hline : Styled.render false (.spaced [.inColor .red failureMark,
      .plain (toString (errors + warnings)),
      .plain (plural (errors + warnings) "problem" "problems"),
      .plain s!"({errors}", .inColor .red (plural errors "error" "errors") ++ .plain ",",
      .plain (toString warnings), .inColor .yellow (plural warnings "warning" "warnings")
        ++ .plain ")"]) = summaryText (errors + warnings) errors warnings := by
    simp only [Styled.render_spaced, List.map_cons, List.map_nil, String.intercalate_cons_cons,
      String.intercalate_singleton, Styled.render_append, Styled.render_plain_text,
      Styled.render_false_inColor, summaryText, counted_eq_plural, hopen, hnext,
      String.append_assoc]
    rfl
  exact congrArg some hline

/-- The numbers in the last line of a report are those of the findings that it shows. -/
theorem endsWith_iff
    {issues : List Issue}
    {total errors warnings : Nat} :
    EndsWith (lines issues) total errors warnings ↔
      issues ≠ [] ∧ total = issues.length ∧ errors = issues.countP (·.isError) ∧
        warnings = issues.length - issues.countP (·.isError) := by
  rw [EndsWith, lines]
  by_cases hissues : issues = []
  · simp [hissues]
  · have hlast (shown : List Styled) :
        (shown ++ summaryLines issues).getLast? = (summaryLines issues).getLast? :=
      List.getLast?_append_of_ne_nil _ (List.cons_ne_nil _ _)
    have htotal : issues.countP (·.isError) + (issues.length - issues.countP (·.isError)) =
        issues.length :=
      Nat.add_sub_of_le List.countP_le_length
    rw [if_neg (mt List.isEmpty_iff.mp hissues), hlast, render_getLast?_summaryLines,
      Option.some.injEq, summaryText_inj, htotal]
    simp only [hissues, ne_eq, not_false_eq_true, true_and, eq_comm]

theorem renderLines_eq_empty_iff
    {colored : Bool}
    {shown : List Styled} :
    Styled.renderLines colored shown = "" ↔ shown = [] := by
  cases shown with
  | nil => simp [Styled.renderLines]
  | cons line rest => simp [Styled.renderLines_cons, String.append_eq_empty_iff]

/-! ### Verdicts -/

/-- Findings about files that could not be read are among the warnings. -/
theorem countP_isUnreadableFile_le
    (issues : List Issue) :
    issues.countP (·.isUnreadableFile) ≤ issues.length - issues.countP (·.isError) := by
  have hsplit := issues.length_eq_countP_add_countP (·.isError)
  have hwarning : ∀ issue ∈ issues, issue.isUnreadableFile = true →
      decide (¬ issue.isError = true) = true := by
    intro issue _ hunreadable
    cases issue with
    | unreadableFile file cause => rfl
    | _ => cases hunreadable
  have hle : issues.countP (·.isUnreadableFile) ≤
      issues.countP fun issue => decide (¬ issue.isError = true) :=
    List.countP_mono_left hwarning
  omega

/--
The report of a verdict shows its numbers. The findings are put in the order of their keys, where
those with the same key keep their order, and each is counted once, as an error or as a warning,
with the files that could not be read among the warnings. The last line of the report says these
numbers and no others, there is no report exactly if nothing was found, and a run fails exactly if
the report says that there are errors.
-/
theorem order_and_numbers_of_verdict
    (found : List Issue)
    (coverage : Coverage) :
    let verdict := Verdict.ofIssues found coverage
    let shown := lines verdict.issues
    verdict.issues.Perm found ∧
    (verdict.issues.Pairwise fun first second => first.sortKey ≤ second.sortKey) ∧
    (∀ issue : Issue, verdict.issues.filter (fun other => other.sortKey = issue.sortKey) =
      found.filter fun other => other.sortKey = issue.sortKey) ∧
    verdict.errors = found.countP (·.isError) ∧
    verdict.errors + verdict.warnings = found.length ∧
    verdict.unreadableFiles = found.countP (·.isUnreadableFile) ∧
    verdict.unreadableFiles ≤ verdict.warnings ∧
    (∀ total errors warnings, EndsWith shown total errors warnings ↔
      found ≠ [] ∧ total = found.length ∧ errors = verdict.errors ∧
        warnings = verdict.warnings) ∧
    (∀ colored, Styled.renderLines colored shown = "" ↔ found = []) ∧
    ((ExitStatus.ofVerdict verdict).code = 1 ↔
      ∃ total errors warnings, EndsWith shown total errors warnings ∧ errors ≠ 0) := by
  intro verdict shown
  have hperm : verdict.issues.Perm found := perm_sortBy Issue.cmp found
  have herrorCount : verdict.errors = found.countP (·.isError) := hperm.countP_eq _
  have hempty : verdict.issues = [] ↔ found = [] := by
    rw [← List.length_eq_zero_iff, hperm.length_eq, List.length_eq_zero_iff]
  have hends (total errors warnings : Nat) : EndsWith shown total errors warnings ↔
      found ≠ [] ∧ total = found.length ∧ errors = verdict.errors ∧
        warnings = verdict.warnings := by
    rw [← hperm.length_eq, ne_eq, ← hempty]
    exact endsWith_iff
  refine ⟨hperm, ?sorted, fun issue => ?ties, herrorCount,
    Verdict.errors_add_warnings found coverage, hperm.countP_eq _,
    countP_isUnreadableFile_le verdict.issues, hends, fun colored => ?silent, ?status⟩
  case sorted =>
    exact (pairwise_sortBy Issue.cmp found).imp Issue.isLE_cmp_iff.mp
  case ties =>
    have hclass := filter_cmp_sortBy Issue.cmp found issue
    simp only [Issue.cmp_beq_eq] at hclass
    exact hclass
  case silent =>
    rw [renderLines_eq_empty_iff, lines_eq_nil_iff, hempty]
  case status =>
    rw [ExitStatus.code_ofVerdict_eq_one_iff]
    constructor
    · intro herrors
      have hfound : found ≠ [] := by
        rintro rfl
        rw [herrorCount, List.countP_nil] at herrors
        exact Nat.lt_irrefl 0 herrors
      exact ⟨_, _, _, (hends ..).mpr ⟨hfound, rfl, rfl, rfl⟩, herrors.ne'⟩
    · rintro ⟨total, errors, warnings, hshown, herrors⟩
      obtain ⟨-, -, rfl, -⟩ := (hends ..).mp hshown
      exact Nat.pos_of_ne_zero herrors

end Report
end StringsAudit
