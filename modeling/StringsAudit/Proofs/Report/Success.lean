import Std.Data.String.ToNat
import StringsAudit.Proofs.Report.Lines

/-!
# When success is reported, and what it says

The line that reports success is shown when there are no findings and only then, and its numbers can
be read back from it, so it tells what a run looked at.

## Main results

* `repr_append_inj` : a number with something else behind it is read back.
* `successLine_inj` : the line of success determines the numbers in it.
* `successLine_mem_verdictLines_iff` : when it is shown.
-/

namespace StringsAudit
namespace Report

open Text

/-! ### Numbers in a text -/

/-- The digits that a text starts with are those of the number in front. -/
theorem takeWhile_isDigit_repr_append
    (n : Nat)
    {word : String}
    (hword : word.toList.head? = some ' ')
    (rest : String) :
    (Nat.repr n ++ (word ++ rest)).toList.takeWhile Char.isDigit = (Nat.repr n).toList := by
  have hdigits : ∀ c ∈ (Nat.repr n).toList, c.isDigit = true := by
    rw [Nat.toList_repr]
    exact fun c hc => Nat.isDigit_of_mem_toDigits (by decide) (by decide) hc
  obtain ⟨more, hmore⟩ := List.head?_eq_some_iff.mp hword
  rw [String.toList_append, String.toList_append, List.takeWhile_append_of_pos hdigits, hmore,
    List.cons_append, List.takeWhile_cons_of_neg (by decide), List.append_nil]

/-- A number is read back where a word follows it, and so is what stands behind the word. -/
theorem repr_append_inj
    {m n : Nat}
    {word first second : String}
    (hword : word.toList.head? = some ' ')
    (h : Nat.repr m ++ (word ++ first) = Nat.repr n ++ (word ++ second)) :
    m = n ∧ first = second := by
  have hdigits : (Nat.repr m).toList = (Nat.repr n).toList := by
    rw [← takeWhile_isDigit_repr_append m hword first, h,
      takeWhile_isDigit_repr_append n hword second]
  obtain rfl : m = n := Nat.repr_injective (String.toList_injective hdigits)
  exact ⟨rfl, (String.append_right_inj word).mp ((String.append_right_inj _).mp h)⟩

/-! ### The line of success -/

/-- What the line of success says. -/
def successText (coverage : Coverage) : String :=
  "Checked " ++ (Nat.repr coverage.resourceFiles ++ (" resource "
    ++ (plural coverage.resourceFiles "file" "files" ++ (" in " ++ (Nat.repr coverage.groups
      ++ (" " ++ (plural coverage.groups "group" "groups" ++ (", "
        ++ (Nat.repr coverage.sourceFiles ++ (" source "
          ++ (plural coverage.sourceFiles "file" "files" ++ " - no issues found")))))))))))

theorem successLine_eq
    (coverage : Coverage) :
    successLine coverage =
      [⟨.inColor .green, successMark⟩, ⟨.plain, " "⟩,
        ⟨.inColor .green, successText coverage⟩] := by
  simp only [successLine, successText, String.append_assoc]
  rfl

/-- The line of success determines the numbers in it. -/
theorem successLine_inj
    {first second : Coverage}
    (h : successLine first = successLine second) :
    first = second := by
  obtain ⟨resources, groups, sources⟩ := first
  obtain ⟨resources', groups', sources'⟩ := second
  simp only [successLine_eq, List.cons.injEq, Span.mk.injEq, true_and, and_true, successText,
    String.append_right_inj] at h
  -- Words depend on the number in front of them, so the numbers are read from left to right.
  obtain ⟨rfl, h⟩ := repr_append_inj rfl h
  simp only [String.append_right_inj] at h
  obtain ⟨rfl, h⟩ := repr_append_inj rfl h
  simp only [String.append_right_inj] at h
  obtain ⟨rfl, -⟩ := repr_append_inj rfl h
  rfl

/-! ### When it is shown -/

/-- Whether a line starts with a piece in green. -/
def startsGreen (line : Styled) : Bool :=
  line.head?.any (·.style == .inColor .green)

theorem startsGreen_successLine
    (coverage : Coverage) :
    startsGreen (successLine coverage) = true := by
  rw [successLine_eq]
  rfl

theorem startsGreen_remarkLine
    (gutter : Nat)
    (label : Styled)
    (text : String) :
    startsGreen (remarkLine gutter label text) = false := by
  rfl

/-- No line about a finding starts in green. -/
theorem startsGreen_of_mem_issueLines
    {gutter : Nat}
    {issue : Issue}
    {line : Styled}
    (hline : line ∈ issueLines gutter issue) :
    startsGreen line = false := by
  rcases mem_issueLines_cases hline with
    rfl | rfl | ⟨site, -, hquote⟩ | ⟨_, -, rfl⟩ | ⟨_, -, rfl⟩ | husage | rfl
  · rfl
  · rfl
  · simp only [quoteLines, List.mem_cons, List.not_mem_nil, or_false] at hquote
    rcases hquote with rfl | rfl | rfl <;> rfl
  · exact startsGreen_remarkLine ..
  · exact startsGreen_remarkLine ..
  · obtain ⟨_, -, _, rfl, -⟩ := exists_site_of_mem_usageLines husage
    exact startsGreen_remarkLine ..
  · rfl

/-- No line of a report of findings starts in green. -/
theorem startsGreen_of_mem_lines
    {issues : List Issue}
    {line : Styled}
    (hline : line ∈ lines issues) :
    startsGreen line = false := by
  obtain ⟨_, -, hissue⟩ | hsummary := mem_lines_cases hline
  · exact startsGreen_of_mem_issueLines hissue
  · simp only [summaryLines, List.mem_cons, List.not_mem_nil, or_false] at hsummary
    rcases hsummary with rfl | rfl <;> rfl

/-- Success is reported exactly if there are no findings, with the numbers of the verdict. -/
theorem successLine_mem_verdictLines_iff
    {coverage : Coverage}
    {verdict : Verdict} :
    successLine coverage ∈ verdictLines verdict ↔
      verdict.issues = [] ∧ coverage = verdict.coverage := by
  rw [verdictLines]
  by_cases hissues : verdict.issues = []
  · simp only [hissues, List.isEmpty_nil, if_true, List.mem_singleton, true_and]
    exact ⟨successLine_inj, fun h => h ▸ rfl⟩
  · rw [if_neg (mt List.isEmpty_iff.mp hissues)]
    refine iff_of_false (fun hline => ?_) fun h => hissues h.1
    have hgreen := startsGreen_of_mem_lines hline
    rw [startsGreen_successLine] at hgreen
    cases hgreen

end Report
end StringsAudit
