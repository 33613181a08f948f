import Mathlib.Data.List.Basic
import StringsAudit.Report

/-!
# What the lines of a report can be

A line of a report is about a finding or about all of them. There are seven kinds of lines about a
finding, and each shows texts of the finding and nothing else but words of the report.

## Main results

* `mem_lines_cases` : the lines of a report.
* `mem_issueLines_cases` : the lines about a finding.
* `exists_site_of_mem_usageLines` : the lines about further places.
-/

namespace StringsAudit
namespace Report

open Text

variable {line : Styled} {gutter : Nat}

theorem toList_blanks
    (count : Nat) :
    (blanks count).toList = List.replicate count ' ' :=
  String.toList_ofList

theorem length_blanks
    (count : Nat) :
    (blanks count).length = count := by
  rw [← String.length_toList, toList_blanks, List.length_replicate]

theorem not_mem_blanks
    {c : Char}
    (hc : c ≠ ' ')
    (count : Nat) :
    c ∉ (blanks count).toList := by
  rw [toList_blanks]
  exact fun hmem => hc (List.eq_of_mem_replicate hmem)

/-- A remark on a further place shows the place, the last one with the number of those left out. -/
theorem exists_site_of_mem_usageLines
    {usages : List Site}
    (hline : line ∈ usageLines gutter usages) :
    ∃ site ∈ usages, ∃ text, line = remarkLine gutter (.strong "also used:") text ∧
      (text = placeText site.location ∨
        ∃ more : Nat,
          text = placeText site.location ++ (" (and " ++ (Nat.repr more ++ " more)"))) := by
  obtain ⟨text, htext, rfl⟩ := List.mem_map.mp hline
  have hplaces {text : String}
      (hmem : text ∈ (usages.take maxUsages).map fun site => placeText site.location) :
      ∃ site ∈ usages, placeText site.location = text := by
    obtain ⟨site, hsite, heq⟩ := List.mem_map.mp hmem
    exact ⟨site, List.mem_of_mem_take hsite, heq⟩
  generalize ((usages.take maxUsages).map fun site => placeText site.location) = places
    at hplaces htext
  cases hlast : places.getLast? with
  | none => simp [hlast] at htext
  | some last =>
      obtain ⟨site, hsite, rfl⟩ := hplaces (List.mem_of_getLast? hlast)
      simp only [hlast, List.mem_append, List.mem_singleton] at htext
      rcases htext with htext | rfl
      · obtain ⟨other, hother, rfl⟩ := hplaces (List.dropLast_subset _ htext)
        exact ⟨other, hother, _, rfl, .inl rfl⟩
      · refine ⟨site, hsite, _, rfl, ?_⟩
        split
        next =>
          refine .inr ⟨usages.length - maxUsages, ?_⟩
          simp only [← String.append_assoc]
          rfl
        next => exact .inl rfl

/-- The kinds of lines about a finding. -/
theorem mem_issueLines_cases
    {issue : Issue}
    (hline : line ∈ issueLines gutter issue) :
    line = headLine issue ∨
    line = placeLine issue ∨
    (∃ site, issue.place = .source site ∧ line ∈ quoteLines gutter issue.severity site) ∨
    (∃ text, issue.details? = some text ∧ line = remarkLine gutter (.strong "note:") text) ∨
    (∃ text, issue.hint? = some text ∧ line = remarkLine gutter (.strongIn .cyan "hint:") text) ∨
    line ∈ usageLines gutter issue.usages ∨
    line = [] := by
  simp only [issueLines, List.mem_append, List.mem_cons, List.not_mem_nil, or_false,
    Option.mem_toList, Option.map_eq_some_iff, or_assoc] at hline
  rcases hline with rfl | rfl | hquote | ⟨text, htext, rfl⟩ | ⟨text, htext, rfl⟩ | husage | rfl
  · exact .inl rfl
  · exact .inr (.inl rfl)
  · split at hquote
    next site hplace => exact .inr (.inr (.inl ⟨site, hplace, hquote⟩))
    next => exact absurd hquote List.not_mem_nil
  · exact .inr (.inr (.inr (.inl ⟨text, htext, rfl⟩)))
  · exact .inr (.inr (.inr (.inr (.inl ⟨text, htext, rfl⟩))))
  · exact .inr (.inr (.inr (.inr (.inr (.inl husage)))))
  · exact .inr (.inr (.inr (.inr (.inr (.inr rfl)))))

/-- A line of a report is about a finding, or about all of them. -/
theorem mem_lines_cases
    {issues : List Issue}
    (hline : line ∈ lines issues) :
    (∃ issue ∈ issues, line ∈ issueLines (gutterWidth issues) issue) ∨
      line ∈ summaryLines issues := by
  rw [lines] at hline
  split at hline
  next => exact absurd hline List.not_mem_nil
  next => exact (List.mem_append.mp hline).imp_left List.mem_flatMap.mp

end Report
end StringsAudit
