import Mathlib.Data.List.Basic
import StringsAudit.Proofs.Report.Lines
import StringsAudit.Proofs.Text.Styled

/-!
# Quoted source lines

A finding in a source file is shown with its source line: an empty row, the source line behind its
number, and a caret. The bars of the three rows stand below each other, since the gutter is as wide
as the greatest number that is shown and a smaller number has no more digits.

## Main definitions

* `blankRow`, `sourceRow`, `caretRow` : the three rows of a source line.
* `HasBarBehind` : a row whose first bar stands behind some number of characters.

## Main results

* `length_repr_le_of_le` : a smaller number has no more digits.
* `gutterWidth_cases` : the gutter has room for the greatest line number that is shown.
* `hasBarBehind_of_mem_rowsOf` : the bars of the rows stand below each other.
* `rows_of_quoted_source_lines` : the rows of each source line that is quoted.
* `drop_rows_of_isPrintableAscii` : the caret stands below the character at the column.
-/

namespace StringsAudit
namespace Report

open Text

/-! ### The gutter -/

/-- A smaller number has no more digits. -/
theorem length_repr_le_of_le
    {m n : Nat}
    (h : m ≤ n) :
    (Nat.repr m).length ≤ (Nat.repr n).length := by
  have hpos : 0 < (Nat.repr n).length := by
    rw [← String.length_toList, Nat.toList_repr]
    exact Nat.length_toDigits_pos
  have hn : n < 10 ^ (Nat.repr n).length := (Nat.length_repr_le_iff hpos).mp (Nat.le_refl _)
  exact (Nat.length_repr_le_iff hpos).mpr (Nat.lt_of_le_of_lt h hn)

theorem quotedLine?_eq_some_iff
    {issue : Issue}
    {line : Nat} :
    quotedLine? issue = some line ↔
      ∃ site, issue.place = .source site ∧ site.location.line = line := by
  rw [quotedLine?, Issue.location]
  cases issue.place <;> simp [Place.sourceLine?, Place.location]

/-- The gutter has room for the greatest line number that is shown, or for one column. -/
theorem gutterWidth_cases
    (issues : List Issue) :
    ((∀ issue ∈ issues, ∀ site, issue.place ≠ .source site) ∧ gutterWidth issues = 1) ∨
    ∃ issue ∈ issues, ∃ site, issue.place = .source site ∧
      gutterWidth issues = (Nat.repr site.location.line).length ∧
      ∀ other ∈ issues, ∀ place, other.place = .source place →
        place.location.line ≤ site.location.line := by
  rw [gutterWidth]
  cases hmax : (issues.filterMap quotedLine?).max? with
  | none =>
      refine .inl ⟨fun issue hissue site hplace => ?_, rfl⟩
      rw [List.max?_eq_none_iff, List.filterMap_eq_nil_iff] at hmax
      have hquoted := quotedLine?_eq_some_iff.mpr ⟨site, hplace, rfl⟩
      rw [hmax issue hissue] at hquoted
      cases hquoted
  | some line =>
      obtain ⟨hmem, hgreatest⟩ := List.max?_eq_some_iff.mp hmax
      obtain ⟨issue, hissue, hline⟩ := List.mem_filterMap.mp hmem
      obtain ⟨site, hplace, rfl⟩ := quotedLine?_eq_some_iff.mp hline
      refine .inr ⟨issue, hissue, site, hplace, rfl, fun other hother place hother' => ?_⟩
      exact hgreatest _ (List.mem_filterMap.mpr
        ⟨other, hother, quotedLine?_eq_some_iff.mpr ⟨place, hother', rfl⟩⟩)

/-- The gutter has room for the number of each line that is shown. -/
theorem length_repr_le_gutterWidth
    {issues : List Issue}
    {issue : Issue}
    {site : Site}
    (hissue : issue ∈ issues)
    (hplace : issue.place = .source site) :
    (Nat.repr site.location.line).length ≤ gutterWidth issues := by
  rcases gutterWidth_cases issues with ⟨hnone, -⟩ | ⟨_, -, widest, -, hwidth, hgreatest⟩
  · exact absurd hplace (hnone issue hissue site)
  · rw [hwidth]
    exact length_repr_le_of_le (hgreatest issue hissue site hplace)

/-! ### The rows -/

/-- The row above a source line. -/
def blankRow (gutter : Nat) : String :=
  blanks gutter ++ " |"

/-- The row with a source line behind its number. -/
def sourceRow (gutter : Nat) (site : Site) : String :=
  let number := Nat.repr site.location.line
  blanks (gutter - number.length) ++ number ++ " | " ++ site.sourceLine

/-- The row with a caret, behind as many blanks as the text before the column takes. -/
def caretRow (gutter : Nat) (site : Site) : String :=
  blanks gutter ++ " | " ++ blanks (width (site.sourceLine.toList.take (site.location.col - 1)))
    ++ "^"

/-- The three rows of a source line. -/
def rowsOf (gutter : Nat) (site : Site) : List String :=
  [blankRow gutter, sourceRow gutter site, caretRow gutter site]

/-- A row whose first bar stands behind some number of characters. -/
def HasBarBehind (count : Nat) (row : String) : Prop :=
  ∃ margin rest, row = margin ++ ("|" ++ rest) ∧ margin.length = count ∧ '|' ∉ margin.toList

variable {gutter : Nat} {site : Site}

/-- A source line is quoted in these rows. -/
theorem map_render_quoteLines
    (gutter : Nat)
    (severity : Severity)
    (site : Site) :
    (quoteLines gutter severity site).map (Styled.render false) = rowsOf gutter site := by
  have hbar : Styled.render false bar = "|" := by simp [bar]
  have hlast : " |" = " " ++ "|" := rfl
  have hinside : " | " = " " ++ ("|" ++ " ") := rfl
  simp only [quoteLines, List.map_cons, List.map_nil, Styled.render_spaced,
    String.intercalate_cons_cons, String.intercalate_singleton, Styled.render_append, hbar,
    Styled.render_plain_text, Styled.render_false_inColor, rowsOf, blankRow, sourceRow, caretRow,
    caretPadding, padded, hlast, hinside, String.append_assoc]
  rfl

/-- The bar of a row stands behind the gutter and a blank, if the margin fills the gutter. -/
theorem hasBarBehind_of_margin
    {margin rest : String}
    (hlength : margin.length = gutter)
    (hmargin : '|' ∉ margin.toList) :
    HasBarBehind (gutter + 1) (margin ++ (" |" ++ rest)) := by
  have hbar : " |" = " " ++ "|" := rfl
  refine ⟨margin ++ " ", rest, ?_, ?_, ?_⟩
  · rw [hbar, String.append_assoc, String.append_assoc]
  · rw [String.length_append, hlength]
    rfl
  · rw [String.toList_append, List.mem_append, not_or]
    exact ⟨hmargin, by decide⟩

/-- The bars of the rows stand below each other, as the number of the line has room. -/
theorem hasBarBehind_of_mem_rowsOf
    {row : String}
    (hroom : (Nat.repr site.location.line).length ≤ gutter)
    (hrow : row ∈ rowsOf gutter site) :
    HasBarBehind (gutter + 1) row := by
  have hinside : " | " = " |" ++ " " := rfl
  have hblanks := not_mem_blanks (c := '|') (by decide) gutter
  simp only [rowsOf, List.mem_cons, List.not_mem_nil, or_false] at hrow
  rcases hrow with rfl | rfl | rfl
  case inl =>
    have hrow : blankRow gutter = blanks gutter ++ (" |" ++ "") := by
      rw [blankRow, String.append_empty]
    rw [hrow]
    exact hasBarBehind_of_margin (length_blanks gutter) hblanks
  case inr.inl =>
    simp only [sourceRow, hinside, String.append_assoc]
    rw [← String.append_assoc]
    refine hasBarBehind_of_margin ?_ ?_
    · rw [String.length_append, length_blanks, Nat.sub_add_cancel hroom]
    · rw [String.toList_append, List.mem_append, not_or]
      exact ⟨not_mem_blanks (by decide) _, not_mem_repr (by decide) _⟩
  case inr.inr =>
    simp only [caretRow, hinside, String.append_assoc]
    exact hasBarBehind_of_margin (length_blanks gutter) hblanks

/-- A row is one line of the report. -/
theorem lineFeed_not_mem_of_mem_rowsOf
    {row : String}
    (hsource : '\n' ∉ site.sourceLine.toList)
    (hrow : row ∈ rowsOf gutter site) :
    '\n' ∉ row.toList := by
  have hblanks (count : Nat) : '\n' ∉ (blanks count).toList := not_mem_blanks (by decide) count
  have hnumber : '\n' ∉ (Nat.repr site.location.line).toList := not_mem_repr (by decide) _
  simp only [rowsOf, List.mem_cons, List.not_mem_nil, or_false] at hrow
  rcases hrow with rfl | rfl | rfl
  · simp [blankRow, hblanks]
  · simp only [sourceRow, String.toList_append, List.mem_append, not_or]
    exact ⟨⟨⟨hblanks _, hnumber⟩, by decide⟩, hsource⟩
  · simp [caretRow, hblanks]

/--
Behind printable ASCII text, the caret stands below the character at the column: from the same place
on, one row shows the source line from its column on, and the other the caret alone.
-/
theorem drop_rows_of_isPrintableAscii
    (hroom : (Nat.repr site.location.line).length ≤ gutter)
    (hcol : site.location.col - 1 ≤ site.sourceLine.length)
    (hascii : ∀ c ∈ site.sourceLine.toList.take (site.location.col - 1),
      isPrintableAscii c = true) :
    let place := gutter + 3 + (site.location.col - 1)
    (sourceRow gutter site).toList.drop place =
      site.sourceLine.toList.drop (site.location.col - 1) ∧
    (caretRow gutter site).toList.drop place = ['^'] := by
  intro place
  have hinside : " | ".toList.length = 3 := rfl
  have hwidth : width (site.sourceLine.toList.take (site.location.col - 1)) =
      site.location.col - 1 := by
    rw [width_of_isPrintableAscii hascii, List.length_take, String.length_toList]
    exact Nat.min_eq_left hcol
  constructor
  case left =>
    have hmargin : (blanks (gutter - (Nat.repr site.location.line).length)
        ++ Nat.repr site.location.line ++ " | ").toList.length = gutter + 3 := by
      simp only [String.toList_append, List.length_append, hinside, String.length_toList,
        length_blanks]
      omega
    rw [sourceRow, String.toList_append, List.drop_append, List.drop_eq_nil_of_le, hmargin,
      List.nil_append, Nat.add_sub_cancel_left]
    omega
  case right =>
    have hmargin : (blanks gutter ++ " | " ++ blanks (site.location.col - 1)).toList.length =
        place := by
      simp only [String.toList_append, List.length_append, hinside, String.length_toList,
        length_blanks, place]
    rw [caretRow, hwidth, String.toList_append, ← hmargin, List.drop_left]
    rfl

/-- The rows of a source line stand behind the head of its finding. -/
theorem exists_issueLines_eq
    {issue : Issue}
    (gutter : Nat)
    (hplace : issue.place = .source site) :
    ∃ remarks, issueLines gutter issue =
      [headLine issue, placeLine issue] ++ (quoteLines gutter issue.severity site ++ remarks) := by
  simp only [issueLines, hplace, List.append_assoc]
  exact ⟨_, rfl⟩

theorem renderLines_quoteLines
    (gutter : Nat)
    (severity : Severity)
    (site : Site) :
    Styled.renderLines false (quoteLines gutter severity site) =
      blankRow gutter ++ "\n" ++ sourceRow gutter site ++ "\n" ++ caretRow gutter site ++ "\n" := by
  have hrows : Styled.renderLines false (quoteLines gutter severity site) =
      String.join ((rowsOf gutter site).map (· ++ "\n")) := by
    rw [← map_render_quoteLines gutter severity, List.map_map]
    rfl
  rw [hrows]
  simp [rowsOf, String.append_assoc]

/-- A report shows the rows of a finding behind its head, which stands behind earlier findings. -/
theorem exists_renderLines_lines_eq
    {issue : Issue}
    (before after : List Issue)
    (hplace : issue.place = .source site) :
    let issues := before ++ issue :: after
    let gutter := gutterWidth issues
    ∃ rest, Styled.renderLines false (lines issues) =
      Styled.renderLines false
          (before.flatMap (issueLines gutter) ++ [headLine issue, placeLine issue])
        ++ (blankRow gutter ++ "\n" ++ sourceRow gutter site ++ "\n" ++ caretRow gutter site
          ++ "\n" ++ rest) := by
  intro issues gutter
  obtain ⟨remarks, hremarks⟩ := exists_issueLines_eq gutter hplace
  have hlines : lines issues =
      (before.flatMap (issueLines gutter) ++ [headLine issue, placeLine issue])
        ++ (quoteLines gutter issue.severity site
          ++ (remarks ++ after.flatMap (issueLines gutter) ++ summaryLines issues)) := by
    have hne : ¬ issues.isEmpty = true := by simp [issues]
    have habout : issues.flatMap (issueLines gutter) =
        before.flatMap (issueLines gutter)
          ++ (issueLines gutter issue ++ after.flatMap (issueLines gutter)) := by
      rw [List.flatMap_append, List.flatMap_cons]
    rw [lines, if_neg hne, habout, hremarks]
    simp only [List.append_assoc]
  refine ⟨Styled.renderLines false
    (remarks ++ after.flatMap (issueLines gutter) ++ summaryLines issues), ?_⟩
  rw [hlines, Styled.renderLines_append false (_ ++ _) (_ ++ _),
    Styled.renderLines_append false (quoteLines ..), renderLines_quoteLines]

/--
The rows of source lines. The gutter has room for the greatest line number of the findings in source
files, and is one column wide if there is none. Each of these findings is shown with three rows
behind its head, each on a line of its own, and since the number of its line has room in the gutter,
the bars of the rows stand behind the same number of characters. The caret stands behind the bar, a
blank, and as many blanks as the text before the column takes.
-/
theorem rows_of_quoted_source_lines
    (issues : List Issue) :
    let gutter := gutterWidth issues
    ((∀ issue ∈ issues, ∀ site, issue.place ≠ .source site) → gutter = 1) ∧
    ∀ before issue after site, issues = before ++ issue :: after → issue.place = .source site →
      (∃ widest ∈ issues, ∃ place, widest.place = .source place ∧
        gutter = (Nat.repr place.location.line).length ∧
        ∀ other ∈ issues, ∀ quoted, other.place = .source quoted →
          quoted.location.line ≤ place.location.line) ∧
      (Nat.repr site.location.line).length ≤ gutter ∧
      (∃ rest, Styled.renderLines false (lines issues) =
        Styled.renderLines false
            (before.flatMap (issueLines gutter) ++ [headLine issue, placeLine issue])
          ++ (blankRow gutter ++ "\n" ++ sourceRow gutter site ++ "\n" ++ caretRow gutter site
            ++ "\n" ++ rest)) ∧
      ∀ row ∈ [blankRow gutter, sourceRow gutter site, caretRow gutter site],
        HasBarBehind (gutter + 1) row ∧ ('\n' ∉ site.sourceLine.toList → '\n' ∉ row.toList) := by
  intro gutter
  refine ⟨fun hnone => ?none, fun before issue after site hissues hplace => ?_⟩
  case none =>
    rcases gutterWidth_cases issues with ⟨-, hwidth⟩ | ⟨issue, hissue, site, hplace, -⟩
    · exact hwidth
    · exact absurd hplace (hnone issue hissue site)
  have hissue : issue ∈ issues := by simp [hissues]
  have hroom := length_repr_le_gutterWidth hissue hplace
  refine ⟨?widest, hroom, ?shown, fun row hrow => ⟨hasBarBehind_of_mem_rowsOf hroom hrow,
    fun hsource => lineFeed_not_mem_of_mem_rowsOf hsource hrow⟩⟩
  case widest =>
    rcases gutterWidth_cases issues with ⟨hnone, -⟩ | hwidest
    · exact absurd hplace (hnone issue hissue site)
    · exact hwidest
  case shown =>
    subst hissues
    exact exists_renderLines_lines_eq before after hplace

/-- A place behind wide characters. -/
def wideSite : Site :=
  ⟨⟨"A.swift", 7, 14⟩, "let x = \"你好\"; \"World\".localized"⟩

/-- A number has room for a second digit, and a caret stands two columns further to the right. -/
theorem rows_of_wide_source_line :
    let finding : Issue := .ghostKey "World" wideSite []
    let last : Issue := .ghostKey "ok" ⟨⟨"B.swift", 12, 1⟩, "\"ok\".localized"⟩ []
    let unquoted : Issue := .unreadableFile "C.swift" "stream did not contain valid UTF-8"
    gutterWidth [unquoted] = 1 ∧
    (∃ rest, Styled.renderLines false (lines [finding, last]) =
      "error: \"World\"  ghost-key\n  --> A.swift:7:14\n" ++
        ("   |" ++ "\n" ++ " 7 | let x = \"你好\"; \"World\".localized" ++ "\n" ++
          "   |                ^" ++ "\n" ++ rest)) ∧
    '\n' ∉ " 7 | let x = \"你好\"; \"World\".localized".toList := by
  intro finding last unquoted
  have hgutter : gutterWidth [finding, last] = 2 := by decide +kernel
  have hblank : blankRow 2 = "   |" := by decide +kernel
  have hsource : sourceRow 2 wideSite = " 7 | let x = \"你好\"; \"World\".localized" := by
    decide +kernel
  have hcaret : caretRow 2 wideSite = "   |                ^" := by decide +kernel
  have hhead : Styled.renderLines false [headLine finding, placeLine finding] =
      "error: \"World\"  ghost-key\n  --> A.swift:7:14\n" := by decide +kernel
  obtain ⟨hnone, -⟩ := rows_of_quoted_source_lines [unquoted]
  obtain ⟨-, -, ⟨rest, hshown⟩, hrows⟩ :=
    (rows_of_quoted_source_lines [finding, last]).2 [] finding [last] wideSite rfl rfl
  rw [hgutter, hblank, hsource, hcaret] at hshown hrows
  rw [List.flatMap_nil, List.nil_append, hhead] at hshown
  exact ⟨hnone (by simp [unquoted, Issue.place]), ⟨rest, hshown⟩,
    (hrows _ (by simp)).2 (by decide +kernel)⟩

end Report
end StringsAudit
