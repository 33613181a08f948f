import StringsAudit.Proofs.Report.Lines
import StringsAudit.Proofs.Text.Styled
import StringsAudit.Proofs.Text.Trim

/-!
# Reports with and without colours

All texts that are shown are texts of a finding or words of the report. So where no text of a
finding holds an escape character, a report with colours is the report without them but for escape
codes.

## Main definitions

* `Issue.texts` : the texts of a finding.
* `Issue.IsEscapeFree` : a finding whose texts hold no escape character.

## Main results

* `isEscapeFree_of_mem_lines` : no line of a report holds an escape character of its own.
* `withoutCodes_shown` : colours only add escape codes.
-/

namespace StringsAudit

open Text

/-! ### The texts of findings -/

/-- The texts of a definition. -/
def Definition.texts (definition : Definition) : List String :=
  [definition.location.file, definition.key, definition.value]

/-- The texts of a place in a source file. -/
def Site.texts (site : Site) : List String :=
  [site.location.file, site.sourceLine]

namespace Issue

/-- The texts of a finding. -/
def texts : Issue → List String
  | duplicateKey definition database _ => database :: definition.texts
  | missingKey key database file existsIn => key :: database :: file :: existsIn
  | identicalValue definition databases => definition.texts ++ databases
  | valueEqualsKey definition database => database :: definition.texts
  | placeholderMismatch definition placeholder baseline actual =>
      placeholder :: baseline.database :: actual.database :: definition.texts
  | unusedKey definition _ => definition.texts
  | ghostKey key first others => key :: (first :: others).flatMap Site.texts
  | unbalancedComment file _ => [file]
  | malformedEntry file _ lineText remainder => [file, lineText, remainder]
  | unreadableFile file cause => [file, cause]

/-- A finding whose texts hold no escape character. -/
def IsEscapeFree (issue : Issue) : Prop :=
  ∀ text ∈ issue.texts, EscapeFree text

instance (issue : Issue) : Decidable issue.IsEscapeFree :=
  inferInstanceAs (Decidable (∀ text ∈ _, _))

variable {issue : Issue}

theorem file_mem_texts
    (issue : Issue) :
    issue.location.file ∈ issue.texts := by
  cases issue <;>
    simp [texts, Definition.texts, Site.texts, location, place, Place.location, Location.ofFile,
      Location.ofLine]

theorem escapeFree_message
    (hfree : issue.IsEscapeFree) :
    EscapeFree issue.message := by
  cases issue with
  | unbalancedComment file line => exact show EscapeFree "*/" by decide
  | malformedEntry file line lineText remainder =>
      have hline : EscapeFree lineText := hfree lineText (by simp [texts])
      rw [EscapeFree, message, String.toList_ofList]
      exact fun hmem => hline ((stripEnds_infix_self _ _).subset hmem)
  | _ => exact hfree _ (by simp [texts, message, Definition.texts])

theorem escapeFree_of_details?
    {text : String}
    (hfree : issue.IsEscapeFree)
    (hdetails : issue.details? = some text) :
    EscapeFree text := by
  have hlist {texts : List String} (htexts : ∀ text ∈ texts, EscapeFree text) :
      EscapeFree (", ".intercalate texts) :=
    escapeFree_intercalate (by decide) htexts
  cases issue with
  | duplicateKey definition database count =>
      have hdatabase : EscapeFree database := hfree _ (by simp [texts])
      cases hdetails
      simp +decide [hdatabase]
  | missingKey key database file existsIn =>
      have hdatabase : EscapeFree database := hfree _ (by simp [texts])
      have hothers := hlist fun other (hother : other ∈ existsIn) =>
        hfree _ (by simp [texts, hother])
      cases hdetails
      simp +decide [hdatabase, hothers]
  | identicalValue definition databases =>
      have hvalue : EscapeFree definition.value := hfree _ (by simp [texts, Definition.texts])
      have hnames := hlist fun name (hname : name ∈ databases) => hfree _ (by simp [texts, hname])
      cases hdetails
      simp +decide [hvalue, hnames]
  | valueEqualsKey definition database =>
      have hdatabase : EscapeFree database := hfree _ (by simp [texts])
      cases hdetails
      simp +decide [hdatabase]
  | placeholderMismatch definition placeholder baseline actual =>
      have hplaceholder : EscapeFree placeholder := hfree _ (by simp [texts])
      have hbaseline : EscapeFree baseline.database := hfree _ (by simp [texts])
      have hactual : EscapeFree actual.database := hfree _ (by simp [texts])
      cases hdetails
      simp +decide [hplaceholder, hbaseline, hactual]
  | unusedKey definition definitions =>
      have hvalue : EscapeFree definition.value := hfree _ (by simp [texts, Definition.texts])
      cases hdetails
      simp +decide [hvalue]
  | ghostKey key first others =>
      cases hdetails
      decide
  | unbalancedComment file line =>
      cases hdetails
      decide
  | malformedEntry file line lineText remainder =>
      have hremainder : EscapeFree remainder := hfree _ (by simp [texts])
      cases hdetails
      simp +decide [hremainder]
  | unreadableFile file cause => cases hdetails

theorem escapeFree_of_hint?
    {text : String}
    (hhint : issue.hint? = some text) :
    EscapeFree text := by
  cases issue <;> cases hhint <;> decide

theorem texts_subset_of_mem_usages
    {site : Site}
    (hsite : site ∈ issue.usages) :
    site.texts ⊆ issue.texts := by
  cases issue with
  | ghostKey key first others =>
      intro text htext
      simp only [texts, List.mem_cons, List.mem_flatMap]
      exact .inr ⟨site, .inr hsite, htext⟩
  | _ => cases hsite

theorem texts_subset_of_place
    {site : Site}
    (hplace : issue.place = .source site) :
    site.texts ⊆ issue.texts := by
  cases issue with
  | ghostKey key first others =>
      cases hplace
      intro text htext
      simp only [texts, List.mem_cons, List.mem_flatMap]
      exact .inr ⟨site, .inl rfl, htext⟩
  | _ => cases hplace

end Issue

namespace Report

variable {issue : Issue} {line : Styled} {gutter : Nat}

/-! ### The lines of a report -/

@[simp] theorem escapeFree_blanks
    (count : Nat) :
    EscapeFree (blanks count) :=
  not_mem_blanks (by decide) count

@[simp] theorem escapeFree_padded_iff
    {width : Nat}
    {text : String} :
    EscapeFree (padded width text) ↔ EscapeFree text := by
  simp [padded]

theorem escapeFree_plural
    (count : Nat)
    {one many : String}
    (hone : EscapeFree one)
    (hmany : EscapeFree many) :
    EscapeFree (plural count one many) := by
  rw [plural]
  split
  next => exact hone
  next => exact hmany

theorem escapeFree_placeText
    {location : Location}
    (hfile : EscapeFree location.file) :
    EscapeFree (placeText location) := by
  simp +decide [placeText, hfile]

theorem isEscapeFree_bar : bar.IsEscapeFree := by
  simp +decide [bar]

theorem isEscapeFree_remarkLine
    {label : Styled}
    {text : String}
    (hlabel : label.IsEscapeFree)
    (htext : EscapeFree text) :
    (remarkLine gutter label text).IsEscapeFree := by
  simp +decide [remarkLine, hlabel, htext]

theorem isEscapeFree_headLine
    (hfree : issue.IsEscapeFree) :
    (headLine issue).IsEscapeFree := by
  have hlabel : EscapeFree issue.severity.label := by
    cases issue.severity <;> decide
  have hrule : EscapeFree issue.ruleName := by
    cases issue <;> simp only [Issue.ruleName] <;> decide
  simp +decide [headLine, hlabel, Issue.escapeFree_message hfree, hrule]

theorem isEscapeFree_placeLine
    (hfree : issue.IsEscapeFree) :
    (placeLine issue).IsEscapeFree := by
  have hfile := hfree _ issue.file_mem_texts
  have hplace : EscapeFree
      (if issue.location.line = 0 then issue.location.file else placeText issue.location) := by
    split
    next => exact hfile
    next => exact escapeFree_placeText hfile
  simp +decide [placeLine, hplace]

theorem isEscapeFree_of_mem_quoteLines
    {severity : Severity}
    {site : Site}
    (hsource : EscapeFree site.sourceLine)
    (hline : line ∈ quoteLines gutter severity site) :
    line.IsEscapeFree := by
  simp only [quoteLines, List.mem_cons, List.not_mem_nil, or_false] at hline
  rcases hline with rfl | rfl | rfl
  · simp [isEscapeFree_bar]
  · simp [isEscapeFree_bar, hsource]
  · simp +decide [isEscapeFree_bar]

theorem isEscapeFree_of_mem_usageLines
    {usages : List Site}
    (hfiles : ∀ site ∈ usages, EscapeFree site.location.file)
    (hline : line ∈ usageLines gutter usages) :
    line.IsEscapeFree := by
  obtain ⟨site, hsite, text, rfl, htext⟩ := exists_site_of_mem_usageLines hline
  have hplace := escapeFree_placeText (hfiles site hsite)
  refine isEscapeFree_remarkLine (by simp +decide) ?_
  rcases htext with rfl | ⟨more, rfl⟩
  · exact hplace
  · simp +decide [hplace]

/-- No line about a finding holds an escape character if no text of the finding does. -/
theorem isEscapeFree_of_mem_issueLines
    (hfree : issue.IsEscapeFree)
    (hline : line ∈ issueLines gutter issue) :
    line.IsEscapeFree := by
  rcases mem_issueLines_cases hline with
    rfl | rfl | ⟨site, hplace, hquote⟩ | ⟨text, htext, rfl⟩ | ⟨text, htext, rfl⟩ | husage | rfl
  · exact isEscapeFree_headLine hfree
  · exact isEscapeFree_placeLine hfree
  · have hsource : EscapeFree site.sourceLine :=
      hfree _ (Issue.texts_subset_of_place hplace (by simp [Site.texts]))
    exact isEscapeFree_of_mem_quoteLines hsource hquote
  · exact isEscapeFree_remarkLine (by simp +decide) (Issue.escapeFree_of_details? hfree htext)
  · exact isEscapeFree_remarkLine (by simp +decide) (Issue.escapeFree_of_hint? htext)
  · refine isEscapeFree_of_mem_usageLines (fun site hsite => ?_) husage
    exact hfree _ (Issue.texts_subset_of_mem_usages hsite (by simp [Site.texts]))
  · exact List.forall_mem_nil _

theorem isEscapeFree_of_mem_summaryLines
    {issues : List Issue}
    (hline : line ∈ summaryLines issues) :
    line.IsEscapeFree := by
  simp only [summaryLines, List.mem_cons, List.not_mem_nil, or_false] at hline
  rcases hline with rfl | rfl
  · exact List.forall_mem_nil _
  · simp +decide [escapeFree_plural]

/-- No line of a report holds an escape character if no text of a finding does. -/
theorem isEscapeFree_of_mem_lines
    {issues : List Issue}
    (hfree : ∀ issue ∈ issues, issue.IsEscapeFree)
    (hline : line ∈ lines issues) :
    line.IsEscapeFree := by
  rcases mem_lines_cases hline with ⟨issue, hissue, habout⟩ | hsummary
  · exact isEscapeFree_of_mem_issueLines (hfree issue hissue) habout
  · exact isEscapeFree_of_mem_summaryLines hsummary

theorem isEscapeFree_successLine
    (coverage : Coverage) :
    (successLine coverage).IsEscapeFree := by
  simp +decide [successLine, escapeFree_plural]

theorem isEscapeFree_of_mem_unreadableLines
    {count : Nat}
    {verbose : Bool}
    (hline : line ∈ unreadableLines count verbose) :
    line.IsEscapeFree := by
  rw [unreadableLines] at hline
  split at hline
  next =>
    obtain rfl := List.mem_singleton.mp hline
    simp +decide
  next => exact absurd hline List.not_mem_nil

/--
Colours only add escape codes: a report of findings whose texts hold no escape character, the line
that reports success and the remark on files that could not be read are shown with colours as they
are shown without them, but for escape codes.
-/
theorem withoutCodes_shown
    {issues : List Issue}
    (hfree : ∀ issue ∈ issues, issue.IsEscapeFree)
    (coverage : Coverage)
    (unreadable : Nat)
    (verbose : Bool) :
    withoutCodes (Styled.renderLines true (lines issues)) =
        Styled.renderLines false (lines issues) ∧
      withoutCodes (Styled.renderLines true [successLine coverage]) =
        Styled.renderLines false [successLine coverage] ∧
      withoutCodes (Styled.renderLines true (unreadableLines unreadable verbose)) =
        Styled.renderLines false (unreadableLines unreadable verbose) := by
  refine ⟨?_, ?_, ?_⟩
  · exact Styled.withoutCodes_renderLines fun _ => isEscapeFree_of_mem_lines hfree
  · exact Styled.withoutCodes_renderLines
      (List.forall_mem_singleton.mpr (isEscapeFree_successLine coverage))
  · exact Styled.withoutCodes_renderLines fun _ => isEscapeFree_of_mem_unreadableLines

/-- A finding with a source line and more usages than are shown. -/
def misspeltKey : Issue :=
  .ghostKey "titel" ⟨⟨"A.swift", 12, 9⟩, "let t = \"titel\".localized"⟩
    [⟨⟨"B.swift", 3, 1⟩, "\"titel\".localized"⟩, ⟨⟨"B.swift", 4, 1⟩, "\"titel\".localized"⟩,
      ⟨⟨"C.swift", 1, 1⟩, "\"titel\".localized"⟩, ⟨⟨"D.swift", 1, 1⟩, "\"titel\".localized"⟩]

/-- What is shown of a misspelt key starts with codes, and they are what colours add. -/
theorem withoutCodes_shown_of_misspelt_key :
    let issues := [misspeltKey, .unreadableFile "E.swift" "stream did not contain valid UTF-8"]
    (∀ issue ∈ issues, issue.IsEscapeFree) ∧
    (headLine misspeltKey).render true =
      "\x1b[1;31merror\x1b[0m: \"titel\"  \x1b[2;36mghost-key\x1b[0m" ∧
    (headLine misspeltKey).render false = "error: \"titel\"  ghost-key" ∧
    withoutCodes (Styled.renderLines true (lines issues)) =
      Styled.renderLines false (lines issues) ∧
    withoutCodes (Styled.renderLines true (unreadableLines 1 false)) =
      Styled.renderLines false (unreadableLines 1 false) := by
  intro issues
  have hfree : ∀ issue ∈ issues, issue.IsEscapeFree := by decide
  obtain ⟨hreport, -, hunreadable⟩ := withoutCodes_shown hfree ⟨0, 0, 4⟩ 1 false
  exact ⟨hfree, by decide, by decide, hreport, hunreadable⟩

end Report
end StringsAudit
