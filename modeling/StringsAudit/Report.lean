import StringsAudit.Text.Styled
import StringsAudit.Text.Width
import StringsAudit.Verdict

/-!
# Reports

A report shows findings one after the other, each with its place, the source line if there is one,
and remarks, and ends with their numbers.

## Main definitions

* `Report.gutterWidth` : the columns left of the bars.
* `Report.issueLines` : the lines of one finding.
* `Report.lines` : the lines of a report.
* `Report.verdictLines` : the lines shown for a verdict.

## Main results

* `Report.lines_eq_nil_iff` : nothing is shown exactly when there are no findings.
-/

namespace StringsAudit
namespace Report

open Text

/-- The mark in front of a success. -/
def successMark : String := "\u2713"

/-- The mark in front of a failure. -/
def failureMark : String := "\u2718"

/-- The number of further places that are shown for a finding. -/
def maxUsages : Nat := 3

/-- The word for a number of things. -/
def plural (count : Nat) (one many : String) : String :=
  if count = 1 then one else many

/-- A number of blanks. -/
def blanks (count : Nat) : String :=
  String.ofList (List.replicate count ' ')

/-- A text with blanks in front of it up to a width. -/
def padded (width : Nat) (text : String) : String :=
  blanks (width - text.length) ++ text

/-- The colour of a severity. -/
def colorOf : Severity → Color
  | .error => .red
  | .warning => .yellow

/-! ### One finding -/

/-- The line number of a finding whose source line is shown. -/
def quotedLine? (issue : Issue) : Option Nat :=
  issue.place.sourceLine?.map fun _ => issue.location.line

/-- The columns left of the bars: those of the greatest line number shown. -/
def gutterWidth (issues : List Issue) : Nat :=
  match (issues.filterMap quotedLine?).max? with
  | some line => (toString line).length
  | none => 1

/-- The bar between the gutter and a source line. -/
def bar : Styled :=
  .inColor .blue "|"

/-- The severity, the message and the rule of a finding. -/
def headLine (issue : Issue) : Styled :=
  .strongIn (colorOf issue.severity) issue.severity.label
    ++ .plain (": \"" ++ issue.message ++ "\"  ") ++ .faintIn .cyan issue.ruleName

/-- A place as it is written in a report. -/
def placeText (location : Location) : String :=
  s!"{location.file}:{location.line}:{location.col}"

/-- Where a finding is; a file as a whole has no line. -/
def placeLine (issue : Issue) : Styled :=
  let location := issue.location
  .spaced [.plain " ", .inColor .blue "-->",
    .plain (if location.line = 0 then location.file else placeText location)]

/-- The columns in front of the caret under a source line. -/
def caretPadding (sourceLine : String) (col : Nat) : Nat :=
  width (sourceLine.toList.take (col - 1))

/-- A source line between its two bars, with a caret below the column of a finding. -/
def quoteLines (gutter : Nat) (severity : Severity) (site : Site) : List Styled :=
  [.spaced [.plain (blanks gutter), bar],
    .spaced [.inColor .blue (padded gutter (toString site.location.line)), bar,
      .plain site.sourceLine],
    .spaced [.plain (blanks gutter), bar,
      .plain (blanks (caretPadding site.sourceLine site.location.col))
        ++ .inColor (colorOf severity) "^"]]

/-- A remark under a finding. -/
def remarkLine (gutter : Nat) (label : Styled) (text : String) : Styled :=
  .spaced [.plain (blanks gutter), .inColor .blue "=", label, .plain text]

/-- The first further places of a finding; the last line tells how many more there are. -/
def usageLines (gutter : Nat) (usages : List Site) : List Styled :=
  let places := (usages.take maxUsages).map fun site => placeText site.location
  let more := usages.length - maxUsages
  let texts :=
    match places.getLast? with
    | some last =>
        places.dropLast ++ [if 0 < more then s!"{last} (and {more} more)" else last]
    | none => []
  texts.map (remarkLine gutter (.strong "also used:"))

/-- The lines of one finding, with an empty one after it. -/
def issueLines (gutter : Nat) (issue : Issue) : List Styled :=
  [headLine issue, placeLine issue]
    ++ (match issue.place with
        | .source site => quoteLines gutter issue.severity site
        | _ => [])
    ++ (issue.details?.map (remarkLine gutter (.strong "note:"))).toList
    ++ (issue.hint?.map (remarkLine gutter (.strongIn .cyan "hint:"))).toList
    ++ usageLines gutter issue.usages
    ++ [[]]

/-! ### All findings -/

/-- The numbers of findings, after an empty line. -/
def summaryLines (issues : List Issue) : List Styled :=
  let errors := issues.countP (·.isError)
  let warnings := issues.length - errors
  let total := errors + warnings
  [[],
    .spaced [.inColor .red failureMark, .plain (toString total),
      .plain (plural total "problem" "problems"), .plain s!"({errors}",
      .inColor .red (plural errors "error" "errors") ++ .plain ",", .plain (toString warnings),
      .inColor .yellow (plural warnings "warning" "warnings") ++ .plain ")"]]

/-- The lines of a report; without findings there is none. -/
def lines (issues : List Issue) : List Styled :=
  if issues.isEmpty then []
  else issues.flatMap (issueLines (gutterWidth issues)) ++ summaryLines issues

/-- The line shown when there are no findings. -/
def successLine (coverage : Coverage) : Styled :=
  let ⟨resourceFiles, groups, sourceFiles⟩ := coverage
  let resourceWord := plural resourceFiles "file" "files"
  let groupWord := plural groups "group" "groups"
  let sourceWord := plural sourceFiles "file" "files"
  .spaced [.inColor .green successMark,
    .inColor .green (s!"Checked {resourceFiles} resource {resourceWord} in {groups} {groupWord}, "
      ++ s!"{sourceFiles} source {sourceWord} - no issues found")]

/-- The remark on files that could not be read, unless each had a remark of its own. -/
def unreadableLines (count : Nat) (verbose : Bool) : List Styled :=
  if 0 < count && !verbose then
    [.spaced [.strongIn .yellow "warning:",
      .plain s!"{count} file(s) could not be read (use" , .inColor .cyan "-v",
      .plain "for details)"]]
  else []

/-- The line shown when a configuration was written. -/
def createdLine (name : String) : Styled :=
  .spaced [.inColor .green successMark, .inColor .green s!"Created {name}"]

/-- The lines shown for a verdict. -/
def verdictLines (verdict : Verdict) : List Styled :=
  if verdict.issues.isEmpty then [successLine verdict.coverage] else lines verdict.issues

/-- Nothing is shown exactly when there are no findings. -/
theorem lines_eq_nil_iff
    (issues : List Issue) :
    lines issues = [] ↔ issues = [] := by
  cases issues with
  | nil => simp [lines]
  | cons issue rest => simp [lines, issueLines]

end Report
end StringsAudit
