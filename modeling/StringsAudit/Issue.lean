import StringsAudit.Location
import StringsAudit.Text.Blank

/-!
# Issues

An issue is a finding about the strings files or the sources of a project. It carries all that a
report shows of it.

## Main definitions

* `Issue` : the kinds of findings with what each is about.
* `Issue.place` : where a finding is.
* `Issue.severity`, `Issue.message`, `Issue.details?`, `Issue.hint?` : how it is reported.
* `Issue.cmp` : the order of findings in a report.
-/

namespace StringsAudit

/-- How bad a finding is. -/
inductive Severity where
  | error
  | warning
  deriving DecidableEq, Repr

/-- The word for a severity. -/
def Severity.label : Severity → String
  | .error => "error"
  | .warning => "warning"

/-- How often the placeholder occurs in the value that one database has for a key. -/
structure PlaceholderCount where
  database : String
  count : Nat
  deriving DecidableEq, Repr

/-- A finding. -/
inductive Issue where
  /-- A key assigned `count` times in one file; the definition is the one that wins. -/
  | duplicateKey (definition : Definition) (database : String) (count : Nat)
  /-- A key that a database lacks, and the databases of its group that have it. -/
  | missingKey (key database file : String) (existsIn : List String)
  /-- One value for a key in several databases; the definition is that of the first. -/
  | identicalValue (definition : Definition) (databases : List String)
  /-- A value that is its key. -/
  | valueEqualsKey (definition : Definition) (database : String)
  /-- A value with another number of placeholders than the baseline has. -/
  | placeholderMismatch (definition : Definition) (placeholder : String)
      (baseline actual : PlaceholderCount)
  /-- A key that no source refers to, with its first definition and their number. -/
  | unusedKey (definition : Definition) (definitions : Nat)
  /-- A key without definition, with the first place that refers to it and the others. -/
  | ghostKey (key : String) (first : Site) (others : List Site)
  /-- An end of a block comment with nothing to end. -/
  | unbalancedComment (file : String) (line : Nat)
  /-- A line that looks like an entry but does not end like one. -/
  | malformedEntry (file : String) (line : Nat) (lineText remainder : String)
  /-- A file that could not be read. -/
  | unreadableFile (file cause : String)
  deriving DecidableEq, Repr

/-- Where a finding is. -/
inductive Place where
  /-- A place in a source file, whose line can be shown. -/
  | source (site : Site)
  /-- An entry of a strings file. -/
  | entry (definition : Definition)
  /-- A line of a file. -/
  | line (path : String) (number : Nat)
  /-- A file as a whole. -/
  | file (path : String)
  deriving DecidableEq, Repr

namespace Place

/-- The location of a place. -/
def location : Place → Location
  | source site => site.location
  | entry definition => definition.location
  | line path number => .ofLine path number
  | file path => .ofFile path

/-- The source line to show for a place. -/
def sourceLine? : Place → Option String
  | source site => some site.sourceLine
  | _ => none

end Place

namespace Issue

/-- The name of the rule that a finding breaks. -/
def ruleName : Issue → String
  | duplicateKey .. => "duplicate-key"
  | missingKey .. => "missing-translation"
  | identicalValue .. => "identical-translation"
  | valueEqualsKey .. => "value-equals-key"
  | placeholderMismatch .. => "placeholder-mismatch"
  | unusedKey .. => "unused-key"
  | ghostKey .. => "ghost-key"
  | unbalancedComment .. => "unbalanced-comment"
  | malformedEntry .. => "malformed-entry"
  | unreadableFile .. => "parse-error"

/-- The rank of the rule that a finding breaks among findings at one place. -/
def ruleRank : Issue → Nat
  | duplicateKey .. => 0
  | missingKey .. => 1
  | identicalValue .. => 2
  | valueEqualsKey .. => 3
  | placeholderMismatch .. => 4
  | unusedKey .. => 5
  | ghostKey .. => 6
  | unbalancedComment .. => 7
  | malformedEntry .. => 8
  | unreadableFile .. => 9

/-- How bad a finding is. -/
def severity : Issue → Severity
  | duplicateKey .. | missingKey .. | placeholderMismatch .. | ghostKey .. => .error
  | _ => .warning

/-- Whether a finding is an error. -/
def isError (issue : Issue) : Bool :=
  issue.severity == .error

/-- Whether a finding tells of a file that could not be read. -/
def isUnreadableFile : Issue → Bool
  | unreadableFile .. => true
  | _ => false

/-- Where a finding is. -/
def place : Issue → Place
  | duplicateKey definition _ _ => .entry definition
  | missingKey _ _ file _ => .file file
  | identicalValue definition _ => .entry definition
  | valueEqualsKey definition _ => .entry definition
  | placeholderMismatch definition _ _ _ => .entry definition
  | unusedKey definition _ => .entry definition
  | ghostKey _ first _ => .source first
  | unbalancedComment file line => .line file line
  | malformedEntry file line _ _ => .line file line
  | unreadableFile file _ => .file file

/-- The location of a finding. -/
def location (issue : Issue) : Location :=
  issue.place.location

/-- What a finding is about, mostly a key. -/
def message : Issue → String
  | duplicateKey definition _ _ => definition.key
  | missingKey key _ _ _ => key
  | identicalValue definition _ => definition.key
  | valueEqualsKey definition _ => definition.key
  | placeholderMismatch definition _ _ _ => definition.key
  | unusedKey definition _ => definition.key
  | ghostKey key _ _ => key
  | unbalancedComment .. => "*/"
  | malformedEntry _ _ lineText _ => String.ofList (Text.trim lineText.toList)
  | unreadableFile _ cause => cause

/-- The note under a finding. -/
def details? : Issue → Option String
  | duplicateKey _ database count =>
      some s!"assigned {count} times in {database}, last value wins"
  | missingKey _ database _ existsIn =>
      let others := ", ".intercalate existsIn
      some s!"missing from {database}, exists in: {others}"
  | identicalValue definition databases =>
      let names := ", ".intercalate databases
      some ("same translation (\"" ++ definition.value ++ "\") in: " ++ names)
  | valueEqualsKey _ database => some s!"in {database}"
  | placeholderMismatch _ placeholder baseline actual =>
      some ("\"" ++ placeholder ++ "\" count: " ++
        s!"{baseline.database} = {baseline.count}, {actual.database} = {actual.count}")
  | unusedKey definition definitions =>
      some ("(\"" ++ definition.value ++ "\") defined in " ++
        s!"{definitions} file(s), never referenced in source code")
  | ghostKey .. => some "not defined in any resource file"
  | unbalancedComment .. => some "block comment end without a matching start"
  | malformedEntry _ _ _ remainder => some s!"probably trimmed too much: {remainder}"
  | unreadableFile .. => none

/-- Advice on a finding. -/
def hint? : Issue → Option String
  | valueEqualsKey .. => some "translation equals the key; intentional?"
  | malformedEntry .. => some "a \"//\" inside a value is read as a comment"
  | _ => none

/-- The further places that refer to the key of a finding. -/
def usages : Issue → List Site
  | ghostKey _ _ others => others
  | _ => []

/-- Findings are ordered by location, then by rule, then by message. -/
def cmp : Issue → Issue → Ordering :=
  compareLex (fun a b => Location.cmp a.location b.location)
    (compareLex (compareOn ruleRank) (compareOn message))

end Issue
end StringsAudit
