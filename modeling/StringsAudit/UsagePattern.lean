import StringsAudit.Line
import StringsAudit.Location
import StringsAudit.Pattern.Regex

/-!
# Usage patterns

A usage pattern describes how source code refers to a key: the first group of each match on a line
is a key. To an audit, a pattern is what it finds in a text.

## Main definitions

* `UsagePattern` : a compiled pattern.
* `UsagePattern.usesOn` : the references to keys on a line.
-/

namespace StringsAudit

open Pattern

/-- A compiled pattern, given by what it finds; its first group stands for a key. -/
structure UsagePattern where
  /-- The number of groups, the whole match not counted. -/
  groups : Nat
  /-- The matches of a text, from left to right. -/
  captures : String → List Captures

/-- Why a text describes no usage pattern. -/
inductive UsagePatternError where
  | unreadable (pattern : String) (error : PatternError)
  | noGroup (pattern : String)
  deriving DecidableEq, Repr

namespace UsagePattern

/-- The key followed by `.localized`. -/
def standard : String :=
  "\"(\\w+)\"\\.localized"

/-- What a pattern of the project's own finds. -/
def ofRegex (regex : Regex) : UsagePattern :=
  ⟨regex.groups, regex.captures⟩

/-- The column of a byte offset, which is one more than the number of characters before it. -/
def column (text : String) (offset : String.Pos.Raw) : Nat :=
  (String.Pos.Raw.extract text 0 offset).length + 1

/-- The references to keys on a line of a file, from left to right, each with its key. -/
def usesOn (pattern : UsagePattern) (file : String) (line : Line) : List (String × Site) :=
  (pattern.captures line.text).filterMap fun found =>
    found.first?.map fun key =>
      (String.Pos.Raw.extract line.text key.start key.stop,
        ⟨⟨file, line.number, column line.text key.start⟩, line.text⟩)

end UsagePattern
end StringsAudit
