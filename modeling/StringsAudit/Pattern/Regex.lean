import StringsAudit.Pattern.Reader
import StringsAudit.Pattern.Search

/-!
# Compiled patterns

What a compiled pattern tells about a text is where its matches are. The search counts characters,
but a match is reported by its byte offsets, as a text is cut at those.

## Main definitions

* `Captures` : a match, and the part of it that is the first group.
* `Regex.compile` : compiles the text of a pattern.
* `Regex.captures` : the matches of a text.
-/

namespace StringsAudit
namespace Pattern

/-- A part of a text, from one byte offset to another. -/
structure Span where
  start : String.Pos.Raw
  stop : String.Pos.Raw
  deriving DecidableEq, Repr

/-- A match, and the part of it that is the first group, if that group takes part in it. -/
structure Captures where
  whole : Span
  first? : Option Span
  deriving DecidableEq, Repr

/-- A part of a text, from one position to another, where positions count characters. -/
def Span.ofPositions (text : String) (start stop : Nat) : Span where
  start := (String.ofList (text.toList.take start)).rawEndPos
  stop := (String.ofList (text.toList.take stop)).rawEndPos

/-- A match, by its byte offsets. -/
def Match.captures (text : String) (found : Match) : Captures where
  whole := .ofPositions text found.start found.stop
  first? := (found.group? 1).map fun (start, stop) => .ofPositions text start stop

/-- A compiled pattern. -/
structure Regex where
  program : Program
  /-- The number of groups, the whole match not counted. -/
  groups : Nat
  deriving DecidableEq, Repr

namespace Regex

/--
The greatest weight of a pattern, which keeps counted repetitions in check. The weight of a pattern
only estimates the room that it takes once it is compiled.
-/
def maxWeight : Nat := 262144

/-- Compiles the text of a pattern. -/
def compile (text : String) : Except PatternError Regex :=
  match Expr.parse text with
  | .error error => .error error
  | .ok expr =>
      if maxWeight < expr.weight then .error .tooLarge
      else .ok ⟨expr.program, expr.groupCount⟩

/-- The matches of a text, from left to right. -/
def captures (regex : Regex) (text : String) : List Captures :=
  (regex.program.findAll text.toList).map (·.captures text)

end Regex
end Pattern
end StringsAudit
