import StringsAudit.Pattern.CharSet

/-!
# Pattern expressions

## Main definitions

* `Look` : a condition on the characters around a position.
* `Expr` : a pattern with its groups, all options resolved.
* `Expr.groupCount` : the number of groups that a match can report.
-/

namespace StringsAudit
namespace Pattern

/-- Which side of a word a boundary is. -/
inductive WordEdge where
  | either
  | neither
  | start
  | stop
  /-- No word character before the position. -/
  | startHalf
  /-- No word character after the position. -/
  | stopHalf
  deriving DecidableEq, Repr

/-- A condition on the characters around a position. -/
inductive Look where
  | textStart
  | textEnd
  | lineStart
  | lineEnd
  /-- The start of a line that may end with a carriage return. -/
  | returnLineStart
  /-- The end of a line that may end with a carriage return. -/
  | returnLineEnd
  | word (edge : WordEdge) (ascii : Bool)
  deriving DecidableEq, Repr

/-- Whether a character counts as part of a word. -/
def isWordPart (ascii : Bool) (c : Char) : Bool :=
  if ascii then c.isAlphanum || c == '_' else Text.isWord c

/-- Whether a condition holds between two characters, either of which may be missing. -/
def Look.holds (look : Look) (before? after? : Option Char) : Bool :=
  match look with
  | .textStart => before?.isNone
  | .textEnd => after?.isNone
  | .lineStart => before?.all (· == '\n')
  | .lineEnd => after?.all (· == '\n')
  | .returnLineStart =>
      before?.all fun c => c == '\n' || (c == '\r' && after? != some '\n')
  | .returnLineEnd =>
      after?.all fun c => c == '\r' || (c == '\n' && before? != some '\r')
  | .word edge ascii =>
      let before := before?.any (isWordPart ascii)
      let after := after?.any (isWordPart ascii)
      match edge with
      | .either => before != after
      | .neither => before == after
      | .start => !before && after
      | .stop => before && !after
      | .startHalf => !before
      | .stopHalf => !after

/-- A pattern with its groups, all options resolved. -/
inductive Expr where
  | empty
  | chars (set : CharSet)
  | look (look : Look)
  | group (index : Nat) (body : Expr)
  | cat (a b : Expr)
  | alt (a b : Expr)
  | repeated (min : Nat) (max? : Option Nat) (greedy : Bool) (body : Expr)
  deriving DecidableEq, Repr

namespace Expr

/-- Whether an expression may match no text at all. -/
def nullable : Expr → Bool
  | empty => true
  | chars _ => false
  | look _ => true
  | group _ body => body.nullable
  | cat a b => a.nullable && b.nullable
  | alt a b => a.nullable || b.nullable
  | repeated min _ _ body => min == 0 || body.nullable

/--
The number of groups that a match can report, the whole match not counted. A group that is
repeated no times at all takes no part in a match.
-/
def groupCount : Expr → Nat
  | empty | chars _ | look _ => 0
  | group index body => Nat.max index body.groupCount
  | cat a b | alt a b => Nat.max a.groupCount b.groupCount
  | repeated _ (some 0) _ _ => 0
  | repeated _ _ _ body => body.groupCount

end Expr
end Pattern
end StringsAudit
