import StringsAudit.Pattern.Expr

/-!
# Pattern programs

An expression is turned into a list of instructions for a machine with many threads. The order of
the two targets of a split says which way is tried first.

## Main definitions

* `Instr` : one instruction.
* `Program` : the instructions of a pattern.
* `Expr.emit` : the instructions of an expression from an address on.
-/

namespace StringsAudit
namespace Pattern

/-- One instruction; unless it says otherwise, the next one follows. -/
inductive Instr where
  /-- Consumes one character of a set. -/
  | chars (set : CharSet)
  /-- Goes two ways, the first of them by preference. -/
  | split (first second : Nat)
  | jump (target : Nat)
  /-- Notes the position. -/
  | save (slot : Nat)
  | look (look : Look)
  | accept
  deriving DecidableEq, Repr

/-- The instructions of a pattern. -/
structure Program where
  code : Array Instr
  deriving DecidableEq, Repr

/-- A choice between going on at one address and leaving for another. -/
def choice (greedy : Bool) (inside outside : Nat) : Instr :=
  if greedy then .split inside outside else .split outside inside

/-- Several copies of a block, one after the other. -/
def copies (block : Nat → List Instr) : (count : Nat) → (address : Nat) → List Instr
  | 0, _ => []
  | count + 1, address =>
      let first := block address
      first ++ copies block count (address + first.length)

/-- Up to `count` copies of a block, each of which may be the point of leaving. -/
def optionals (greedy : Bool) (block : Nat → List Instr) (exit : Nat) :
    (count : Nat) → (address : Nat) → List Instr
  | 0, _ => []
  | count + 1, address =>
      let first := block (address + 1)
      choice greedy (address + 1) exit :: first
        ++ optionals greedy block exit count (address + 1 + first.length)

/-- A block once or more. -/
def plus (greedy : Bool) (block : Nat → List Instr) (address : Nat) : List Instr :=
  let first := block address
  first ++ [choice greedy address (address + first.length + 1)]

/--
A block any number of times. Where the block may match no text, the first round is set apart, so
that a round without text ends the loop.
-/
def star (greedy nullable : Bool) (block : Nat → List Instr) (address : Nat) : List Instr :=
  if nullable then
    let loop := plus greedy block (address + 1)
    choice greedy (address + 1) (address + 1 + loop.length) :: loop
  else
    let first := block (address + 1)
    choice greedy (address + 1) (address + 2 + first.length) :: first ++ [.jump address]

/-- A block at least `min` times, and at most as often as the bound allows. -/
def repetition (greedy nullable : Bool) (block : Nat → List Instr) (min : Nat)
    (max? : Option Nat) (address : Nat) : List Instr :=
  match max?, min with
  | none, 0 => star greedy nullable block address
  | none, min + 1 =>
      let first := copies block min address
      first ++ plus greedy block (address + first.length)
  | some max, min =>
      let first := copies block min address
      let start := address + first.length
      let exit := start + (max - min) * ((block start).length + 1)
      first ++ optionals greedy block exit (max - min) start

namespace Expr

/-- The instructions of an expression from an address on. -/
def emit : Expr → (address : Nat) → List Instr
  | empty, _ => []
  | chars set, _ => [.chars set]
  | look condition, _ => [.look condition]
  | group index body, address =>
      .save (2 * index) :: body.emit (address + 1) ++ [.save (2 * index + 1)]
  | cat a b, address =>
      let first := a.emit address
      first ++ b.emit (address + first.length)
  | alt a b, address =>
      let first := a.emit (address + 1)
      let other := address + first.length + 2
      let second := b.emit other
      .split (address + 1) other :: first ++ [.jump (other + second.length)] ++ second
  | repeated min max? greedy body, address =>
      repetition greedy body.nullable body.emit min max? address

/--
How much room an expression takes: the number of its instructions or more, where a set of
characters counts for each of its ranges.
-/
def weight : Expr → Nat
  | empty => 0
  | chars set => set.weight
  | look _ => 1
  | group _ body => body.weight + 2
  | cat a b => a.weight + b.weight
  | alt a b => a.weight + b.weight + 2
  | repeated min none _ body => Nat.max min 1 * body.weight + 2
  | repeated min (some max) _ body => min * body.weight + (max - min) * (body.weight + 1)

/-- The program of an expression. -/
def program (expr : Expr) : Program :=
  ⟨(expr.emit 0 ++ [Instr.accept]).toArray⟩

end Expr

end Pattern
end StringsAudit
