import StringsAudit.Text.Blank
import StringsAudit.Text.Casing
import StringsAudit.Text.Word

/-!
# Sets of characters

What one place of a pattern accepts.

## Main definitions

* `CharSet` : a set of characters, built from ranges and properties.
* `CharSet.has` : membership.
* `CharSet.weight` : how many ranges a set is built of.
-/

namespace StringsAudit
namespace Pattern

/-- A property of characters. -/
inductive Property where
  /-- The characters of words. -/
  | word
  /-- The decimal digits of all scripts. -/
  | digit
  | blank
  /-- The characters of some tables of the Unicode standard. -/
  | listed (tables : List Text.Ranges)
  deriving DecidableEq, Repr

/-- Whether a character has a property. -/
def Property.has : Property → Char → Bool
  | .word, c => Text.isWord c
  | .digit, c => Text.isDecimalDigit c
  | .blank, c => Text.isBlank c
  | .listed tables, c => tables.any (·.has c.toNat)

/-- The number of ranges that a property is made of. -/
def Property.weight : Property → Nat
  | .word => Text.wordRanges.length
  | .digit => Text.decimalDigitRanges.length
  | .blank => 10
  | .listed tables => tables.foldl (fun count table => count + table.length) 0

/-- A set of characters. -/
inductive CharSet where
  | empty
  | range (first last : Char)
  | property (property : Property)
  | union (a b : CharSet)
  | inter (a b : CharSet)
  | compl (a : CharSet)
  /-- The characters of a set and those that differ from one of them by case alone. -/
  | folded (a : CharSet)
  deriving DecidableEq, Repr

namespace CharSet

/-- Whether a character belongs to a set. -/
def has : CharSet → Char → Bool
  | empty, _ => false
  | range first last, c => decide (first ≤ c ∧ c ≤ last)
  | property p, c => p.has c
  | union a b, c => a.has c || b.has c
  | inter a b, c => a.has c && b.has c
  | compl a, c => !a.has c
  | folded a, c => a.has c || (Text.caseVariants c).any fun d => a.has d

/-- The number of ranges that a set is built of, and at least one. -/
def weight : CharSet → Nat
  | empty | range .. => 1
  | property p => p.weight + 1
  | union a b | inter a b => a.weight + b.weight
  | compl a => a.weight + 1
  | folded a => 2 * a.weight

/-- One character. -/
def single (c : Char) : CharSet :=
  range c c

/-- All characters. -/
def all : CharSet :=
  compl empty

/-- The union of sets. -/
def unionAll (sets : List CharSet) : CharSet :=
  sets.foldr union empty

@[simp] theorem has_single
    (c d : Char) :
    (single c).has d = decide (d = c) := by
  simp only [single, has, decide_eq_decide]
  constructor
  · rintro ⟨h, h'⟩
    exact Char.le_antisymm h' h
  · rintro rfl
    exact ⟨Char.le_refl _, Char.le_refl _⟩

end CharSet
end Pattern
end StringsAudit
