import StringsAudit.Sorting

/-!
# Locations

## Main definitions

* `Location` : a place in a file.
* `Site` : a place in a source file, with the line found there.
* `Definition` : a key and its value at a place in a strings file.
* `Location.cmp` : the order of places by file, line and column.
-/

namespace StringsAudit

/-- A place in a file; line and column are 1-based, and 0 where the whole file is meant. -/
structure Location where
  file : String
  line : Nat
  col : Nat
  deriving DecidableEq, Repr

namespace Location

/-- A file as a whole. -/
def ofFile (file : String) : Location :=
  ⟨file, 0, 0⟩

/-- The start of a line. -/
def ofLine (file : String) (line : Nat) : Location :=
  ⟨file, line, 1⟩

/-- Places are ordered by file, then line, then column. -/
def cmp : Location → Location → Ordering :=
  compareLex (compareOn (·.file)) (compareLex (compareOn (·.line)) (compareOn (·.col)))

instance : Std.TransCmp cmp :=
  inferInstanceAs (Std.TransCmp (compareLex _ _))

/-- Places that compare equal are equal. -/
theorem eq_of_cmp
    {a b : Location}
    (h : cmp a b = .eq) :
    a = b := by
  obtain ⟨file, line, col⟩ := a
  obtain ⟨file', line', col'⟩ := b
  simp only [cmp, compareLex, compareOn, Ordering.then_eq_eq,
    Std.LawfulEqCmp.compare_eq_iff_eq] at h
  simp [h]

instance : Std.LawfulEqCmp cmp where
  eq_of_compare := eq_of_cmp

end Location

/-- A place in a source file, with the line found there. -/
structure Site where
  location : Location
  sourceLine : String
  deriving DecidableEq, Repr

/-- A key and its value at a place in a strings file. -/
structure Definition where
  location : Location
  key : String
  value : String
  deriving DecidableEq, Repr

end StringsAudit
