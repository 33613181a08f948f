/-!
# Finding, cutting and counting substrings

All searches go from left to right, and the occurrences that they report do not overlap.

## Main definitions

* `breakOn?` : the text before and after the first occurrence of a pattern.
* `splitOn` : the pieces between the occurrences of a pattern.
* `occurrences` : the number of occurrences of a pattern.
* `dropSuffix?` : a text without a given ending.

## Main results

* `breakOn?_eq_some` : a text is what stands before the pattern, the pattern, and the rest.
-/

namespace StringsAudit
namespace Text

/-- The text before and after the first occurrence of a pattern. -/
def breakOn? (pattern : List Char) : List Char → Option (List Char × List Char)
  | [] => if pattern.isEmpty then some ([], []) else none
  | c :: rest =>
      if pattern.isPrefixOf (c :: rest) then some ([], (c :: rest).drop pattern.length)
      else (breakOn? pattern rest).map fun found => (c :: found.1, found.2)

/-- Puts a character in front of the first piece. -/
def consHead (c : Char) : List (List Char) → List (List Char)
  | [] => [[c]]
  | piece :: pieces => (c :: piece) :: pieces

/--
The pieces between the occurrences of a pattern, where the next `skip` characters belong to an
occurrence already found.
-/
def splitOnFrom (pattern : List Char) : Nat → List Char → List (List Char)
  | _, [] => [[]]
  | skip + 1, _ :: rest => splitOnFrom pattern skip rest
  | 0, c :: rest =>
      if pattern.isPrefixOf (c :: rest) then
        [] :: splitOnFrom pattern (pattern.length - 1) rest
      else consHead c (splitOnFrom pattern 0 rest)

/-- The pieces between the occurrences of a non-empty pattern. -/
def splitOn (pattern text : List Char) : List (List Char) :=
  splitOnFrom pattern 0 text

/--
The number of occurrences of a pattern, where the next `skip` characters belong to an occurrence
already found.
-/
def occurrencesFrom (pattern : List Char) : Nat → List Char → Nat
  | _, [] => 0
  | skip + 1, _ :: rest => occurrencesFrom pattern skip rest
  | 0, c :: rest =>
      if pattern.isPrefixOf (c :: rest) then
        occurrencesFrom pattern (pattern.length - 1) rest + 1
      else occurrencesFrom pattern 0 rest

/-- The number of occurrences of a pattern; the empty pattern is never counted. -/
def occurrences (pattern text : List Char) : Nat :=
  if pattern.isEmpty then 0 else occurrencesFrom pattern 0 text

/-- A text without a given ending, if it has that ending. -/
def dropSuffix? (suffix text : List Char) : Option (List Char) :=
  if suffix.isSuffixOf text then some (text.take (text.length - suffix.length)) else none

/-- A text is what stands before the pattern, the pattern, and the rest. -/
theorem breakOn?_eq_some
    {pattern text before after : List Char}
    (h : breakOn? pattern text = some (before, after)) :
    text = before ++ pattern ++ after := by
  induction text generalizing before with
  | nil =>
      simp only [breakOn?] at h
      split at h
      · simp_all
      · simp at h
  | cons c rest ih =>
      simp only [breakOn?] at h
      split at h
      next found =>
        obtain ⟨tail, heq⟩ := List.isPrefixOf_iff_prefix.mp found
        simp only [Option.some.injEq, Prod.mk.injEq] at h
        obtain ⟨rfl, rfl⟩ := h
        rw [← heq]
        simp
      next =>
        simp only [Option.map_eq_some_iff, Prod.mk.injEq] at h
        obtain ⟨⟨b, a⟩, found, rfl, rfl⟩ := h
        simpa using ih found

/-- Skipping characters one by one is dropping them at once. -/
theorem splitOnFrom_eq_drop
    (pattern : List Char)
    (skip : Nat)
    (text : List Char) :
    splitOnFrom pattern skip text = splitOnFrom pattern 0 (text.drop skip) := by
  induction skip generalizing text with
  | zero => simp
  | succ skip ih =>
      cases text with
      | nil => simp [splitOnFrom]
      | cons c rest => simpa [splitOnFrom] using ih rest

end Text
end StringsAudit
