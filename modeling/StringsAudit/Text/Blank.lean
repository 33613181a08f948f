/-!
# Blank characters and trimming

Text is trimmed of the characters with the Unicode property White_Space, at both ends.

## Main definitions

* `isBlank` : the characters with the property White_Space.
* `stripEnds` : a text without the characters of a class at its two ends.
* `trim` : a text without the blanks at its two ends.

## Main results

* `stripEnds_eq_self` : a text with neither end in the class is left alone.
-/

namespace StringsAudit
namespace Text

/-- The characters with the Unicode property White_Space. -/
def isBlank (c : Char) : Bool :=
  let n := c.toNat
  (0x9 ≤ n && n ≤ 0xD) || n == 0x20 || n == 0x85 || n == 0xA0 || n == 0x1680
    || (0x2000 ≤ n && n ≤ 0x200A) || n == 0x2028 || n == 0x2029 || n == 0x202F
    || n == 0x205F || n == 0x3000

/-- A text without the characters of a class at its end. -/
def stripEnd (drops : Char → Bool) (text : List Char) : List Char :=
  (text.reverse.dropWhile drops).reverse

/-- A text without the characters of a class at its two ends. -/
def stripEnds (drops : Char → Bool) (text : List Char) : List Char :=
  stripEnd drops (text.dropWhile drops)

/-- A text without the blanks at its two ends. -/
def trim (text : List Char) : List Char :=
  stripEnds isBlank text

theorem dropWhile_eq_self
    {drops : Char → Bool}
    {text : List Char}
    (h : ∀ c ∈ text.head?, drops c = false) :
    text.dropWhile drops = text := by
  cases text with
  | nil => rfl
  | cons c rest =>
      have : drops c = false := h c (by simp)
      simp [List.dropWhile, this]

theorem head?_dropWhile
    (drops : Char → Bool)
    (text : List Char) :
    ∀ c ∈ (text.dropWhile drops).head?, drops c = false := by
  induction text with
  | nil => simp
  | cons c rest ih =>
      by_cases h : drops c = true
      · simpa [List.dropWhile, h] using ih
      · intro d hd
        simp [List.dropWhile, h] at hd
        simpa [← hd] using h

/-- A text with neither end in the class is left alone. -/
theorem stripEnds_eq_self
    {drops : Char → Bool}
    {text : List Char}
    (first : ∀ c ∈ text.head?, drops c = false)
    (last : ∀ c ∈ text.getLast?, drops c = false) :
    stripEnds drops text = text := by
  rw [stripEnds, dropWhile_eq_self first, stripEnd, dropWhile_eq_self, List.reverse_reverse]
  simpa [List.head?_reverse] using last

theorem getLast?_stripEnds
    (drops : Char → Bool)
    (text : List Char) :
    ∀ c ∈ (stripEnds drops text).getLast?, drops c = false := by
  rw [stripEnds, stripEnd, List.getLast?_reverse]
  exact head?_dropWhile drops _

theorem stripEnd_isPrefix
    (drops : Char → Bool)
    (text : List Char) :
    stripEnd drops text <+: text := by
  have h := (List.dropWhile_suffix drops (l := text.reverse))
  have := List.reverse_prefix.mpr h
  simpa [stripEnd] using this

theorem head?_stripEnds
    (drops : Char → Bool)
    (text : List Char) :
    ∀ c ∈ (stripEnds drops text).head?, drops c = false := by
  intro c hc
  obtain ⟨tail, h⟩ := stripEnd_isPrefix drops (text.dropWhile drops)
  refine head?_dropWhile drops text c ?_
  rw [← h]
  rw [stripEnds] at hc
  cases hs : stripEnd drops (text.dropWhile drops) with
  | nil => simp [hs] at hc
  | cons d rest => simpa [hs] using hc

end Text
end StringsAudit
