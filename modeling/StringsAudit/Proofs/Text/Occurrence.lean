import Mathlib.Data.List.Basic
import StringsAudit.Text.Substring

/-!
# Where a pattern occurs

A pattern occurs in a text if it is an infix of it. A character outside of the pattern separates
the occurrences on its two sides, so a text that is put together around such characters can be
searched and split piece by piece.

## Main results

* `infix_append_cons_iff` : an occurrence lies on one side of a character outside of the pattern.
* `breakOn?_eq_none_iff` : a search fails exactly if the pattern does not occur.
* `breakOn?_append` : the first occurrence stays the first when text is added behind.
* `splitOn_append_cons_pattern_append` : a piece without the pattern stays in one piece.
-/

namespace StringsAudit
namespace Text

variable {pattern : List Char}

theorem prefix_append_cons_iff
    {c : Char}
    (before after : List Char)
    (hc : c ∉ pattern) :
    pattern <+: before ++ c :: after ↔ pattern <+: before := by
  constructor
  · intro h
    by_cases hlength : pattern.length ≤ before.length
    · exact List.prefix_of_prefix_length_le h (List.prefix_append before _) hlength
    · -- a longer pattern would hold the character
      obtain ⟨tail, heq⟩ := h
      have hbefore : before ++ [c] <+: pattern := by
        refine List.prefix_of_prefix_length_le ⟨after, ?_⟩ ⟨tail, heq⟩ ?_
        · simp
        · simp only [List.length_append, List.length_singleton]
          omega
      exact absurd (hbefore.subset (by simp)) hc
  · intro h
    exact h.trans (List.prefix_append before _)

theorem not_isPrefixOf_append_cons
    {c : Char}
    (before after : List Char)
    (hc : c ∉ pattern)
    (hbefore : ¬ pattern <+: before) :
    ¬ pattern.isPrefixOf (before ++ c :: after) = true := by
  rwa [List.isPrefixOf_iff_prefix, prefix_append_cons_iff before after hc]

/-- An occurrence lies on one side of a character outside of the pattern. -/
theorem infix_append_cons_iff
    {c : Char}
    (before after : List Char)
    (hc : c ∉ pattern)
    (hne : pattern ≠ []) :
    pattern <:+: before ++ c :: after ↔ pattern <:+: before ∨ pattern <:+: after := by
  induction before with
  | nil =>
      rw [List.nil_append, List.infix_cons_iff, List.infix_nil]
      have hinitial : ¬ pattern <+: c :: after := by
        have hnil := prefix_append_cons_iff [] after hc
        rw [List.nil_append, List.prefix_nil] at hnil
        exact fun h => hne (hnil.mp h)
      simp [hinitial, hne]
  | cons d before ih =>
      rw [List.cons_append, List.infix_cons_iff, List.infix_cons_iff, ih, ← List.cons_append,
        prefix_append_cons_iff (d :: before) after hc, or_assoc]

theorem infix_cons_iff_of_not_mem
    {c : Char}
    (after : List Char)
    (hc : c ∉ pattern)
    (hne : pattern ≠ []) :
    pattern <:+: c :: after ↔ pattern <:+: after := by
  have hsides := infix_append_cons_iff [] after hc hne
  rwa [List.nil_append, List.infix_nil, or_iff_right hne] at hsides

/-- A search fails exactly if the pattern does not occur. -/
theorem breakOn?_eq_none_iff
    {text : List Char}
    (hne : pattern ≠ []) :
    breakOn? pattern text = none ↔ ¬ pattern <:+: text := by
  induction text with
  | nil => simp [breakOn?, hne]
  | cons c rest ih =>
      rw [breakOn?, List.infix_cons_iff]
      split
      next hinitial => simp [List.isPrefixOf_iff_prefix.mp hinitial]
      next hinitial =>
        rw [List.isPrefixOf_iff_prefix] at hinitial
        simp [ih, hinitial]

/-- In front of the first occurrence there is none. -/
theorem not_infix_of_breakOn?_eq_some
    {text before after : List Char}
    (hne : pattern ≠ [])
    (h : breakOn? pattern text = some (before, after)) :
    ¬ pattern <:+: before := by
  induction text generalizing before with
  | nil => simp [breakOn?, hne] at h
  | cons c rest ih =>
      rw [breakOn?] at h
      split at h
      next =>
        simp only [Option.some.injEq, Prod.mk.injEq] at h
        rw [← h.1, List.infix_nil]
        exact hne
      next hinitial =>
        obtain ⟨⟨before, after⟩, hfound, heq⟩ := Option.map_eq_some_iff.mp h
        simp only [Prod.mk.injEq] at heq
        obtain ⟨rfl, rfl⟩ := heq
        -- an occurrence at the start would be one at the start of the text
        rw [List.infix_cons_iff, not_or]
        refine ⟨fun hfirst => hinitial ?_, ih hfound⟩
        rw [List.isPrefixOf_iff_prefix, breakOn?_eq_some hfound, List.append_assoc,
          ← List.cons_append]
        exact hfirst.trans (List.prefix_append (c :: before) _)

/-- The first occurrence stays the first when text is added behind. -/
theorem breakOn?_append
    {text before after : List Char}
    (rest : List Char)
    (h : breakOn? pattern text = some (before, after)) :
    breakOn? pattern (text ++ rest) = some (before, after ++ rest) := by
  induction text generalizing before with
  | nil =>
      simp only [breakOn?] at h
      split at h
      next hempty =>
        obtain rfl := List.isEmpty_iff.mp hempty
        simp only [Option.some.injEq, Prod.mk.injEq] at h
        obtain ⟨rfl, rfl⟩ := h
        cases rest <;> simp [breakOn?]
      next => simp at h
  | cons c text ih =>
      simp only [breakOn?, List.cons_append] at h ⊢
      split at h
      next hinitial =>
        simp only [Option.some.injEq, Prod.mk.injEq] at h
        obtain ⟨rfl, rfl⟩ := h
        have hfirst := List.isPrefixOf_iff_prefix.mp hinitial
        have hlonger : pattern <+: c :: (text ++ rest) :=
          hfirst.trans (List.prefix_append (c :: text) rest)
        rw [if_pos (List.isPrefixOf_iff_prefix.mpr hlonger), ← List.cons_append,
          List.drop_append_of_le_length hfirst.length_le]
      next hinitial =>
        obtain ⟨⟨before, after⟩, hfound, heq⟩ := Option.map_eq_some_iff.mp h
        simp only [Prod.mk.injEq] at heq
        obtain ⟨rfl, rfl⟩ := heq
        -- the occurrence that was found is no longer than the text, so none begins here
        have hlength : pattern.length ≤ (c :: text).length := by
          rw [breakOn?_eq_some hfound]
          simp only [List.length_cons, List.length_append]
          omega
        have hnot : ¬ pattern <+: c :: (text ++ rest) := fun hlonger =>
          hinitial (List.isPrefixOf_iff_prefix.mpr
            (List.prefix_of_prefix_length_le hlonger (List.prefix_append (c :: text) rest) hlength))
        rw [if_neg fun hlonger => hnot (List.isPrefixOf_iff_prefix.mp hlonger), ih hfound]
        rfl

/-- Behind a text without the pattern, a search goes on after a character outside of it. -/
theorem breakOn?_append_cons
    {c : Char}
    {before : List Char}
    (after : List Char)
    (hc : c ∉ pattern)
    (hne : pattern ≠ [])
    (hbefore : breakOn? pattern before = none) :
    breakOn? pattern (before ++ c :: after) =
      (breakOn? pattern after).map fun found => (before ++ c :: found.1, found.2) := by
  rw [breakOn?_eq_none_iff hne] at hbefore
  induction before with
  | nil =>
      have hnot : ¬ pattern.isPrefixOf (c :: after) = true :=
        not_isPrefixOf_append_cons [] after hc (by simpa using hne)
      rw [List.nil_append, breakOn?, if_neg hnot]
      rfl
  | cons d before ih =>
      rw [List.infix_cons_iff, not_or] at hbefore
      have hnot : ¬ pattern.isPrefixOf (d :: (before ++ c :: after)) = true :=
        not_isPrefixOf_append_cons (d :: before) after hc hbefore.1
      rw [List.cons_append, breakOn?, if_neg hnot, ih hbefore.2, Option.map_map]
      rfl

/-- A text without the pattern is its only piece. -/
theorem splitOn_of_not_infix
    {text : List Char}
    (h : ¬ pattern <:+: text) :
    splitOn pattern text = [text] := by
  rw [splitOn]
  induction text with
  | nil => rfl
  | cons c rest ih =>
      rw [List.infix_cons_iff, not_or, ← List.isPrefixOf_iff_prefix] at h
      rw [splitOnFrom, if_neg h.1, ih h.2]
      rfl

/-- An occurrence at the start of a text separates the empty piece from the others. -/
theorem splitOn_pattern_append
    (rest : List Char)
    (hne : pattern ≠ []) :
    splitOn pattern (pattern ++ rest) = [] :: splitOn pattern rest := by
  cases pattern with
  | nil => exact absurd rfl hne
  | cons c pattern =>
      have hinitial : (c :: pattern).isPrefixOf (c :: (pattern ++ rest)) = true :=
        List.isPrefixOf_iff_prefix.mpr (List.prefix_append (c :: pattern) rest)
      rw [splitOn, List.cons_append, splitOnFrom, if_pos hinitial, splitOnFrom_eq_drop]
      simp [splitOn]

/-- A piece without the pattern that ends outside of it stays in one piece. -/
theorem splitOn_append_cons_pattern_append
    {c : Char}
    {before : List Char}
    (rest : List Char)
    (hc : c ∉ pattern)
    (hne : pattern ≠ [])
    (hbefore : ¬ pattern <:+: before) :
    splitOn pattern (before ++ c :: (pattern ++ rest)) =
      (before ++ [c]) :: splitOn pattern rest := by
  have hstart := splitOn_pattern_append rest hne
  rw [splitOn] at hstart ⊢
  induction before with
  | nil =>
      have hnot : ¬ pattern.isPrefixOf (c :: (pattern ++ rest)) = true :=
        not_isPrefixOf_append_cons [] (pattern ++ rest) hc (by simpa using hne)
      rw [List.nil_append, splitOnFrom, if_neg hnot, hstart]
      rfl
  | cons d before ih =>
      rw [List.infix_cons_iff, not_or] at hbefore
      have hnot : ¬ pattern.isPrefixOf (d :: (before ++ c :: (pattern ++ rest))) = true :=
        not_isPrefixOf_append_cons (d :: before) (pattern ++ rest) hc hbefore.1
      rw [List.cons_append, splitOnFrom, if_neg hnot, ih hbefore.2]
      rfl

end Text
end StringsAudit
