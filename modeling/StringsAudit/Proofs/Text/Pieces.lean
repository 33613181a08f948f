import StringsAudit.Proofs.Text.Occurrence

/-!
# The pieces of a text around a pattern

## Main results

* `intercalate_splitOn` : the pieces of a text are joined to the text.
* `length_splitOn` : a text has one piece more than the pattern has occurrences.
* `occurrencesFrom_append_cons` : occurrences are counted on each side of a character outside of the
  pattern.
-/

namespace StringsAudit
namespace Text

variable {pattern : List Char}

theorem splitOnFrom_ne_nil
    (pattern : List Char)
    (skip : Nat)
    (text : List Char) :
    splitOnFrom pattern skip text ≠ [] := by
  induction text generalizing skip with
  | nil => exact List.cons_ne_nil _ _
  | cons c rest ih =>
      cases skip with
      | succ skip => exact ih skip
      | zero =>
          rw [splitOnFrom]
          split
          next => exact List.cons_ne_nil _ _
          next => cases splitOnFrom pattern 0 rest <;> exact List.cons_ne_nil _ _

theorem intercalate_consHead
    (pattern : List Char)
    (c : Char)
    {pieces : List (List Char)}
    (hne : pieces ≠ []) :
    pattern.intercalate (consHead c pieces) = c :: pattern.intercalate pieces := by
  cases pieces with
  | nil => exact absurd rfl hne
  | cons piece others =>
      cases others with
      | nil => simp [consHead]
      | cons other others => simp [consHead]

theorem intercalate_splitOnFrom
    (skip : Nat)
    (text : List Char)
    (hne : pattern ≠ []) :
    pattern.intercalate (splitOnFrom pattern skip text) = text.drop skip := by
  induction text generalizing skip with
  | nil => simp [splitOnFrom]
  | cons c rest ih =>
      cases skip with
      | succ skip => exact ih skip
      | zero =>
          rw [splitOnFrom]
          split
          next hinitial =>
            obtain ⟨tail, heq⟩ := List.isPrefixOf_iff_prefix.mp hinitial
            rw [List.intercalate_cons_of_ne_nil (splitOnFrom_ne_nil _ _ _), ih, List.nil_append,
              List.drop_zero, ← heq]
            -- the occurrence takes the first character and what is skipped behind it
            cases pattern with
            | nil => exact absurd rfl hne
            | cons d pattern =>
                obtain ⟨rfl, rfl⟩ := List.cons.inj heq
                simp
          next => rw [intercalate_consHead _ _ (splitOnFrom_ne_nil _ _ _), ih]; rfl

/-- The pieces of a text are joined to the text. -/
theorem intercalate_splitOn
    (text : List Char)
    (hne : pattern ≠ []) :
    pattern.intercalate (splitOn pattern text) = text :=
  intercalate_splitOnFrom 0 text hne

theorem length_splitOnFrom
    (pattern : List Char)
    (skip : Nat)
    (text : List Char) :
    (splitOnFrom pattern skip text).length = occurrencesFrom pattern skip text + 1 := by
  induction text generalizing skip with
  | nil => rfl
  | cons c rest ih =>
      cases skip with
      | succ skip => exact ih skip
      | zero =>
          rw [splitOnFrom, occurrencesFrom]
          split
          next => rw [List.length_cons, ih]
          next =>
            rw [← ih]
            cases hpieces : splitOnFrom pattern 0 rest with
            | nil => exact absurd hpieces (splitOnFrom_ne_nil pattern 0 rest)
            | cons piece pieces => rfl

/-- A text has one piece more than the pattern has occurrences. -/
theorem length_splitOn
    (pattern text : List Char) :
    (splitOn pattern text).length = occurrencesFrom pattern 0 text + 1 :=
  length_splitOnFrom pattern 0 text

/-- Nothing is counted exactly if the pattern does not occur. -/
theorem occurrencesFrom_eq_zero_iff
    {text : List Char}
    (hne : pattern ≠ []) :
    occurrencesFrom pattern 0 text = 0 ↔ ¬ pattern <:+: text := by
  induction text with
  | nil => simp [occurrencesFrom, hne]
  | cons c rest ih =>
      rw [occurrencesFrom, List.infix_cons_iff, ← List.isPrefixOf_iff_prefix]
      split
      next hinitial => simp [hinitial]
      next hinitial => simp [hinitial, ih]

theorem occurrencesFrom_append_cons_of_le
    {c : Char}
    {skip : Nat}
    (before after : List Char)
    (hc : c ∉ pattern)
    (hne : pattern ≠ [])
    (hskip : skip ≤ before.length) :
    occurrencesFrom pattern skip (before ++ c :: after) =
      occurrencesFrom pattern skip before + occurrencesFrom pattern 0 after := by
  induction before generalizing skip with
  | nil =>
      obtain rfl : skip = 0 := by simpa using hskip
      have hnot : ¬ pattern.isPrefixOf (c :: after) = true :=
        not_isPrefixOf_append_cons [] after hc (by simpa using hne)
      have hnone : occurrencesFrom pattern 0 [] = 0 := rfl
      rw [List.nil_append, hnone, Nat.zero_add, occurrencesFrom, if_neg hnot]
  | cons d rest ih =>
      rw [List.length_cons] at hskip
      cases skip with
      | succ skip => exact ih (Nat.le_of_succ_le_succ hskip)
      | zero =>
          have hbegins := prefix_append_cons_iff (d :: rest) after hc
          rw [← List.isPrefixOf_iff_prefix, ← List.isPrefixOf_iff_prefix, List.cons_append]
            at hbegins
          rw [List.cons_append, occurrencesFrom, occurrencesFrom]
          by_cases hinitial : pattern.isPrefixOf (d :: rest) = true
          · have hlength := (List.isPrefixOf_iff_prefix.mp hinitial).length_le
            rw [List.length_cons] at hlength
            rw [if_pos (hbegins.mpr hinitial), if_pos hinitial, ih (by omega)]
            omega
          · rw [if_neg (mt hbegins.mp hinitial), if_neg hinitial, ih (Nat.zero_le _)]

/-- Occurrences are counted on each side of a character outside of the pattern. -/
theorem occurrencesFrom_append_cons
    {c : Char}
    (before after : List Char)
    (hc : c ∉ pattern)
    (hne : pattern ≠ []) :
    occurrencesFrom pattern 0 (before ++ c :: after) =
      occurrencesFrom pattern 0 before + occurrencesFrom pattern 0 after :=
  occurrencesFrom_append_cons_of_le before after hc hne (Nat.zero_le _)

end Text
end StringsAudit
