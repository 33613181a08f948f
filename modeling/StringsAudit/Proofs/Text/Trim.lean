import Mathlib.Data.List.TakeWhile
import StringsAudit.Text.Blank

/-!
# What trimming takes away

## Main results

* `exists_eq_append_stripEnds_append` : trimming takes away characters of its class only.
* `stripEnds_forall_append`, `stripEnds_append_of_forall` : characters of the class in front of a
  text or behind it make no difference.
* `stripEnd_append`, `exists_stripEnds_append` : behind characters that stay, only the rest of the
  text is trimmed.
-/

namespace StringsAudit
namespace Text

theorem exists_eq_stripEnd_append
    (drops : Char → Bool)
    (text : List Char) :
    ∃ after,
      text = stripEnd drops text ++ after ∧
      ∀ c ∈ after, drops c = true := by
  refine ⟨(text.reverse.takeWhile drops).reverse, ?_, ?_⟩
  · rw [stripEnd, ← List.reverse_append, List.takeWhile_append_dropWhile, List.reverse_reverse]
  · intro c hc
    exact List.mem_takeWhile_imp (List.mem_reverse.mp hc)

/-- Trimming takes away characters of its class only. -/
theorem exists_eq_append_stripEnds_append
    (drops : Char → Bool)
    (text : List Char) :
    ∃ before after,
      text = before ++ stripEnds drops text ++ after ∧
      (∀ c ∈ before, drops c = true) ∧
      ∀ c ∈ after, drops c = true := by
  obtain ⟨after, heq, hafter⟩ := exists_eq_stripEnd_append drops (text.dropWhile drops)
  refine ⟨text.takeWhile drops, after, ?_, ?_, hafter⟩
  · rw [List.append_assoc, stripEnds, ← heq, List.takeWhile_append_dropWhile]
  · intro c hc
    exact List.mem_takeWhile_imp hc

/-- What is left of a text stands in it. -/
theorem stripEnds_infix_self
    (drops : Char → Bool)
    (text : List Char) :
    stripEnds drops text <:+: text := by
  obtain ⟨before, after, heq, -, -⟩ := exists_eq_append_stripEnds_append drops text
  exact ⟨before, after, heq.symm⟩

/-- Behind a character that stays, only the rest of the text is trimmed. -/
theorem stripEnd_append
    {drops : Char → Bool}
    {before : List Char}
    (after : List Char)
    (hlast : ∀ c ∈ before.getLast?, drops c = false) :
    stripEnd drops (before ++ after) = before ++ stripEnd drops after := by
  have hbefore : before.reverse.dropWhile drops = before.reverse :=
    dropWhile_eq_self (by simpa [List.head?_reverse] using hlast)
  rw [stripEnd, stripEnd, List.reverse_append, List.dropWhile_append]
  split
  next hempty =>
    rw [List.isEmpty_iff.mp hempty, hbefore]
    simp
  next => simp

/-- Characters of the class behind a text are trimmed away with it. -/
theorem stripEnds_append_of_forall
    {drops : Char → Bool}
    {after : List Char}
    (text : List Char)
    (hafter : ∀ c ∈ after, drops c = true) :
    stripEnds drops (text ++ after) = stripEnds drops text := by
  have hstripEnd (before : List Char) :
      stripEnd drops (before ++ after) = stripEnd drops before := by
    rw [stripEnd, List.reverse_append, List.dropWhile_append_of_pos, stripEnd]
    exact fun c hc => hafter c (List.mem_reverse.mp hc)
  rw [stripEnds, stripEnds, List.dropWhile_append]
  split
  next hempty =>
    rw [List.isEmpty_iff.mp hempty, List.dropWhile_eq_nil_iff.mpr hafter]
  next => exact hstripEnd _

theorem stripEnds_forall_append
    {drops : Char → Bool}
    {before : List Char}
    (text : List Char)
    (hbefore : ∀ c ∈ before, drops c = true) :
    stripEnds drops (before ++ text) = stripEnds drops text := by
  rw [stripEnds, List.dropWhile_append_of_pos hbefore, stripEnds]

/-- A text that starts with a character that stays is trimmed at its end only. -/
theorem stripEnds_of_head
    {drops : Char → Bool}
    {text : List Char}
    (hfirst : ∀ c ∈ text.head?, drops c = false) :
    stripEnds drops text = stripEnd drops text := by
  rw [stripEnds, dropWhile_eq_self hfirst]

/-- Only blanks are trimmed away as a whole. -/
theorem isBlank_of_trim_eq_nil
    {text : List Char}
    (h : trim text = []) :
    ∀ c ∈ text, isBlank c = true := by
  obtain ⟨before, after, heq, hbefore, hafter⟩ := exists_eq_append_stripEnds_append isBlank text
  rw [← trim, h, List.append_nil] at heq
  rw [heq, List.forall_mem_append]
  exact ⟨hbefore, hafter⟩

/-- Behind a text that is not trimmed away as a whole, only the rest is trimmed. -/
theorem exists_stripEnds_append
    {drops : Char → Bool}
    {text : List Char}
    (rest : List Char)
    (hne : stripEnds drops text ≠ []) :
    ∃ after,
      (∀ c ∈ after, drops c = true) ∧
      stripEnds drops (text ++ rest) = stripEnds drops text ++ stripEnd drops (after ++ rest) := by
  obtain ⟨before, after, heq, hbefore, hafter⟩ := exists_eq_append_stripEnds_append drops text
  have hsplit : text ++ rest = before ++ (stripEnds drops text ++ (after ++ rest)) := by
    simpa using congrArg (· ++ rest) heq
  have hfirst : ∀ c ∈ (stripEnds drops text ++ (after ++ rest)).head?, drops c = false := by
    intro c hc
    refine head?_stripEnds drops text c ?_
    cases hstrip : stripEnds drops text with
    | nil => exact absurd hstrip hne
    | cons d tail => simpa [hstrip] using hc
  refine ⟨after, hafter, ?_⟩
  rw [hsplit, stripEnds_forall_append _ hbefore, stripEnds_of_head hfirst,
    stripEnd_append _ (getLast?_stripEnds drops text)]

end Text
end StringsAudit
