import StringsAudit.Comment
import StringsAudit.Proofs.Text.Trim

/-!
# Block comment markers of a text

Markers are found from left to right and without overlap. Here they are tied to what stands in the
text: a text has no marker exactly if neither marker occurs in it, and a character that belongs to
neither marker separates the markers before it from those after it.

## Main results

* `markers_eq_nil_iff` : a text without markers is one in which neither marker occurs.
* `markers_append_cons` : no marker reaches over a character that is neither slash nor star.
* `markers_trim` : trimming loses no marker.
-/

namespace StringsAudit
namespace Comment

open Text

/-- The marker that opens a block comment. -/
def openingText : List Char := ['/', '*']

/-- The marker that closes a block comment. -/
def closingText : List Char := ['*', '/']

/-- Whether a character belongs to neither marker of block comments. -/
def IsNeutral (c : Char) : Prop :=
  c ≠ '/' ∧ c ≠ '*'

@[simp] theorem markers_nil :
    markers [] = [] := by
  rfl

@[simp] theorem markers_opening
    (rest : List Char) :
    markers ('/' :: '*' :: rest) = .opening :: markers rest := by
  rfl

@[simp] theorem markers_closing
    (rest : List Char) :
    markers ('*' :: '/' :: rest) = .closing :: markers rest := by
  rfl

theorem markers_cons
    {c : Char}
    (rest : List Char)
    (hc : IsNeutral c) :
    markers (c :: rest) = markers rest := by
  rw [markers]
  · exact fun _ hslash _ => hc.1 hslash
  · exact fun _ hstar _ => hc.2 hstar

/-- Neutral characters in front of a text bring no marker. -/
theorem markers_neutral_append
    {before : List Char}
    (text : List Char)
    (h : ∀ c ∈ before, IsNeutral c) :
    markers (before ++ text) = markers text := by
  induction before with
  | nil => rfl
  | cons c rest ih =>
      rw [List.cons_append, markers_cons _ (h c List.mem_cons_self)]
      exact ih fun d hd => h d (List.mem_cons_of_mem c hd)

/-- No marker reaches over a character that is neither slash nor star. -/
theorem markers_append_cons
    {c : Char}
    (before after : List Char)
    (hc : IsNeutral c) :
    markers (before ++ c :: after) = markers before ++ markers after := by
  fun_induction markers before with
  | case1 rest ih => simp [ih]
  | case2 rest ih => simp [ih]
  | case3 d rest hopening hclosing ih =>
      rw [List.cons_append, ← ih, markers]
      · intro tail hslash heq
        cases rest with
        | nil => exact hc.2 (by simpa using congrArg List.head? heq)
        | cons e rest =>
            obtain ⟨rfl, -⟩ := List.cons.inj heq
            exact hopening rest hslash rfl
      · intro tail hstar heq
        cases rest with
        | nil => exact hc.1 (by simpa using congrArg List.head? heq)
        | cons e rest =>
            obtain ⟨rfl, -⟩ := List.cons.inj heq
            exact hclosing rest hstar rfl
  | case4 => simp [markers_cons after hc]

theorem markers_append_neutral
    {after : List Char}
    (text : List Char)
    (h : ∀ c ∈ after, IsNeutral c) :
    markers (text ++ after) = markers text := by
  cases after with
  | nil => simp
  | cons c rest =>
      have hrest : markers rest = [] := by
        simpa using markers_neutral_append [] fun d hd => h d (List.mem_cons_of_mem c hd)
      rw [markers_append_cons text rest (h c List.mem_cons_self), hrest, List.append_nil]

theorem isNeutral_of_isBlank
    {c : Char}
    (h : isBlank c = true) :
    IsNeutral c := by
  constructor <;>
    rintro rfl <;>
    revert h <;>
    decide

/-- Trimming loses no marker. -/
@[simp] theorem markers_trim
    (text : List Char) :
    markers (trim text) = markers text := by
  obtain ⟨before, after, heq, hbefore, hafter⟩ :=
    exists_eq_append_stripEnds_append isBlank text
  have hleft := markers_neutral_append (stripEnds isBlank text) fun c hc =>
    isNeutral_of_isBlank (hbefore c hc)
  have hright := markers_append_neutral (before ++ stripEnds isBlank text) fun c hc =>
    isNeutral_of_isBlank (hafter c hc)
  rw [trim, ← hleft, ← hright, ← heq]

/-- A text has no marker exactly if neither marker occurs in it. -/
theorem markers_eq_nil_iff
    {text : List Char} :
    markers text = [] ↔ ¬ openingText <:+: text ∧ ¬ closingText <:+: text := by
  fun_induction markers text with
  | case1 rest ih => simp [openingText, List.infix_cons_iff]
  | case2 rest ih => simp [closingText, List.infix_cons_iff]
  | case3 c rest hopening hclosing ih =>
      have hnotOpening : ¬ openingText <+: c :: rest := by
        rintro ⟨tail, heq⟩
        obtain ⟨rfl, rfl⟩ := List.cons.inj heq
        exact hopening tail rfl rfl
      have hnotClosing : ¬ closingText <+: c :: rest := by
        rintro ⟨tail, heq⟩
        obtain ⟨rfl, rfl⟩ := List.cons.inj heq
        exact hclosing tail rfl rfl
      simp [ih, List.infix_cons_iff, hnotOpening, hnotClosing]
  | case4 => simp [openingText, closingText]

end Comment
end StringsAudit
