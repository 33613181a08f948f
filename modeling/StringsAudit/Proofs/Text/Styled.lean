import Mathlib.Data.List.Basic
import StringsAudit.Text.Styled

/-!
# Styled text with and without colours

The codes of a style stand around a text and have no part of it. So where the texts hold no escape
character, taking all escape codes away from what is shown with colours leaves what is shown without
them.

## Main definitions

* `withoutCodes` : a text without its escape codes.
* `EscapeFree` : a text without escape characters.
* `Styled.IsEscapeFree` : pieces of text without escape characters.

## Main results

* `Styled.render_spaced` : pieces with a space between them.
* `withoutCodes_renderLines` : colours only add escape codes.
-/

namespace StringsAudit
namespace Text

/-! ### Escape codes -/

/-- The text behind a position without escape codes; the position may be inside of one. -/
def dropCodes : (inside : Bool) → List Char → List Char
  | _, [] => []
  | true, c :: rest => dropCodes (c != 'm') rest
  | false, '\x1b' :: '[' :: rest => dropCodes true rest
  | false, c :: rest => c :: dropCodes false rest

/--
A text without its escape codes: each starts with an escape character and a bracket, and ends with
the next letter `m`.
-/
def withoutCodes (text : String) : String :=
  String.ofList (dropCodes false text.toList)

/-- A text without escape characters. -/
def EscapeFree (text : String) : Prop :=
  '\x1b' ∉ text.toList

instance (text : String) : Decidable (EscapeFree text) :=
  inferInstanceAs (Decidable (_ ∉ _))

@[simp] theorem escapeFree_append_iff
    {first second : String} :
    EscapeFree (first ++ second) ↔ EscapeFree first ∧ EscapeFree second := by
  rw [EscapeFree, String.toList_append, List.mem_append, not_or]
  rfl

/-- A number is written with digits only. -/
theorem not_mem_repr
    {c : Char}
    (hc : c.isDigit = false)
    (n : Nat) :
    c ∉ (Nat.repr n).toList := by
  rw [Nat.toList_repr]
  intro hmem
  rw [Nat.isDigit_of_mem_toDigits (by decide) (by decide) hmem] at hc
  cases hc

@[simp] theorem escapeFree_repr
    (n : Nat) :
    EscapeFree (Nat.repr n) :=
  not_mem_repr (by decide) n

@[simp] theorem escapeFree_toString_iff
    {text : String} :
    EscapeFree (toString text) ↔ EscapeFree text :=
  Iff.rfl

@[simp] theorem escapeFree_toString_nat
    (n : Nat) :
    EscapeFree (toString n) :=
  escapeFree_repr n

theorem escapeFree_intercalate
    {separator : String}
    {texts : List String}
    (hseparator : EscapeFree separator)
    (htexts : ∀ text ∈ texts, EscapeFree text) :
    EscapeFree (separator.intercalate texts) := by
  induction texts with
  | nil => exact List.not_mem_nil
  | cons first rest ih =>
      rw [List.forall_mem_cons] at htexts
      cases rest with
      | nil => simpa using htexts.1
      | cons second rest =>
          rw [String.intercalate_cons_cons]
          simp only [escapeFree_append_iff]
          exact ⟨⟨htexts.1, hseparator⟩, ih htexts.2⟩

/-- What holds no escape character stays as it is. -/
theorem dropCodes_append_of_not_mem
    {text : List Char}
    (hfree : '\x1b' ∉ text)
    (rest : List Char) :
    dropCodes false (text ++ rest) = text ++ dropCodes false rest := by
  induction text with
  | nil => rfl
  | cons c text ih =>
      rw [List.mem_cons, not_or] at hfree
      rw [List.cons_append, dropCodes, ih hfree.2, List.cons_append]
      exact fun _ hc => absurd hc.symm hfree.1

/-- Inside of a code, all is dropped through its end. -/
theorem dropCodes_inside
    {numbers : List Char}
    (hopen : 'm' ∉ numbers)
    (rest : List Char) :
    dropCodes true (numbers ++ 'm' :: rest) = dropCodes false rest := by
  induction numbers with
  | nil => rfl
  | cons c numbers ih =>
      rw [List.mem_cons, not_or] at hopen
      rw [List.cons_append, dropCodes, bne_iff_ne.mpr (Ne.symm hopen.1), ih hopen.2]

/-- An escape code with the numbers in it. -/
def code (numbers : String) : String :=
  escapeStart ++ (numbers ++ "m")

/-- An escape code is dropped. -/
theorem dropCodes_code_append
    {numbers : String}
    (hopen : 'm' ∉ numbers.toList)
    (rest : List Char) :
    dropCodes false ((code numbers).toList ++ rest) = dropCodes false rest := by
  have htext : (code numbers).toList ++ rest =
      '\x1b' :: '[' :: (numbers.toList ++ 'm' :: rest) := by
    rw [code, escapeStart, String.toList_append, String.toList_append, List.append_assoc,
      List.append_assoc]
    rfl
  rw [htext, dropCodes, dropCodes_inside hopen]

/-- No number ends a code. -/
theorem Style.not_mem_codes
    (style : Style) :
    'm' ∉ (";".intercalate (style.codes.map toString)).toList := by
  obtain ⟨bold, dimmed, color?⟩ := style
  cases bold <;> cases dimmed <;> cases color? with
  | none => decide
  | some color => cases color <;> decide

/-! ### Pieces of text -/

namespace Span

/-- A piece without colours is its text. -/
@[simp] theorem render_false
    (span : Span) :
    span.render false = span.text := by
  simp [render]

/-- A piece with colours is its text, between two codes if it has a style. -/
theorem render_true_cases
    (span : Span) :
    span.render true = span.text ∨
      span.render true =
        code (";".intercalate (span.style.codes.map toString)) ++ (span.text ++ code "0") := by
  rw [render]
  split
  next => exact .inl rfl
  next =>
    right
    have hreset : code "0" = escapeStart ++ "0m" := rfl
    rw [hreset, code]
    simp only [String.append_assoc]

/-- The codes of a piece are dropped, and its text stays. -/
theorem dropCodes_render_append
    {span : Span}
    (hfree : EscapeFree span.text)
    (rest : List Char) :
    dropCodes false ((span.render true).toList ++ rest) =
      span.text.toList ++ dropCodes false rest := by
  rcases span.render_true_cases with heq | heq
  · rw [heq]
    exact dropCodes_append_of_not_mem hfree rest
  · rw [heq, String.toList_append, List.append_assoc,
      dropCodes_code_append span.style.not_mem_codes, String.toList_append, List.append_assoc,
      dropCodes_append_of_not_mem hfree, dropCodes_code_append (by decide)]

end Span

namespace Styled

/-- Pieces of text without escape characters. -/
def IsEscapeFree (styled : Styled) : Prop :=
  ∀ span ∈ styled, EscapeFree span.text

theorem spaced_singleton
    (piece : Styled) :
    spaced [piece] = piece := by
  simp [spaced]

theorem spaced_cons_cons
    (first second : Styled)
    (rest : List Styled) :
    spaced (first :: second :: rest) = first ++ plain " " ++ spaced (second :: rest) := by
  simp [spaced]

@[simp] theorem isEscapeFree_append_iff
    {first second : Styled} :
    IsEscapeFree (first ++ second) ↔ first.IsEscapeFree ∧ second.IsEscapeFree :=
  List.forall_mem_append

theorem isEscapeFree_singleton_iff
    {style : Style}
    {text : String} :
    IsEscapeFree [⟨style, text⟩] ↔ EscapeFree text :=
  List.forall_mem_singleton

section Singleton

variable {color : Color} {text : String}

@[simp] theorem isEscapeFree_plain_iff :
    (plain text).IsEscapeFree ↔ EscapeFree text :=
  isEscapeFree_singleton_iff

@[simp] theorem isEscapeFree_strong_iff :
    (strong text).IsEscapeFree ↔ EscapeFree text :=
  isEscapeFree_singleton_iff

@[simp] theorem isEscapeFree_strongIn_iff :
    (strongIn color text).IsEscapeFree ↔ EscapeFree text :=
  isEscapeFree_singleton_iff

@[simp] theorem isEscapeFree_faintIn_iff :
    (faintIn color text).IsEscapeFree ↔ EscapeFree text :=
  isEscapeFree_singleton_iff

@[simp] theorem isEscapeFree_inColor_iff :
    (inColor color text).IsEscapeFree ↔ EscapeFree text :=
  isEscapeFree_singleton_iff

end Singleton

/-- The spaces between pieces are no escape characters. -/
@[simp] theorem isEscapeFree_spaced_iff
    {pieces : List Styled} :
    (spaced pieces).IsEscapeFree ↔ ∀ piece ∈ pieces, piece.IsEscapeFree := by
  induction pieces with
  | nil => simp [spaced, IsEscapeFree]
  | cons first rest ih =>
      cases rest with
      | nil => rw [spaced_singleton, List.forall_mem_singleton]
      | cons second rest =>
          have hspace : EscapeFree " " := by decide
          rw [spaced_cons_cons, List.forall_mem_cons, ← ih, isEscapeFree_append_iff,
            isEscapeFree_append_iff, isEscapeFree_plain_iff]
          simp only [hspace, and_true]

theorem render_cons
    (colored : Bool)
    (span : Span)
    (rest : Styled) :
    render colored (span :: rest) = span.render colored ++ render colored rest := by
  simp [render]

@[simp] theorem render_plain_text
    (colored : Bool)
    (text : String) :
    render colored (plain text) = text := by
  cases colored <;> simp [render, plain, Span.render, Style.plain, Style.codes]

@[simp] theorem render_false_inColor
    (color : Color)
    (text : String) :
    render false (inColor color text) = text := by
  simp [render, inColor]

/-- Pieces with a space between them. -/
theorem render_spaced
    (colored : Bool)
    (pieces : List Styled) :
    render colored (spaced pieces) = " ".intercalate (pieces.map (render colored)) := by
  induction pieces with
  | nil => rfl
  | cons first rest ih =>
      cases rest with
      | nil => simp [spaced_singleton]
      | cons second rest =>
          rw [spaced_cons_cons, render_append, render_append, render_plain_text, ih,
            List.map_cons, List.map_cons, List.map_cons, String.intercalate_cons_cons]

theorem dropCodes_render_append
    {styled : Styled}
    (hfree : styled.IsEscapeFree)
    (rest : List Char) :
    dropCodes false ((render true styled).toList ++ rest) =
      (render false styled).toList ++ dropCodes false rest := by
  induction styled with
  | nil => rfl
  | cons span styled ih =>
      rw [IsEscapeFree, List.forall_mem_cons] at hfree
      simp only [render_cons, String.toList_append, List.append_assoc, Span.render_false,
        Span.dropCodes_render_append hfree.1, ih hfree.2]

theorem renderLines_cons
    (colored : Bool)
    (line : Styled)
    (rest : List Styled) :
    renderLines colored (line :: rest) =
      render colored line ++ ("\n" ++ renderLines colored rest) := by
  simp [renderLines, String.append_assoc]

theorem renderLines_append
    (colored : Bool)
    (first second : List Styled) :
    renderLines colored (first ++ second) =
      renderLines colored first ++ renderLines colored second := by
  simp [renderLines]

/-- Colours only add escape codes. -/
theorem withoutCodes_renderLines
    {lines : List Styled}
    (hfree : ∀ line ∈ lines, line.IsEscapeFree) :
    withoutCodes (renderLines true lines) = renderLines false lines := by
  have hdrop : dropCodes false (renderLines true lines).toList =
      (renderLines false lines).toList := by
    induction lines with
    | nil => rfl
    | cons line lines ih =>
        rw [List.forall_mem_cons] at hfree
        simp only [renderLines_cons, String.toList_append, dropCodes_render_append hfree.1]
        rw [dropCodes_append_of_not_mem (by decide), ih hfree.2]
  rw [withoutCodes, hdrop, String.ofList_toList]

end Styled
end Text
end StringsAudit
