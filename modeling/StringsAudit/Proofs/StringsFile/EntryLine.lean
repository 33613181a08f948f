import Mathlib.Data.List.Infix
import StringsAudit.Proofs.Comment.Stripping
import StringsAudit.Proofs.Text.Occurrence
import StringsAudit.StringsFile

/-!
# The line of an entry

An entry is written as its key and its value in quotes, with the separator between them and the
terminator at the end. Since a quote belongs to none of the patterns that are searched for, each of
them occurs in the line only if it occurs in the key or in the value.

## Main definitions

* `entryText` : the line that is written for an entry.
* `IsWritable` : a text that can stand in quotes as it is.

## Main results

* `infix_entryText_iff` : what occurs in a line occurs in its key or in its value.
* `codeOf_append_lineComment` : a line comment behind the code is no part of it.
* `readLine_entryText` : the line of writable texts is read as their entry.
-/

namespace StringsAudit
namespace StringsFile

open Text Comment

/-- The line that is written for an entry. -/
def entryText (key value : String) : String :=
  "\"" ++ key ++ "\" = \"" ++ value ++ "\";"

/-- A text that can stand in quotes as it is. -/
structure IsWritable (text : String) : Prop where
  one_line : '\n' ∉ text.toList
  no_lineMarker : ¬ lineMarker <:+: text.toList
  no_opening : ¬ openingText <:+: text.toList
  no_closing : ¬ closingText <:+: text.toList
  no_separator : ¬ separator <:+: text.toList
  head_stays : ∀ c ∈ text.toList.head?, c ≠ ';' ∧ c ≠ '"'
  last_stays : ∀ c ∈ text.toList.getLast?, c ≠ ';' ∧ c ≠ '"'

theorem all_not_isDelimiter_iff
    {c? : Option Char} :
    (c?.all fun c => !isDelimiter c) = true ↔ ∀ c ∈ c?, c ≠ ';' ∧ c ≠ '"' := by
  simp [Option.all_eq_true, isDelimiter]

instance (text : String) : Decidable (IsWritable text) :=
  decidable_of_iff
    ('\n' ∉ text.toList ∧ ¬ lineMarker <:+: text.toList ∧ ¬ openingText <:+: text.toList ∧
      ¬ closingText <:+: text.toList ∧ ¬ separator <:+: text.toList ∧
      (text.toList.head?.all fun c => !isDelimiter c) = true ∧
      (text.toList.getLast?.all fun c => !isDelimiter c) = true) <| by
    simp only [all_not_isDelimiter_iff]
    exact ⟨fun ⟨h₁, h₂, h₃, h₄, h₅, h₆, h₇⟩ => ⟨h₁, h₂, h₃, h₄, h₅, h₆, h₇⟩,
      fun ⟨h₁, h₂, h₃, h₄, h₅, h₆, h₇⟩ => ⟨h₁, h₂, h₃, h₄, h₅, h₆, h₇⟩⟩

theorem toList_entryText
    (key value : String) :
    (entryText key value).toList =
      '"' :: (key.toList ++ '"' :: (separator ++ '"' :: (value.toList ++ ['"', ';']))) := by
  simp [entryText, separator]

theorem getLast?_entryText
    (key value : String) :
    (entryText key value).toList.getLast? = some terminator := by
  have hend : "\";".toList.getLast? = some terminator := by decide
  rw [entryText, String.toList_append, List.getLast?_append, hend]
  rfl

/-- The text of an entry starts with a quote and ends with the terminator, so nothing is trimmed. -/
@[simp] theorem trim_entryText
    (key value : String) :
    trim (entryText key value).toList = (entryText key value).toList := by
  refine stripEnds_eq_self (fun c hc => ?_) fun c hc => ?_
  · rw [toList_entryText, List.head?_cons, Option.mem_some_iff] at hc
    rw [← hc]
    decide
  · rw [getLast?_entryText, Option.mem_some_iff] at hc
    rw [← hc]
    decide

theorem isInert_entryText
    (key value : String) :
    isInert (entryText key value).toList = false := by
  rw [isInert, trim_entryText, toList_entryText]
  rfl

theorem lineFeed_not_mem_entryText
    {key value : String}
    (hkey : '\n' ∉ key.toList)
    (hvalue : '\n' ∉ value.toList) :
    '\n' ∉ (entryText key value).toList := by
  rw [toList_entryText]
  simp [separator, hkey, hvalue]

/-- A pattern without quotes occurs in the key, the separator, the value or the terminator. -/
theorem infix_entryText_iff
    {pattern : List Char}
    (key value : String)
    (hquote : '"' ∉ pattern)
    (hne : pattern ≠ []) :
    pattern <:+: (entryText key value).toList ↔
      pattern <:+: key.toList ∨ pattern <:+: separator ∨ pattern <:+: value.toList ∨
        pattern <:+: [terminator] := by
  rw [toList_entryText, infix_cons_iff_of_not_mem _ hquote hne,
    infix_append_cons_iff _ _ hquote hne, infix_append_cons_iff _ _ hquote hne,
    infix_append_cons_iff _ _ hquote hne, terminator]

theorem markers_entryText
    {key value : String}
    (hkey : IsWritable key)
    (hvalue : IsWritable value) :
    markers (entryText key value).toList = [] := by
  rw [markers_eq_nil_iff, infix_entryText_iff key value (by decide) (by decide),
    infix_entryText_iff key value (by decide) (by decide)]
  have hseparator : ¬ openingText <:+: separator ∧ ¬ closingText <:+: separator := by decide
  have hterminator : ¬ openingText <:+: [terminator] ∧ ¬ closingText <:+: [terminator] := by decide
  simp [hkey.no_opening, hkey.no_closing, hvalue.no_opening, hvalue.no_closing, hseparator,
    hterminator]

/-- A line comment behind the code is no part of it. -/
theorem codeOf_append_lineComment
    {code : List Char}
    (rest : List Char)
    (htrim : trim code = code) :
    codeOf (code ++ ' ' :: (lineMarker ++ rest)) = codeOf code := by
  cases hcode : breakOn? lineMarker code with
  | some found =>
      obtain ⟨before, after⟩ := found
      rw [codeOf, codeOf, hcode, breakOn?_append _ hcode]
  | none =>
      have hblank : ∀ c ∈ [' '], isBlank c = true := List.forall_mem_singleton.mpr rfl
      have hcomment : breakOn? lineMarker (lineMarker ++ rest) = some ([], rest) := by
        simp [lineMarker, breakOn?]
      rw [codeOf, codeOf, hcode,
        breakOn?_append_cons _ (by decide) (by decide) hcode, hcomment]
      exact (stripEnds_append_of_forall code hblank).trans htrim

theorem assignments_append
    (first second : List Line) :
    assignments (first ++ second) = assignments first ++ assignments second :=
  List.filterMap_append

theorem warnings_append
    (first second : List Line) :
    warnings (first ++ second) = warnings first ++ warnings second :=
  List.filterMap_append

/-- What makes a line an assignment. -/
theorem readLine_eq_assignment_iff
    {line : Line}
    {assignment : Assignment} :
    readLine line = .assignment assignment ↔
      isInert line.text.toList = false ∧
      (codeOf (trim line.text.toList)).getLast? = some terminator ∧
      assignment? line.number (codeOf (trim line.text.toList)) = some assignment := by
  simp only [readLine, beq_iff_eq]
  by_cases hinert : isInert line.text.toList = true
  · simp [hinert]
  · by_cases hlast : (codeOf (trim line.text.toList)).getLast? = some terminator
    · cases hfound : assignment? line.number (codeOf (trim line.text.toList)) <;>
        simp [hinert, hlast]
    · simp only [hinert, hlast, Bool.false_eq_true, if_false, false_and, and_false, iff_false]
      split <;> simp

/-- Quotes and what is trimmed behind them are no part of a quoted text. -/
theorem stripEnds_quoted
    {after : List Char}
    (text : List Char)
    (hafter : ∀ c ∈ after, isDelimiter c = true) :
    stripEnds isDelimiter ('"' :: (text ++ after)) = stripEnds isDelimiter text := by
  have hquote : ∀ c ∈ ['"'], isDelimiter c = true := List.forall_mem_singleton.mpr rfl
  rw [← List.singleton_append, stripEnds_forall_append _ hquote,
    stripEnds_append_of_forall _ hafter]

theorem IsWritable.stripEnds_eq
    {text : String}
    (h : IsWritable text) :
    stripEnds isDelimiter text.toList = text.toList := by
  refine stripEnds_eq_self (fun c hc => ?_) fun c hc => ?_
  · simp [isDelimiter, h.head_stays c hc]
  · simp [isDelimiter, h.last_stays c hc]

/-- If the one separator of a line is that between key and value, they are what is read of it. -/
theorem assignment?_entryText_of_no_separator
    {key value : String}
    (number : Nat)
    (hkey : ¬ separator <:+: key.toList)
    (hvalue : ¬ separator <:+: value.toList) :
    assignment? number (entryText key value).toList =
      some ⟨String.ofList (stripEnds isDelimiter key.toList), number,
        String.ofList (stripEnds isDelimiter value.toList)⟩ := by
  have hquote : '"' ∉ separator := by decide
  have hne : separator ≠ [] := by decide
  have hbefore : ¬ separator <:+: '"' :: key.toList := by
    rwa [infix_cons_iff_of_not_mem _ hquote hne]
  have hafter : ¬ separator <:+: '"' :: (value.toList ++ ['"', ';']) := by
    have hterminator : ¬ separator <:+: [';'] := by decide
    rw [infix_cons_iff_of_not_mem _ hquote hne, infix_append_cons_iff _ _ hquote hne]
    simp [hvalue, hterminator]
  have hsplit :
      splitOn separator (entryText key value).toList =
        ['"' :: (key.toList ++ ['"']), '"' :: (value.toList ++ ['"', ';'])] := by
    rw [toList_entryText, ← List.cons_append,
      splitOn_append_cons_pattern_append _ hquote hne hbefore, splitOn_of_not_infix hafter]
    rfl
  have hkeyEnd : ∀ c ∈ ['"'], isDelimiter c = true := List.forall_mem_singleton.mpr rfl
  have hvalueEnd : ∀ c ∈ ['"', ';'], isDelimiter c = true :=
    List.forall_mem_cons.mpr ⟨rfl, List.forall_mem_singleton.mpr rfl⟩
  simp [assignment?, hsplit, stripEnds_quoted _ hkeyEnd, stripEnds_quoted _ hvalueEnd]

/-- The code of the line of an entry has its one separator between key and value. -/
theorem assignment?_entryText
    {key value : String}
    (number : Nat)
    (hkey : IsWritable key)
    (hvalue : IsWritable value) :
    assignment? number (entryText key value).toList = some ⟨key, number, value⟩ := by
  rw [assignment?_entryText_of_no_separator number hkey.no_separator hvalue.no_separator,
    hkey.stripEnds_eq, hvalue.stripEnds_eq, String.ofList_toList, String.ofList_toList]

/-- Where neither key nor value holds a line comment, the whole line of an entry is code. -/
theorem codeOf_entryText
    {key value : String}
    (hkey : ¬ lineMarker <:+: key.toList)
    (hvalue : ¬ lineMarker <:+: value.toList) :
    codeOf (entryText key value).toList = (entryText key value).toList := by
  have hcomment : breakOn? lineMarker (entryText key value).toList = none := by
    have hseparator : ¬ lineMarker <:+: separator ∧ ¬ lineMarker <:+: [terminator] := by decide
    rw [breakOn?_eq_none_iff (by decide), infix_entryText_iff key value (by decide) (by decide)]
    simp [hkey, hvalue, hseparator]
  rw [codeOf, hcomment]

/-- The line of writable texts is read as their entry. -/
theorem readLine_entryText
    {key value : String}
    (number : Nat)
    (hkey : IsWritable key)
    (hvalue : IsWritable value) :
    readLine ⟨number, entryText key value⟩ = .assignment ⟨key, number, value⟩ := by
  rw [readLine_eq_assignment_iff, trim_entryText,
    codeOf_entryText hkey.no_lineMarker hvalue.no_lineMarker]
  exact ⟨isInert_entryText key value, getLast?_entryText key value,
    assignment?_entryText number hkey hvalue⟩

end StringsFile
end StringsAudit
