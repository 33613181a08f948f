import StringsAudit.Proofs.StringsFile.LineCounts
import StringsAudit.Proofs.Text.Pieces

/-!
# Whether an entry is read as it was written

Whatever the line, what is read of it as a key or as a value stands in front of the first line
comment and has lost the terminators at its ends. So only texts without line comments and without
outer terminators can be read back; and these are read back from every line on which the entry is
written with its separator as it should be.

## Main definitions

* `IsLegible` : a text without line comments and outer terminators.
* `paddedLine` : the line of an entry with blanks around it.

## Main results

* `isLegible_of_readLine_eq` : only legible texts are read.
* `assignments_paddedLine` : an entry is read as it was written exactly if its texts are legible.
-/

namespace StringsAudit
namespace StringsFile

open Text Comment

/-- A text without line comments that neither starts nor ends with the terminator. -/
structure IsLegible (text : String) : Prop where
  no_lineMarker : ¬ lineMarker <:+: text.toList
  head_stays : text.toList.head? ≠ some terminator
  last_stays : text.toList.getLast? ≠ some terminator

instance (text : String) : Decidable (IsLegible text) :=
  decidable_of_iff
    (¬ lineMarker <:+: text.toList ∧ text.toList.head? ≠ some terminator ∧
      text.toList.getLast? ≠ some terminator)
    ⟨fun ⟨h₁, h₂, h₃⟩ => ⟨h₁, h₂, h₃⟩, fun ⟨h₁, h₂, h₃⟩ => ⟨h₁, h₂, h₃⟩⟩

/-- The line of an entry with blanks around it. -/
def paddedLine (number : Nat) (before key value after : String) : Line :=
  ⟨number, before ++ entryText key value ++ after⟩

/-! ### What is read of a line -/

/-- The code of a line ends where its first line comment starts. -/
theorem not_lineMarker_infix_codeOf
    (trimmed : List Char) :
    ¬ lineMarker <:+: codeOf trimmed := by
  have hne : lineMarker ≠ [] := by decide
  rw [codeOf]
  split
  next before after hfound =>
    exact fun hwithin =>
      not_infix_of_breakOn?_eq_some hne hfound (hwithin.trans (stripEnds_infix_self isBlank before))
  next hnone => exact (breakOn?_eq_none_iff hne).mp hnone

theorem isLegible_stripEnds
    {text code : List Char}
    (htext : text <:+: code)
    (hcode : ¬ lineMarker <:+: code) :
    IsLegible (String.ofList (stripEnds isDelimiter text)) where
  no_lineMarker := by
    rw [String.toList_ofList]
    exact fun hwithin => hcode ((hwithin.trans (stripEnds_infix_self isDelimiter text)).trans htext)
  head_stays hc := by
    rw [String.toList_ofList] at hc
    exact absurd (head?_stripEnds isDelimiter text _ hc) (by decide)
  last_stays hc := by
    rw [String.toList_ofList] at hc
    exact absurd (getLast?_stripEnds isDelimiter text _ hc) (by decide)

/-- Only legible texts are read. -/
theorem isLegible_of_readLine_eq
    {line : Line}
    {assignment : Assignment}
    (h : readLine line = .assignment assignment) :
    IsLegible assignment.key ∧ IsLegible assignment.entry.value := by
  obtain ⟨-, -, hassignment⟩ := readLine_eq_assignment_iff.mp h
  have hcode := not_lineMarker_infix_codeOf (trim line.text.toList)
  have hjoined :
      separator.intercalate (splitOn separator (codeOf (trim line.text.toList))) =
        codeOf (trim line.text.toList) :=
    intercalate_splitOn _ (by decide)
  rw [assignment?] at hassignment
  split at hassignment
  next key value hpieces =>
    rw [hpieces, List.intercalate_cons_cons, List.intercalate_singleton] at hjoined
    rw [← Option.some.inj hassignment]
    refine ⟨isLegible_stripEnds ?_ hcode, isLegible_stripEnds ?_ hcode⟩
    · exact ⟨[], separator ++ value, by simpa using hjoined⟩
    · exact ⟨key ++ separator, [], by simpa using hjoined⟩
  next => cases hassignment

/-! ### The line of an entry -/

section Padded

variable {before key value after : String}

theorem trim_paddedLine
    (number : Nat)
    (key value : String)
    (hbefore : ∀ c ∈ before.toList, isBlank c = true)
    (hafter : ∀ c ∈ after.toList, isBlank c = true) :
    trim (paddedLine number before key value after).text.toList = (entryText key value).toList := by
  rw [paddedLine, String.toList_append, String.toList_append, trim,
    stripEnds_append_of_forall _ hafter, stripEnds_forall_append _ hbefore]
  exact trim_entryText key value

theorem isInert_paddedLine
    (number : Nat)
    (key value : String)
    (hbefore : ∀ c ∈ before.toList, isBlank c = true)
    (hafter : ∀ c ∈ after.toList, isBlank c = true) :
    isInert (paddedLine number before key value after).text.toList = false := by
  have htrim := trim_paddedLine number key value hbefore hafter
  rw [← trim_entryText] at htrim
  rw [isInert_of_trim_eq htrim, isInert_entryText]

/-- With one more separator, a line has too many pieces to be an assignment. -/
theorem assignment?_entryText_of_separator
    (number : Nat)
    (h : separator <:+: key.toList ∨ separator <:+: value.toList) :
    assignment? number (entryText key value).toList = none := by
  have hquote : '"' ∉ separator := by decide
  have hne : separator ≠ [] := by decide
  have hpieces : 2 < (splitOn separator (entryText key value).toList).length := by
    have hbetween : occurrencesFrom separator 0 separator = 1 := by decide
    have hmore : occurrencesFrom separator 0 key.toList ≠ 0 ∨
        occurrencesFrom separator 0 value.toList ≠ 0 := by
      rwa [ne_eq, ne_eq, occurrencesFrom_eq_zero_iff hne, occurrencesFrom_eq_zero_iff hne,
        not_not, not_not]
    rw [length_splitOn, toList_entryText, ← List.nil_append ('"' :: _),
      occurrencesFrom_append_cons _ _ hquote hne, occurrencesFrom_append_cons _ _ hquote hne,
      occurrencesFrom_append_cons _ _ hquote hne, occurrencesFrom_append_cons _ _ hquote hne,
      hbetween]
    omega
  rw [assignment?]
  split
  next heq =>
    rw [heq] at hpieces
    exact absurd hpieces (Nat.lt_irrefl 2)
  next => rfl

theorem IsLegible.stripEnds_eq
    {text : String}
    (h : IsLegible text)
    (hquote : '"' ∉ text.toList) :
    stripEnds isDelimiter text.toList = text.toList := by
  have hstays (c : Char) (hc : c ∈ text.toList) (hterminator : c ≠ terminator) :
      isDelimiter c = false := by
    have hne : c ≠ '"' := fun heq => hquote (heq ▸ hc)
    simpa [isDelimiter, terminator] using ⟨hterminator, hne⟩
  refine stripEnds_eq_self (fun c hc => ?_) fun c hc => ?_
  · exact hstays c (List.mem_of_mem_head? hc) fun heq => h.head_stays (heq ▸ hc)
  · exact hstays c (List.mem_of_getLast? hc) fun heq => h.last_stays (heq ▸ hc)

/-- Of the line of an entry with legible texts, its texts are read, unless they hold a separator. -/
theorem assignments_paddedLine_of_isLegible
    (number : Nat)
    (hbefore : ∀ c ∈ before.toList, isBlank c = true)
    (hafter : ∀ c ∈ after.toList, isBlank c = true)
    (hkeyQuote : '"' ∉ key.toList)
    (hvalueQuote : '"' ∉ value.toList)
    (hkey : IsLegible key)
    (hvalue : IsLegible value) :
    assignments [paddedLine number before key value after] =
      if separator <:+: key.toList ∨ separator <:+: value.toList then []
      else [⟨key, number, value⟩] := by
  have htrim := trim_paddedLine number key value hbefore hafter
  have hcode := codeOf_entryText hkey.no_lineMarker hvalue.no_lineMarker
  split
  next hmore =>
    have hnone := assignment?_entryText_of_separator number hmore
    rcases assignments_singleton_cases (paddedLine number before key value after) with
      ⟨assignment, heq⟩ | heq
    · obtain ⟨-, -, hassignment⟩ :=
        readLine_eq_assignment_iff.mp (assignments_singleton_eq_iff.mp heq)
      rw [htrim, hcode, paddedLine, hnone] at hassignment
      cases hassignment
    · exact heq
  next hone =>
    rw [not_or] at hone
    have hassignment := assignment?_entryText_of_no_separator number hone.1 hone.2
    rw [hkey.stripEnds_eq hkeyQuote, hvalue.stripEnds_eq hvalueQuote, String.ofList_toList,
      String.ofList_toList] at hassignment
    rw [assignments_singleton_eq_iff, readLine_eq_assignment_iff, htrim, hcode]
    exact ⟨isInert_paddedLine number key value hbefore hafter, getLast?_entryText key value,
      hassignment⟩

end Padded

/--
What is read of the line of an entry, with blanks around it: where anything is read, it is the key
and the value between the quotes exactly if neither holds a line comment or starts or ends with the
terminator. And then it is read unless one of them holds another separator.
-/
theorem assignments_paddedLine
    (number : Nat)
    (before key value after : String)
    (hbefore : ∀ c ∈ before.toList, isBlank c = true)
    (hafter : ∀ c ∈ after.toList, isBlank c = true)
    (hkeyQuote : '"' ∉ key.toList)
    (hvalueQuote : '"' ∉ value.toList) :
    let line := paddedLine number before key value after
    (∀ assignment, assignments [line] = [assignment] →
      (assignment.key = key ∧ assignment.entry = ⟨number, value⟩ ↔
        IsLegible key ∧ IsLegible value)) ∧
    (IsLegible key ∧ IsLegible value →
      (assignments [line] = [⟨key, number, value⟩] ↔
        ¬ separator <:+: key.toList ∧ ¬ separator <:+: value.toList)) := by
  intro line
  have hread (hlegible : IsLegible key ∧ IsLegible value) : assignments [line] = _ :=
    assignments_paddedLine_of_isLegible number hbefore hafter hkeyQuote hvalueQuote
      hlegible.1 hlegible.2
  refine ⟨fun assignment hassignment => ⟨?_, fun hlegible => ?_⟩, fun hlegible => ?_⟩
  · rintro ⟨rfl, hentry⟩
    have hvalues := isLegible_of_readLine_eq (assignments_singleton_eq_iff.mp hassignment)
    rwa [hentry] at hvalues
  · rw [hread hlegible] at hassignment
    split at hassignment
    next => cases hassignment
    next =>
      rw [← List.singleton_inj.mp hassignment]
      exact ⟨rfl, rfl⟩
  · rw [hread hlegible, ← not_or]
    split
    next hmore => simp [hmore]
    next hone => simp [hone]

/-- Terminators and other signs of the syntax inside of the quotes are no obstacle. -/
theorem assignments_of_padded_greeting :
    assignments [paddedLine 3 "\t " "hi; there" "a /* b;=c" " "] =
      [⟨"hi; there", 3, "a /* b;=c"⟩] := by
  have hread := assignments_paddedLine 3 "\t " "hi; there" "a /* b;=c" " "
    (List.all_eq_true.mp (by decide)) (List.all_eq_true.mp (by decide)) (by decide) (by decide)
  exact (hread.2 (by decide)).mpr (by decide)

/--
A terminator at the end of a key is taken for the end of an entry, and slashes in it for a comment
behind one. The separator has one space on each side: one more, or one before the terminator, is
read as a part of the key or of the value, with a quote.
-/
theorem assignments_of_illegible_texts :
    assignments [⟨1, "\";a\" = \"b\";"⟩] = [⟨"a", 1, "b"⟩] ∧
      assignments [⟨1, "\"see = x; // y\" = \"v\";"⟩] = [⟨"see", 1, "x"⟩] ∧
      assignments [⟨1, "\"a\"  = \"b\";"⟩] = [⟨"a\" ", 1, "b"⟩] ∧
      assignments [⟨1, "\"a\" =  \"b\";"⟩] = [⟨"a", 1, " \"b"⟩] ∧
      assignments [⟨1, "\"a\" = \"b\" ;"⟩] = [⟨"a", 1, "b\" "⟩] := by
  decide

end StringsFile
end StringsAudit
