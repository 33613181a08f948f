import Mathlib.Order.Monotone.Basic
import StringsAudit.Proofs.Comment.Stripping
import StringsAudit.Proofs.Line.Content
import StringsAudit.Proofs.Line.Number

/-!
# Blank lines and line comments among other lines

Stripping passes over blank lines and lines that start with `//`, inside of a block comment as well
as outside, whatever else stands on them. So when such lines are inserted into a content, the other
lines are kept or dropped as before and raise the same warnings; only their numbers change.

Two contents are compared by their lines with code: which of these there are, and in which order,
is not changed by the insertion.

## Main definitions

* `IsInsertion` : texts among which blank lines and line comments were inserted.
* `AreLines` : texts that can be joined to a content without a change to the code on them.
* `codeLines` : the lines that stripping does not pass over.
* `Stripped.renumber` : what is left of a content, with other numbers for the lines.

## Main results

* `stripFrom_codeLines` : lines that are passed over take no part in stripping.
* `AreLines.codeLines_ofContent` : the lines with code of joined texts.
* `codeLines_ofTexts_of_isInsertion` : inserted lines only move those with code.
* `stripContent_of_isInsertion` : inserted lines change nothing but numbers.
* `IsInsertion.insert` : lines can be inserted one after the other.
-/

namespace StringsAudit

/-- Texts as numbered lines. -/
def Line.ofTexts (texts : List String) : List Line :=
  numberFrom 1 (texts.map String.toList)

/-- A line with its number changed. -/
def Line.renumber (line : Line) (number : Nat → Nat) : Line :=
  { line with number := number line.number }

@[simp] theorem Line.text_renumber
    (line : Line)
    (number : Nat → Nat) :
    (line.renumber number).text = line.text := by
  rfl

@[simp] theorem Line.number_renumber
    (line : Line)
    (number : Nat → Nat) :
    (line.renumber number).number = number line.number := by
  rfl

namespace Comment

open Text

/-- A warning with the number of its line changed. -/
def Warning.renumber (warning : Warning) (number : Nat → Nat) : Warning :=
  { warning with line := number warning.line }

/-- What is left of a content, with the numbers of the lines changed. -/
def Stripped.renumber (stripped : Stripped) (number : Nat → Nat) : Stripped :=
  ⟨stripped.lines.map (·.renumber number), stripped.warnings.map (·.renumber number)⟩

/-- The text of one line that is blank or starts with the marker of a line comment. -/
structure IsPassedOver (text : String) : Prop where
  one_line : '\n' ∉ text.toList
  inert : trim text.toList = [] ∨ lineMarker <+: trim text.toList

/--
The texts `extended` come from `original` by inserting blank lines and line comments, where `place`
is the new index of each text.
-/
structure IsInsertion (place : Nat → Nat) (original extended : List String) : Prop where
  increasing : StrictMono place
  kept : ∀ index, extended[place index]? = original[index]?
  inserted : ∀ index text,
    extended[index]? = some text → (∃ old, place old = index) ∨ IsPassedOver text

/--
Texts that can be joined to a content without a change to the code on them: none holds a line feed,
none ends in a carriage return unless it is passed over, and the first does not start with a
byte-order mark.
-/
structure AreLines (texts : List String) : Prop where
  one_line : ∀ text ∈ texts, '\n' ∉ text.toList
  no_return : ∀ text ∈ texts, text.toList.getLast? = some '\r' → isInert text.toList = true
  no_mark : ∀ text ∈ texts.head?, text.toList.head? ≠ some Line.byteOrderMark

/-- The lines that stripping does not pass over. -/
def codeLines (lines : List Line) : List Line :=
  lines.filter fun line => !isInert line.text.toList

variable {place : Nat → Nat} {original extended : List String}

/-- A line that is passed over starts with a blank or a slash. -/
theorem head?_ne_of_isInert
    {c : Char}
    {text : List Char}
    (h : isInert text = true)
    (hblank : isBlank c = false)
    (hslash : c ≠ '/') :
    text.head? ≠ some c := by
  intro hhead
  have hfirst : ∀ d ∈ text.head?, isBlank d = false := by
    rw [hhead]
    exact fun d hd => Option.some.inj hd ▸ hblank
  rcases isInert_iff.mp h with hnil | hmarker
  · have hall := isBlank_of_trim_eq_nil hnil c (List.mem_of_mem_head? hhead)
    rw [hall] at hblank
    cases hblank
  · rw [trim, stripEnds_of_head hfirst] at hmarker
    obtain ⟨rest, hrest⟩ := hmarker.trans (stripEnd_isPrefix isBlank text)
    rw [← hrest] at hhead
    exact hslash (Option.some.inj hhead).symm

/-! ### Stripping -/

theorem codeLines_cons
    (line : Line)
    (rest : List Line) :
    codeLines (line :: rest) =
      if isInert line.text.toList then codeLines rest else line :: codeLines rest := by
  rw [codeLines, List.filter_cons, codeLines]
  cases isInert line.text.toList <;> rfl

/-- Lines that are passed over take no part in stripping. -/
theorem stripFrom_codeLines
    (limit : Depth)
    (depth : Nat)
    (lines : List Line) :
    stripFrom limit depth (codeLines lines) = stripFrom limit depth lines := by
  induction lines generalizing depth with
  | nil => rfl
  | cons line rest ih =>
      rw [codeLines_cons]
      split
      next hinert => rw [ih, stripFrom_cons_of_isInert rest hinert]
      next hcode =>
        rw [Bool.not_eq_true] at hcode
        rw [stripFrom_cons _ hcode, stripFrom_cons _ hcode]
        simp only [ih]

/-- Numbers take no part in stripping. -/
theorem stripFrom_map_renumber
    (number : Nat → Nat)
    (limit : Depth)
    (depth : Nat)
    (lines : List Line) :
    stripFrom limit depth (lines.map (·.renumber number)) =
      (stripFrom limit depth lines).renumber number := by
  induction lines generalizing depth with
  | nil => rfl
  | cons line rest ih =>
      rw [List.map_cons]
      by_cases hinert : isInert line.text.toList = true
      · rw [stripFrom_cons_of_isInert rest hinert, ← ih]
        exact stripFrom_cons_of_isInert _ hinert
      · rw [Bool.not_eq_true] at hinert
        have hrenumbered : isInert (line.renumber number).text.toList = false := hinert
        rw [stripFrom_cons _ hinert, stripFrom_cons _ hrenumbered]
        simp only [Line.text_renumber, Line.number_renumber, ih, Stripped.renumber,
          List.map_append, List.map_replicate]
        split <;> rfl

/-! ### Joined texts -/

/-- The lines with code of a content are the texts with code that it was joined from. -/
theorem codeLines_texts_intercalate
    {list : List (List Char)}
    (first : Nat)
    (hlineFeed : ∀ text ∈ list, '\n' ∉ text)
    (hreturn : ∀ text ∈ list, text.getLast? = some '\r' → isInert text = true) :
    codeLines (Line.numberFrom first (Line.texts (['\n'].intercalate list))) =
      codeLines (Line.numberFrom first list) := by
  induction list generalizing first with
  | nil => rfl
  | cons text rest ih =>
      obtain ⟨hone, hrestOne⟩ := List.forall_mem_cons.mp hlineFeed
      obtain ⟨hend, hrestEnd⟩ := List.forall_mem_cons.mp hreturn
      cases rest with
      | nil =>
          rw [List.intercalate_singleton]
          -- an empty text at the end is no line, and would be passed over as one
          by_cases hempty : text = []
          · rw [hempty]
            rfl
          · rw [Line.texts_of_not_mem hone hempty]
      | cons next rest =>
          have hbehind := ih (first + 1) hrestOne hrestEnd
          rw [List.intercalate_cons_cons, List.append_assoc, List.singleton_append,
            Line.texts_line_append _ hone, Line.numberFrom, Line.numberFrom, codeLines_cons,
            codeLines_cons, hbehind, String.toList_ofList, String.toList_ofList]
          -- a carriage return is dropped from a text that is passed over only
          by_cases hinert : isInert text = true
          · have htrim := (Line.readAs_finish_reverse text).trim_eq
            rw [isInert_of_trim_eq htrim, if_pos hinert, if_pos hinert]
          · rw [Line.finish_reverse_of_getLast? fun hlast => hinert (hend hlast)]

theorem AreLines.codeLines_ofContent
    {texts : List String}
    (h : AreLines texts) :
    codeLines (Line.ofContent ("\n".intercalate texts)) = codeLines (Line.ofTexts texts) := by
  have hjoined :
      ("\n".intercalate texts).toList = ['\n'].intercalate (texts.map String.toList) := by
    simp
  have hmark : ∀ text ∈ (texts.map String.toList).head?, text.head? ≠ some Line.byteOrderMark := by
    rw [List.head?_map]
    intro text htext
    obtain ⟨own, hown, rfl⟩ := Option.map_eq_some_iff.mp htext
    exact h.no_mark own hown
  rw [Line.ofContent, hjoined, Line.dropByteOrderMark_intercalate hmark, Line.ofTexts]
  exact codeLines_texts_intercalate 1 (List.forall_mem_map.mpr h.one_line)
    (List.forall_mem_map.mpr h.no_return)

/-! ### Inserted lines -/

/-- The lines with code are the texts with code, each at its number. -/
theorem mem_codeLines_iff
    {texts : List String}
    {line : Line} :
    line ∈ codeLines (Line.ofTexts texts) ↔
      1 ≤ line.number ∧ texts[line.number - 1]? = some line.text ∧
        isInert line.text.toList = false := by
  rw [codeLines, List.mem_filter, Line.ofTexts, Line.mem_numberFrom_iff, List.getElem?_map,
    Bool.not_eq_true', and_assoc]
  simp [String.toList_inj]

theorem pairwise_number_codeLines
    (texts : List String) :
    (codeLines (Line.ofTexts texts)).Pairwise fun line other => line.number < other.number :=
  (Line.pairwise_number_numberFrom 1 _).filter _

theorem IsInsertion.mem_cases
    (h : IsInsertion place original extended)
    {text : String}
    (htext : text ∈ extended) :
    text ∈ original ∨ IsPassedOver text := by
  obtain ⟨index, hindex⟩ := List.getElem?_of_mem htext
  refine (h.inserted index text hindex).imp_left fun ⟨old, hold⟩ => ?_
  rw [← hold, h.kept] at hindex
  exact List.mem_of_getElem? hindex

/-- The first text is the first of the original ones, or it was inserted. -/
theorem IsInsertion.head?_cases
    (h : IsInsertion place original extended)
    {text : String}
    (htext : text ∈ extended.head?) :
    text ∈ original.head? ∨ IsPassedOver text := by
  rw [List.head?_eq_getElem?, Option.mem_def] at htext ⊢
  refine (h.inserted 0 text htext).imp_left fun ⟨old, hold⟩ => ?_
  obtain rfl : old = 0 := by
    by_contra hne
    have hlt := h.increasing (Nat.pos_of_ne_zero hne)
    omega
  rwa [← h.kept, hold]

/-- Inserted lines leave texts to be lines. -/
theorem IsInsertion.areLines
    (h : IsInsertion place original extended)
    (horiginal : AreLines original) :
    AreLines extended where
  one_line text htext := (h.mem_cases htext).elim (horiginal.one_line text) (·.one_line)
  no_return text htext hreturn := by
    rcases h.mem_cases htext with hold | hinserted
    · exact horiginal.no_return text hold hreturn
    · exact isInert_iff.mpr hinserted.inert
  no_mark text htext := by
    rcases h.head?_cases htext with hold | hinserted
    · exact horiginal.no_mark text hold
    · exact head?_ne_of_isInert (isInert_iff.mpr hinserted.inert) (by decide) (by decide)

/-- Inserted lines only move those with code. -/
theorem codeLines_ofTexts_of_isInsertion
    (h : IsInsertion place original extended) :
    codeLines (Line.ofTexts extended) =
      (codeLines (Line.ofTexts original)).map
        (·.renumber fun number => place (number - 1) + 1) := by
  refine Line.eq_of_mem_iff (pairwise_number_codeLines extended) ?_ fun line => ?_
  · refine List.pairwise_map.mpr ((pairwise_number_codeLines original).imp_of_mem ?_)
    intro line other hline _ hlt
    have hfirst := (mem_codeLines_iff.mp hline).1
    exact Nat.succ_lt_succ (h.increasing (by omega))
  · rw [mem_codeLines_iff, List.mem_map]
    constructor
    · rintro ⟨hnumber, htext, hcode⟩
      rcases h.inserted _ _ htext with ⟨old, hold⟩ | hinserted
      · rw [← hold, h.kept] at htext
        have hmoved : place old + 1 = line.number := by
          rw [hold, Nat.sub_add_cancel hnumber]
        refine ⟨⟨old + 1, line.text⟩, ?_, ?_⟩
        · exact mem_codeLines_iff.mpr ⟨Nat.le_add_left 1 old, htext, hcode⟩
        · rw [Line.renumber, Nat.add_sub_cancel, hmoved]
      · rw [isInert_iff.mpr hinserted.inert] at hcode
        cases hcode
    · rintro ⟨old, hold, rfl⟩
      obtain ⟨-, htext, hcode⟩ := mem_codeLines_iff.mp hold
      refine ⟨Nat.le_add_left 1 _, ?_, hcode⟩
      rw [Line.renumber, Nat.add_sub_cancel, h.kept, htext]

/-- Inserted blank lines and line comments change nothing but the numbers of lines. -/
theorem stripContent_of_isInsertion
    (h : IsInsertion place original extended)
    (horiginal : AreLines original)
    (limit : Depth) :
    stripContent limit ("\n".intercalate extended) =
      (stripContent limit ("\n".intercalate original)).renumber fun number =>
        place (number - 1) + 1 := by
  have hextended := h.areLines horiginal
  rw [stripContent, strip, ← stripFrom_codeLines, hextended.codeLines_ofContent,
    codeLines_ofTexts_of_isInsertion h, stripFrom_map_renumber, ← horiginal.codeLines_ofContent,
    stripFrom_codeLines, stripContent, strip]

/-! ### One line after the other -/

theorem IsInsertion.refl
    (texts : List String) :
    IsInsertion id texts texts :=
  ⟨strictMono_id, fun _ => rfl, fun index _ _ => .inl ⟨index, rfl⟩⟩

/-- One more line is inserted, which moves the texts behind it. -/
theorem IsInsertion.insert
    (before after : List String)
    {text : String}
    (h : IsInsertion place original (before ++ after))
    (htext : IsPassedOver text) :
    IsInsertion
      (fun index => if place index < before.length then place index else place index + 1)
      original (before ++ text :: after) := by
  refine ⟨fun index other hlt => ?_, fun index => ?_, fun index own hown => ?_⟩
  · have hplaces := h.increasing hlt
    split <;> split <;> omega
  · rw [← h.kept]
    split
    next hbefore => rw [List.getElem?_append_left hbefore, List.getElem?_append_left hbefore]
    next hbehind =>
      have hle : before.length ≤ place index := Nat.le_of_not_lt hbehind
      rw [List.getElem?_append_right (Nat.le_succ_of_le hle), List.getElem?_append_right hle,
        Nat.succ_sub hle, List.getElem?_cons_succ]
  · rcases Nat.lt_trichotomy index before.length with hbefore | hat | hbehind
    · rw [List.getElem?_append_left hbefore, ← List.getElem?_append_left hbefore] at hown
      refine (h.inserted index own hown).imp_left fun ⟨old, hold⟩ => ⟨old, ?_⟩
      rw [hold, if_pos hbefore]
    · rw [hat, List.getElem?_append_right (Nat.le_refl _), Nat.sub_self,
        List.getElem?_cons_zero] at hown
      exact .inr (Option.some.inj hown ▸ htext)
    · obtain ⟨earlier, rfl⟩ := Nat.exists_eq_succ_of_ne_zero (Nat.ne_zero_of_lt hbehind)
      have hle : before.length ≤ earlier := Nat.le_of_lt_succ hbehind
      rw [List.getElem?_append_right (Nat.le_of_lt hbehind), Nat.succ_sub hle,
        List.getElem?_cons_succ, ← List.getElem?_append_right hle] at hown
      refine (h.inserted earlier own hown).imp_left fun ⟨old, hold⟩ => ⟨old, ?_⟩
      rw [hold, if_neg (Nat.not_lt_of_le hle)]

end Comment
end StringsAudit
