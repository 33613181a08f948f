import StringsAudit.Proofs.Comment.LineInContent
import StringsAudit.Proofs.UsagePattern.Standard
import StringsAudit.Proofs.UsedKeys
import StringsAudit.SourceFile

/-!
# Line comments behind code

A line that is kept is searched to its end, so a line comment behind code is searched as well; and
its block comment markers count for the lines behind. So the comment changes no use of a key exactly
if its markers leave the depth as it is, and, where the line is outside of comments, no reference
appears or disappears with it.

## Main definitions

* `IsTransparent` : a comment behind code changes neither which keys are used nor where.
* `placesAround` : the places of a key in a content in which one line has references of its own.

## Main results

* `placesIn_uses_append_append` : a line gives its own references and the depth behind it.
* `placesAround_eq_iff` : what is used tells lines with other references or depths apart.
* `isTransparent_behind_code_iff` : when a comment behind code changes no use of a key.
-/

namespace StringsAudit
namespace SourceFile

open Text Comment UsagePattern UsedKeys

/-- A comment behind code changes neither which keys are used nor where, whatever follows. -/
def IsTransparent
    (limit : Depth)
    (pattern : UsagePattern)
    (before file text comment : String) : Prop :=
  ∀ after : String, Line.EndsLine after.toList →
    SamePlaces (parse (before ++ withLineComment text comment ++ after) file pattern limit).usedKeys
      (parse (before ++ text ++ after) file pattern limit).usedKeys

/-- The places of a key among references on one line of a file. -/
def placesOf
    (file : String)
    (number : Nat)
    (found : List (Nat × List Char))
    (key : String) : List Location :=
  (found.filter fun reference => String.ofList reference.2 == key).map fun reference =>
    ⟨file, number, reference.1 + 1⟩

/-- The references that count on a line that starts inside `depth` open comments. -/
def ownReferences (limit : Depth) (depth : Nat) (line : Line) : List (Nat × List Char) :=
  if depth = 0 ∧ IsPlain limit line then references 0 line.text.toList else []

/-- The places of a key in a content in which one line has some references of its own. -/
def placesAround
    (limit : Depth)
    (before file after : String)
    (own : List (Nat × List Char))
    (depth : Nat)
    (key : String) : List Location :=
  placesIn (uses standardPattern file (stripContent limit before).lines) key
    ++ (placesOf file ((Line.ofContent before).length + 1) own key
      ++ placesIn
        (uses standardPattern file (stripFrom limit depth (Line.linesBehind before after)).lines)
        key)

/-- A text as the line behind a content. -/
def lineBehind (before text : String) : Line :=
  ⟨(Line.ofContent before).length + 1, text⟩

variable {limit : Depth} {before text comment : String} {depth number : Nat} {key : String}

@[simp] theorem text_lineBehind
    (before text : String) :
    (lineBehind before text).text = text := by
  rfl

/-! ### The places on one line -/

theorem placesIn_usesOn
    (file : String)
    (line : Line)
    (key : String) :
    placesIn (standardPattern.usesOn file line) key =
      placesOf file line.number (references 0 line.text.toList) key := by
  rw [usesOn_standard, placesIn, List.filter_map, List.map_map]
  rfl

theorem placesOf_append
    (first second : List (Nat × List Char)) :
    placesOf file number (first ++ second) key =
      placesOf file number first key ++ placesOf file number second key := by
  rw [placesOf, List.filter_append, List.map_append, placesOf, placesOf]

theorem forall_placesOf_eq_nil_iff
    {found : List (Nat × List Char)} :
    (∀ key, placesOf file number found key = []) ↔ found = [] := by
  constructor
  · intro h
    cases found with
    | nil => rfl
    | cons reference rest => simpa [placesOf] using h (String.ofList reference.2)
  · rintro rfl key
    rfl

theorem isForeign_space : IsForeign ' ' := ⟨by decide, by decide⟩

theorem isForeign_return : IsForeign '\r' := ⟨by decide, by decide⟩

theorem references_of_readAs
    {text read : List Char}
    (h : Line.ReadAs text read) :
    references 0 read = references 0 text := by
  rcases h with rfl | rfl
  · rfl
  · rw [references_append_cons 0 read [] isForeign_return]
    exact (List.append_nil _).symm

theorem references_withLineComment
    (text comment : String) :
    references 0 (withLineComment text comment).toList =
      references 0 text.toList ++ references (text.toList.length + 4) comment.toList := by
  have hslashes (position : Nat) : references position lineMarker = [] := by
    rfl
  rw [toList_withLineComment, references_append_cons 0 _ _ isForeign_space,
    references_append_cons _ _ _ isForeign_space, hslashes, Nat.zero_add]
  rfl

theorem references_of_blank
    {text : List Char}
    (position : Nat)
    (hblank : ∀ c ∈ text, isBlank c = true) :
    references position text = [] := by
  induction text generalizing position with
  | nil => rfl
  | cons c rest ih =>
      have hnone : keyAt? (c :: rest) = none := by
        refine keyAt?_of_head? fun hquote => ?_
        have hc := hblank c List.mem_cons_self
        rw [Option.some.inj hquote] at hc
        exact absurd hc (by decide)
      rw [references, hnone]
      exact ih (position + 1) fun d hd => hblank d (List.mem_cons_of_mem c hd)

/-! ### One line of code in a content -/

theorem uses_append
    (pattern : UsagePattern)
    (file : String)
    (first second : List Line) :
    uses pattern file (first ++ second) = uses pattern file first ++ uses pattern file second :=
  List.flatMap_append

/-- A line of a content gives its own references and the depth behind it. -/
theorem placesIn_uses_append_append
    {after : String}
    (file key : String)
    (hbefore : Line.StartsLine before.toList)
    (hdepth : depthAfter limit 0 (Line.ofContent before) = depth)
    (hmark : before = "" → text.toList.head? ≠ some Line.byteOrderMark)
    (hlineFeed : '\n' ∉ text.toList)
    (hafter : Line.EndsLine after.toList) :
    placesIn (uses standardPattern file (stripContent limit (before ++ text ++ after)).lines) key =
      placesAround limit before file after
        (ownReferences limit depth (lineBehind before text))
        (depthStep limit depth (lineBehind before text)) key := by
  obtain ⟨read, hread, hlines⟩ := lines_stripContent_append_append hbefore hlineFeed hmark hafter
  rw [hlines, hdepth, placesAround]
  simp only [uses_append, placesIn_append]
  by_cases hkept : depth = 0 ∧ IsPlain limit ⟨(Line.ofContent before).length + 1, text⟩
  · have hown : ownReferences limit depth (lineBehind before text) = references 0 text.toList :=
      if_pos hkept
    rw [if_pos hkept, hown]
    simp only [uses, List.flatMap_singleton, placesIn_usesOn, references_of_readAs hread]
    rfl
  · have hown : ownReferences limit depth (lineBehind before text) = [] := if_neg hkept
    rw [if_neg hkept, hown]
    rfl

def probeText : List Char :=
  "\"k\".localized".toList

/-- Where as many comments are closed as are open, the line behind shows its use of a key. -/
theorem placesIn_behind_closers
    (limit : Depth)
    (before file : String)
    (depth closers : Nat) :
    placesIn
        (uses standardPattern file
          (stripFrom limit depth (Line.linesBehind before
            (Line.continuation (List.replicate closers closingText ++ [probeText])))).lines) "k" =
      if depth ≤ closers then [⟨file, (Line.ofContent before).length + 2 + closers, 2⟩]
      else [] := by
  have hlist : ∀ text ∈ List.replicate closers closingText ++ [probeText],
      '\n' ∉ text ∧ text.getLast? ≠ some '\r' ∧ text ≠ [] := by
    intro text htext
    rcases List.mem_append.mp htext with hcloser | hprobe
    · rw [List.eq_of_mem_replicate hcloser]
      decide
    · rw [List.mem_singleton.mp hprobe]
      decide
  have hplain (number : Nat) : IsPlain limit ⟨number, String.ofList probeText⟩ :=
    isPlain_of_markers_eq_nil limit (show isInert probeText = false by decide)
      (show markers (trim probeText) = [] by decide)
  have hprobe : references 0 probeText = [(1, ['k'])] := by decide
  rw [Line.linesBehind_continuation before (fun text htext => (hlist text htext).1)
      (fun text htext => (hlist text htext).2.1) (fun text htext => (hlist text htext).2.2),
    Line.numberFrom_append, lines_stripFrom_closers_append, List.length_replicate, Line.numberFrom,
    Line.numberFrom, stripFrom_cons_eq, stripFrom_nil, List.append_nil]
  by_cases hclosed : depth ≤ closers
  · rw [if_pos hclosed, if_pos ⟨Nat.sub_eq_zero_of_le hclosed, hplain _⟩, uses,
      List.flatMap_singleton, placesIn_usesOn, String.toList_ofList, hprobe]
    rfl
  · rw [if_neg hclosed, if_neg fun hkept => hclosed (Nat.sub_eq_zero_iff_le.mp hkept.1)]
    rfl

/-- What is used tells lines with other references or depths apart. -/
theorem placesAround_eq_iff
    (limit : Depth)
    (before file : String)
    (firstOwn secondOwn : List (Nat × List Char))
    (firstDepth secondDepth : Nat) :
    (∀ after : String, Line.EndsLine after.toList → ∀ key,
      placesAround limit before file after firstOwn firstDepth key =
        placesAround limit before file after secondOwn secondDepth key) ↔
      (∀ key, placesOf file ((Line.ofContent before).length + 1) firstOwn key =
        placesOf file ((Line.ofContent before).length + 1) secondOwn key) ∧
      firstDepth = secondDepth := by
  constructor
  · intro h
    have hown (key : String) :
        placesOf file ((Line.ofContent before).length + 1) firstOwn key =
          placesOf file ((Line.ofContent before).length + 1) secondOwn key := by
      have hlast : Line.linesBehind before "" = [] := by rfl
      simpa [placesAround, hlast, uses, placesIn] using h "" (.inl rfl) key
    refine ⟨hown, ?_⟩
    -- closing lines in any number are followed by code in both contents, or in neither
    have hbehind (closers : Nat) : firstDepth ≤ closers ↔ secondDepth ≤ closers := by
      have hends :=
        Line.endsLine_continuation (List.replicate closers closingText ++ [probeText])
      have hboth := h _ hends "k"
      rw [placesAround, placesAround, hown, List.append_cancel_left_eq, List.append_cancel_left_eq,
        placesIn_behind_closers, placesIn_behind_closers] at hboth
      by_cases hfirst : firstDepth ≤ closers <;> by_cases hsecond : secondDepth ≤ closers <;>
        simp [hfirst, hsecond] at hboth ⊢
    exact Nat.le_antisymm ((hbehind secondDepth).mpr (Nat.le_refl _))
      ((hbehind firstDepth).mp (Nat.le_refl _))
  · rintro ⟨hown, rfl⟩ after - key
    rw [placesAround, placesAround, hown]

/-! ### When a comment changes no use -/

theorem isTransparent_iff_placesOf
    (file : String)
    (hbefore : Line.StartsLine before.toList)
    (hdepth : depthAfter limit 0 (Line.ofContent before) = depth)
    (hmark : before = "" → text.toList.head? ≠ some Line.byteOrderMark)
    (htext : '\n' ∉ text.toList)
    (hcomment : '\n' ∉ comment.toList) :
    IsTransparent limit standardPattern before file text comment ↔
      (∀ key,
        placesOf file ((Line.ofContent before).length + 1)
            (ownReferences limit depth (lineBehind before (withLineComment text comment))) key =
          placesOf file ((Line.ofContent before).length + 1)
            (ownReferences limit depth (lineBehind before text)) key) ∧
      depthStep limit depth (lineBehind before (withLineComment text comment)) =
        depthStep limit depth (lineBehind before text) := by
  have hcommented : '\n' ∉ (withLineComment text comment).toList := by
    rw [toList_withLineComment]
    simp [htext, hcomment, lineMarker]
  have hcommentedMark (hempty : before = "") :
      (withLineComment text comment).toList.head? ≠ some Line.byteOrderMark := by
    rw [toList_withLineComment]
    exact Line.head?_append_ne_byteOrderMark (hmark hempty) fun _ =>
      Line.head?_cons_ne_byteOrderMark _ (by decide)
  rw [← placesAround_eq_iff]
  refine forall₂_congr fun after hafter => ?_
  rw [parse, parse, samePlaces_ofList_iff]
  refine forall_congr' fun key => ?_
  rw [placesIn_uses_append_append file key hbefore hdepth hcommentedMark hcommented hafter,
    placesIn_uses_append_append file key hbefore hdepth hmark htext hafter]

theorem isInert_of_no_lineMarker
    {text : List Char}
    (hne : trim text ≠ [])
    (hslashes : ¬ lineMarker <:+: text) :
    isInert text = false := by
  refine isInert_eq_false_iff.mpr ⟨hne, fun hstart => hslashes ?_⟩
  obtain ⟨before, after, heq, -, -⟩ := exists_eq_append_stripEnds_append isBlank text
  have htrim : trim text <:+: text := ⟨before, after, heq.symm⟩
  exact hstart.isInfix.trans htrim

theorem ownReferences_of_isInert
    (limit : Depth)
    (depth : Nat)
    (before : String)
    (h : isInert text.toList = true) :
    ownReferences limit depth (lineBehind before text) = [] := by
  rw [ownReferences, if_neg fun hkept => Bool.noConfusion (h.symm.trans hkept.2.not_inert)]

theorem isTransparent_of_blank
    (file : String)
    (hbefore : Line.StartsLine before.toList)
    (hmark : before = "" → text.toList.head? ≠ some Line.byteOrderMark)
    (htext : '\n' ∉ text.toList)
    (hcomment : '\n' ∉ comment.toList)
    (hblank : trim text.toList = []) :
    IsTransparent limit standardPattern before file text comment := by
  have hinert : isInert text.toList = true := isInert_iff.mpr (.inl hblank)
  have hinertCommented := isInert_withLineComment_of_blank comment hblank
  refine (isTransparent_iff_placesOf file hbefore rfl hmark htext hcomment).mpr ⟨fun key => ?_, ?_⟩
  · rw [ownReferences_of_isInert _ _ _ hinertCommented, ownReferences_of_isInert _ _ _ hinert]
  · rw [depthStep, text_lineBehind, if_pos hinertCommented, depthStep, text_lineBehind,
      if_pos hinert]

/-- Code without markers leaves the depth as it is, and counts outside of comments. -/
theorem ownReferences_of_code
    (limit : Depth)
    (depth : Nat)
    (before : String)
    (hinert : isInert text.toList = false)
    (hmarkers : markers text.toList = []) :
    ownReferences limit depth (lineBehind before text) =
        (if depth = 0 then references 0 text.toList else []) ∧
      depthStep limit depth (lineBehind before text) = depth := by
  have hnone : markers (trim (lineBehind before text).text.toList) = [] := by
    rwa [markers_trim]
  have hplain : IsPlain limit (lineBehind before text) :=
    isPlain_of_markers_eq_nil limit hinert hnone
  constructor
  · by_cases hzero : depth = 0
    · rw [ownReferences, if_pos ⟨hzero, hplain⟩, if_pos hzero, text_lineBehind]
    · rw [ownReferences, if_neg fun hkept => hzero hkept.1, if_neg hzero]
  · rw [depthStep, hplain.not_inert, if_neg Bool.false_ne_true, scanLine_eq_run, hnone,
      LineScan.run_nil]

/-- With a comment behind it, code is scanned for the markers of the comment. -/
theorem ownReferences_withLineComment
    (limit : Depth)
    (depth : Nat)
    (before comment : String)
    (hinert : isInert text.toList = false)
    (hmarkers : markers text.toList = []) :
    let scan := LineScan.run limit ⟨depth, 0, false, 0⟩ (markers comment.toList)
    ownReferences limit depth (lineBehind before (withLineComment text comment)) =
        (if depth = 0 ∧ scan.touched = false then
          references 0 text.toList ++ references (text.toList.length + 4) comment.toList
        else []) ∧
      depthStep limit depth (lineBehind before (withLineComment text comment)) = scan.depth := by
  intro scan
  have hcode : isInert (lineBehind before (withLineComment text comment)).text.toList = false := by
    rw [text_lineBehind, toList_withLineComment]
    exact isInert_append_cons _ (by decide) hinert
  have hscan : scanLine limit depth
      (trim (lineBehind before (withLineComment text comment)).text.toList) = scan := by
    rw [scanLine_eq_run, text_lineBehind, markers_trim, markers_withLineComment, hmarkers,
      List.nil_append]
  constructor
  · by_cases hzero : depth = 0
    · subst hzero
      have hplain : IsPlain limit (lineBehind before (withLineComment text comment)) ↔
          scan.touched = false := by
        rw [isPlain_iff_of_not_isInert hcode, hscan]
      simp only [ownReferences, hplain, text_lineBehind, references_withLineComment]
    · rw [ownReferences, if_neg fun hkept => hzero hkept.1, if_neg fun hkept => hzero hkept.1]
  · rw [depthStep, hcode, if_neg Bool.false_ne_true, hscan]

/--
A comment behind code changes no use exactly if its markers leave the depth as it is and, outside of
comments, it takes away no reference and brings none.
-/
theorem isTransparent_iff_of_code
    (file : String)
    (hbefore : Line.StartsLine before.toList)
    (hdepth : depthAfter limit 0 (Line.ofContent before) = depth)
    (hmark : before = "" → text.toList.head? ≠ some Line.byteOrderMark)
    (htext : '\n' ∉ text.toList)
    (hcomment : '\n' ∉ comment.toList)
    (hinert : isInert text.toList = false)
    (hmarkers : markers text.toList = []) :
    IsTransparent limit standardPattern before file text comment ↔
      let scan := LineScan.run limit ⟨depth, 0, false, 0⟩ (markers comment.toList)
      scan.depth = depth ∧
        (depth = 0 →
          if scan.touched then references 0 text.toList = []
          else references 0 comment.toList = []) := by
  obtain ⟨hown, hstep⟩ := ownReferences_of_code limit depth before hinert hmarkers
  obtain ⟨hownCommented, hstepCommented⟩ :=
    ownReferences_withLineComment limit depth before comment hinert hmarkers
  have hshift : references (text.toList.length + 4) comment.toList = [] ↔
      references 0 comment.toList = [] := by
    rw [← Nat.zero_add (text.toList.length + 4), references_add, List.map_eq_nil_iff]
  rw [isTransparent_iff_placesOf file hbefore hdepth hmark htext hcomment, hown, hstep,
    hownCommented, hstepCommented, and_comm]
  refine and_congr_right fun _ => ?_
  by_cases hzero : depth = 0
  · cases htouched : (LineScan.run limit ⟨depth, 0, false, 0⟩ (markers comment.toList)).touched with
    | true =>
        simp only [hzero, true_and, Bool.true_eq_false, if_false, if_true, forall_const]
        exact (forall_congr' fun _ => eq_comm).trans forall_placesOf_eq_nil_iff
    | false =>
        simp only [hzero, and_self, if_true, Bool.false_eq_true, if_false, forall_const,
          placesOf_append, List.append_right_eq_self, forall_placesOf_eq_nil_iff, hshift]
  · simp [hzero]

/--
A comment behind a line without markers changes no use exactly if the line is blank, or the comment
leaves the depth as it is and, outside of comments, takes away no reference and brings none. Where
a comment can be opened, code with a reference bears a comment exactly if neither a marker nor a
reference stands in it.
-/
theorem isTransparent_behind_code_iff
    {pattern : UsagePattern}
    (file : String)
    (hpattern : compile standard = .ok pattern)
    (hbefore : Line.StartsLine before.toList)
    (hdepth : depthAfter limit 0 (Line.ofContent before) = depth)
    (hmark : before = "" → text.toList.head? ≠ some Line.byteOrderMark)
    (htext : '\n' ∉ text.toList)
    (hcomment : '\n' ∉ comment.toList)
    (hslashes : ¬ lineMarker <:+: text.toList)
    (hopening : ¬ openingText <:+: text.toList)
    (hclosing : ¬ closingText <:+: text.toList) :
    (IsTransparent limit pattern before file text comment ↔
      trim text.toList = [] ∨
        let scan := LineScan.run limit ⟨depth, 0, false, 0⟩ (markers comment.toList)
        scan.depth = depth ∧
          (depth = 0 →
            if scan.touched then references 0 text.toList = []
            else references 0 comment.toList = [])) ∧
    (depth = 0 → limit.allows 0 = true → references 0 text.toList ≠ [] →
      (IsTransparent limit pattern before file text comment ↔
        (¬ openingText <:+: comment.toList ∧ ¬ closingText <:+: comment.toList) ∧
          references 0 comment.toList = [])) := by
  have hstandard : pattern = standardPattern :=
    Except.ok.inj (hpattern.symm.trans compile_standard)
  have hmarkers : markers text.toList = [] := markers_eq_nil_iff.mpr ⟨hopening, hclosing⟩
  have hcode (hne : trim text.toList ≠ []) :
      IsTransparent limit standardPattern before file text comment ↔ _ :=
    isTransparent_iff_of_code file hbefore hdepth hmark htext hcomment
      (isInert_of_no_lineMarker hne hslashes) hmarkers
  rw [hstandard]
  refine ⟨?_, ?_⟩
  · by_cases hblank : trim text.toList = []
    · exact ⟨fun _ => .inl hblank,
        fun _ => isTransparent_of_blank file hbefore hmark htext hcomment hblank⟩
    · rw [hcode hblank, or_iff_right hblank]
  · intro hzero hallows hreference
    have hne : trim text.toList ≠ [] := fun hblank =>
      hreference (references_of_blank 0 (isBlank_of_trim_eq_nil hblank))
    have huntouched :
        (LineScan.run limit ⟨0, 0, false, 0⟩ (markers comment.toList)).touched = false ↔
          markers comment.toList = [] :=
      LineScan.run_untouched_iff_of_allows hallows rfl rfl
    rw [hcode hne, ← markers_eq_nil_iff, hzero]
    by_cases hnone : markers comment.toList = []
    · simp [hnone]
    · simp [hnone, huntouched, hreference]

/-- A comment in words alone is borne by code, whatever follows. -/
theorem isTransparent_words :
    IsTransparent .unlimited standardPattern "import UIKit\n" "A.swift"
      "let x = \"a\".localized" "shown on top" := by
  have hbefore : Line.StartsLine "import UIKit\n".toList :=
    .inr ⟨"import UIKit".toList, by decide⟩
  have hdepth : depthAfter .unlimited 0 (Line.ofContent "import UIKit\n") = 0 := by
    decide +kernel
  obtain ⟨-, hopen⟩ :=
    isTransparent_behind_code_iff "A.swift" compile_standard hbefore hdepth
      (fun _ => by decide +kernel)
      (show '\n' ∉ "let x = \"a\".localized".toList by decide)
      (show '\n' ∉ "shown on top".toList by decide) (by decide +kernel) (by decide +kernel)
      (by decide +kernel)
  exact (hopen rfl rfl (by decide +kernel)).mpr (by decide +kernel)

/-- A reference in a comment behind code is a use of its key. -/
theorem keys_of_reference_in_comment :
    compile standard = .ok standardPattern ∧
      (parse ("" ++ withLineComment "let x = \"a\".localized" "was \"old\".localized" ++ "\n")
        "A.swift" standardPattern .unlimited).usedKeys.keys = ["a", "old"] ∧
      (parse ("" ++ "let x = \"a\".localized" ++ "\n")
        "A.swift" standardPattern .unlimited).usedKeys.keys = ["a"] := by
  refine ⟨compile_standard, ?_, ?_⟩
  · decide +kernel
  · decide +kernel

end SourceFile
end StringsAudit
