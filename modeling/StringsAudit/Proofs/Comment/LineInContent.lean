import StringsAudit.Proofs.Comment.Stripping
import StringsAudit.Proofs.Line.Content
import StringsAudit.Proofs.Text.Occurrence

/-!
# One line in a content that is stripped

Outside of comments a line acts on what is stripped only through its scan: whether it is touched
decides if it is kept, its unmatched ends are its warnings, and its depth is where the lines behind
it start. So two lines whose scans agree in these can stand for each other in every content, and
lines that close comments tell all others apart.

## Main definitions

* `withLineComment` : a text with a line comment behind it.
* `LineScan.SameEffect` : two scans agree in what they do to the content.

## Main results

* `stripContent_append_append` : what is kept of a content around one line with code.
* `lines_stripContent_append_append` : the lines kept around any line, wherever it stands.
* `length_warnings_stripFrom_closers`, `lines_stripFrom_closers_append` : closing lines tell how
  many comments are open before them.
-/

namespace StringsAudit
namespace Comment

open Text LineScan

/-- A text with a line comment behind it. -/
def withLineComment (text comment : String) : String :=
  text ++ " // " ++ comment

/-- Two scans agree in what they do to their line, to the warnings, and to the lines behind. -/
structure LineScan.SameEffect (first second : LineScan) : Prop where
  depth : first.depth = second.depth
  touched : first.touched = second.touched
  unmatched : first.unmatched = second.unmatched

variable {limit : Depth} {line : Line}

/-! ### A line comment behind a text -/

theorem toList_withLineComment
    (text comment : String) :
    (withLineComment text comment).toList =
      text.toList ++ ' ' :: (lineMarker ++ ' ' :: comment.toList) := by
  simp [withLineComment, lineMarker]

theorem markers_withLineComment
    (text comment : String) :
    markers (withLineComment text comment).toList =
      markers text.toList ++ markers comment.toList := by
  have hspace : IsNeutral ' ' := by
    constructor <;> decide
  have hslashes : markers lineMarker = [] := by decide
  rw [toList_withLineComment, markers_append_cons _ _ hspace, markers_append_cons _ _ hspace,
    hslashes, List.nil_append]

/-- What stands behind code with a blank before it does not make it a line comment. -/
theorem isInert_append_cons
    {c : Char}
    {text : List Char}
    (rest : List Char)
    (hc : isBlank c = true)
    (hinert : isInert text = false) :
    isInert (text ++ c :: rest) = false := by
  obtain ⟨hne, hslashes⟩ := isInert_eq_false_iff.mp hinert
  obtain ⟨after, hafter, htrim⟩ := exists_stripEnds_append (c :: rest) hne
  rw [isInert_eq_false_iff, trim, htrim]
  refine ⟨List.append_ne_nil_of_left_ne_nil hne _, ?_⟩
  have hbehind : ∀ d ∈ (stripEnd isBlank (after ++ c :: rest)).head?, isBlank d = true := by
    intro d hd
    obtain ⟨tail, htail⟩ := stripEnd_isPrefix isBlank (after ++ c :: rest)
    have hhead : d ∈ (after ++ c :: rest).head? := by
      rw [← htail, List.head?_append, Option.mem_def.mp hd]
      rfl
    cases after with
    | nil => rwa [← Option.some.inj hhead]
    | cons e after => exact hafter d (List.mem_of_mem_head? hhead)
  cases hstrip : stripEnd isBlank (after ++ c :: rest) with
  | nil => rwa [List.append_nil]
  | cons d tail =>
      have hd : d ∉ lineMarker := by
        intro hmem
        have hslash : d = '/' := by simpa [lineMarker] using hmem
        have hblank : isBlank '/' = true := hslash ▸ hbehind d (by rw [hstrip]; rfl)
        exact absurd hblank (by decide)
      exact (prefix_append_cons_iff _ tail hd).not.mpr hslashes

theorem isInert_withLineComment_of_blank
    {text : String}
    (comment : String)
    (hblank : trim text.toList = []) :
    isInert (withLineComment text comment).toList = true := by
  have hblanks : ∀ c ∈ text.toList ++ [' '], isBlank c = true := by
    rw [List.forall_mem_append, List.forall_mem_singleton]
    exact ⟨isBlank_of_trim_eq_nil hblank, by decide⟩
  have htrim : trim (withLineComment text comment).toList =
      lineMarker ++ stripEnd isBlank (' ' :: comment.toList) := by
    have hsplit : (withLineComment text comment).toList =
        (text.toList ++ [' ']) ++ (lineMarker ++ ' ' :: comment.toList) := by
      rw [toList_withLineComment, List.append_assoc, List.singleton_append]
    have hfirst : ∀ c ∈ (lineMarker ++ ' ' :: comment.toList).head?, isBlank c = false := by
      intro c hc
      rw [lineMarker, List.cons_append, List.head?_cons, Option.mem_some_iff] at hc
      rw [← hc]
      decide
    have hlast : ∀ c ∈ lineMarker.getLast?, isBlank c = false := by
      intro c hc
      rw [lineMarker, List.getLast?_cons_cons, List.getLast?_singleton, Option.mem_some_iff] at hc
      rw [← hc]
      decide
    rw [hsplit, trim, stripEnds_forall_append _ hblanks, stripEnds_of_head hfirst,
      stripEnd_append _ hlast]
  rw [isInert_iff, htrim]
  exact .inr (List.prefix_append lineMarker _)

/-! ### One line in a content -/

/-- Behind a scan that leaves its line alone, markers have an effect only if they touch the line. -/
theorem LineScan.sameEffect_run_iff
    {scan : LineScan}
    {found : List Marker}
    (huntouched : scan.touched = false) :
    (run limit scan found).SameEffect scan ↔ (run limit scan found).touched = false := by
  constructor
  · intro h
    rw [h.touched, huntouched]
  · intro h
    obtain ⟨-, hdepth, hunmatched⟩ := run_of_untouched h
    exact ⟨hdepth, h.trans huntouched.symm, hunmatched⟩

/-- Where a comment can be opened, every marker behind a text without effect has one. -/
theorem run_scanLine_untouched_iff
    {text : List Char}
    {found : List Marker}
    (hallows : limit.allows 0 = true)
    (huntouched : (scanLine limit 0 text).touched = false) :
    (run limit (scanLine limit 0 text) found).touched = false ↔ found = [] := by
  have hnone : markers text = [] := by
    rw [scanLine_eq_run] at huntouched
    exact (run_untouched_iff_of_allows hallows rfl rfl).mp huntouched
  rw [scanLine_eq_run, hnone, run_nil]
  exact run_untouched_iff_of_allows hallows rfl rfl

theorem isPlain_iff_of_not_isInert
    (hinert : isInert line.text.toList = false) :
    IsPlain limit line ↔ (scanLine limit 0 (trim line.text.toList)).touched = false :=
  ⟨fun h => h.untouched, fun h => ⟨hinert, h⟩⟩

/-- What a line with code adds outside of comments is decided by its scan. -/
theorem stripFrom_cons_of_not_isInert
    (rest : List Line)
    (hinert : isInert line.text.toList = false) :
    stripFrom limit 0 (line :: rest) =
      let scan := scanLine limit 0 (trim line.text.toList)
      ⟨(if scan.touched then [] else [line]) ++ (stripFrom limit scan.depth rest).lines,
        List.replicate scan.unmatched ⟨line.number⟩
          ++ (stripFrom limit scan.depth rest).warnings⟩ := by
  have hplain : IsPlain limit line ↔ _ := isPlain_iff_of_not_isInert hinert
  rw [stripFrom_cons_eq]
  simp only [depthStep, unmatchedOn, hinert, hplain, true_and]
  cases (scanLine limit 0 (trim line.text.toList)).touched <;> rfl

/-- What is kept of a content around one line with code. -/
theorem stripContent_append_append
    {before text after : String}
    (hbefore : Line.StartsLine before.toList)
    (hclosed : depthAfter limit 0 (Line.ofContent before) = 0)
    (hlineFeed : '\n' ∉ text.toList)
    (hmark : text.toList.head? ≠ some Line.byteOrderMark)
    (hinert : isInert text.toList = false)
    (hafter : Line.EndsLine after.toList) :
    ∃ read : String,
      trim read.toList = trim text.toList ∧
      stripContent limit (before ++ text ++ after) =
        let number := (Line.ofContent before).length + 1
        let scan := scanLine limit 0 (trim text.toList)
        let later := stripFrom limit scan.depth (Line.linesBehind before after)
        ⟨(stripContent limit before).lines
            ++ ((if scan.touched then [] else [⟨number, read⟩]) ++ later.lines),
          (stripContent limit before).warnings
            ++ (List.replicate scan.unmatched ⟨number⟩ ++ later.warnings)⟩ := by
  have hne : text.toList ++ after.toList ≠ [] := by
    intro hnil
    rw [(List.append_eq_nil_iff.mp hnil).1] at hinert
    exact Bool.noConfusion hinert
  obtain ⟨read, hread, hlines⟩ :=
    Line.ofContent_append_append hbefore hlineFeed hne (fun _ => hmark) hafter
  have htrim := hread.trim_eq
  refine ⟨read, htrim, ?_⟩
  have hinertRead :
      isInert (Line.mk ((Line.ofContent before).length + 1) read).text.toList = false := by
    rw [isInert_of_trim_eq htrim, hinert]
  rw [stripContent, hlines, strip, stripFrom_append, hclosed,
    stripFrom_cons_of_not_isInert _ hinertRead, htrim]
  rfl

theorem isPlain_iff_of_trim_eq
    {other : Line}
    (h : trim line.text.toList = trim other.text.toList) :
    IsPlain limit line ↔ IsPlain limit other := by
  have hinert := isInert_of_trim_eq h
  constructor
  · exact fun hplain => ⟨hinert ▸ hplain.not_inert, h ▸ hplain.untouched⟩
  · exact fun hplain => ⟨hinert ▸ hplain.not_inert, h ▸ hplain.untouched⟩

theorem depthStep_of_trim_eq
    {other : Line}
    (depth : Nat)
    (h : trim line.text.toList = trim other.text.toList) :
    depthStep limit depth line = depthStep limit depth other := by
  rw [depthStep, depthStep, isInert_of_trim_eq h, h]

/-- The lines that are kept of a content around one line, wherever the line stands. -/
theorem lines_stripContent_append_append
    {before text after : String}
    (hbefore : Line.StartsLine before.toList)
    (hlineFeed : '\n' ∉ text.toList)
    (hmark : before = "" → text.toList.head? ≠ some Line.byteOrderMark)
    (hafter : Line.EndsLine after.toList) :
    ∃ read : String,
      Line.ReadAs text.toList read.toList ∧
      (stripContent limit (before ++ text ++ after)).lines =
        let number := (Line.ofContent before).length + 1
        let depth := depthAfter limit 0 (Line.ofContent before)
        (stripContent limit before).lines
          ++ ((if depth = 0 ∧ IsPlain limit ⟨number, text⟩ then [⟨number, read⟩] else [])
            ++ (stripFrom limit (depthStep limit depth ⟨number, text⟩)
              (Line.linesBehind before after)).lines) := by
  by_cases hne : text.toList ++ after.toList = []
  · obtain ⟨htext, hnothing⟩ := List.append_eq_nil_iff.mp hne
    rw [String.toList_eq_nil_iff] at htext hnothing
    subst htext hnothing
    have hinert : isInert "".toList = true := by decide
    have hplain : ¬ IsPlain limit ⟨(Line.ofContent before).length + 1, ""⟩ :=
      fun hplain => Bool.noConfusion (hinert.symm.trans hplain.not_inert)
    refine ⟨"", .inl rfl, ?_⟩
    simp [hplain, Line.linesBehind, Line.behindLineEnd, Line.texts, Line.numberFrom]
  · obtain ⟨read, hread, hlines⟩ :=
      Line.ofContent_append_append hbefore hlineFeed hne hmark hafter
    have htrim : trim (Line.mk ((Line.ofContent before).length + 1) read).text.toList =
        trim (Line.mk ((Line.ofContent before).length + 1) text).text.toList := hread.trim_eq
    refine ⟨read, hread, ?_⟩
    simp only [stripContent, hlines, strip, stripFrom_append, stripFrom_cons_eq,
      isPlain_iff_of_trim_eq htrim, depthStep_of_trim_eq _ htrim]

/-! ### Closing lines -/

theorem scanLine_closingText
    (limit : Depth)
    (depth : Nat) :
    scanLine limit depth closingText =
      if 0 < depth then ⟨depth - 1, 0, true, 0⟩ else ⟨depth, 0, true, 1⟩ := by
  simp [scanLine_eq_run, closingText, step]

/-- A closing line is dropped, closes a comment if one is open, and is unmatched if none is. -/
theorem stripFrom_closer_cons
    (limit : Depth)
    (depth number : Nat)
    (rest : List Line) :
    stripFrom limit depth (⟨number, String.ofList closingText⟩ :: rest) =
      ⟨(stripFrom limit (depth - 1) rest).lines,
        List.replicate (1 - depth) ⟨number⟩ ++ (stripFrom limit (depth - 1) rest).warnings⟩ := by
  have htrim : trim closingText = closingText := by decide
  have hinert : isInert closingText = false := by decide
  rw [stripFrom_cons rest (by rwa [String.toList_ofList])]
  simp only [String.toList_ofList, htrim, scanLine_closingText]
  cases depth with
  | zero => rfl
  | succ depth => simp [LineScan.isClear]

/-- Closing lines behind open comments tell how many are open. -/
theorem length_warnings_stripFrom_closers
    (limit : Depth)
    (first depth closers : Nat) :
    (stripFrom limit depth
      (Line.numberFrom first (List.replicate closers closingText))).warnings.length =
        closers - depth := by
  induction closers generalizing first depth with
  | zero => simp [Line.numberFrom]
  | succ closers ih =>
      rw [List.replicate_succ, Line.numberFrom, stripFrom_closer_cons, List.length_append,
        List.length_replicate, ih]
      omega

/-- Behind closing lines, what follows is stripped with as many comments less open. -/
theorem lines_stripFrom_closers_append
    (limit : Depth)
    (first depth closers : Nat)
    (rest : List Line) :
    (stripFrom limit depth
      (Line.numberFrom first (List.replicate closers closingText) ++ rest)).lines =
        (stripFrom limit (depth - closers) rest).lines := by
  induction closers generalizing first depth with
  | zero => rfl
  | succ closers ih =>
      rw [List.replicate_succ, Line.numberFrom, List.cons_append, stripFrom_closer_cons, ih,
        Nat.sub_sub, Nat.add_comm 1]

end Comment
end StringsAudit
