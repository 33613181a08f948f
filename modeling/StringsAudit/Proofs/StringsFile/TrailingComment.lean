import StringsAudit.Proofs.Assignments
import StringsAudit.Proofs.Comment.LineInContent
import StringsAudit.Proofs.StringsFile.EntryLine

/-!
# Line comments behind an entry

A line comment behind an entry is cut away when the line is read, but comments are stripped before,
by a scan of the whole line: block comment markers behind the two slashes count. So the comment
changes nothing that is read exactly if its markers add nothing to the scan of the entry, and what
follows the line is all it takes to see a difference.

## Main definitions

* `commentedText` : the line of an entry with a line comment behind it.
* `IsTransparent` : a comment behind an entry changes nothing that is read.
* `parsedAround` : what is read of a content in which the line of an entry has a given scan.

## Main results

* `parse_eq_parsedAround` : only the scan of the line of an entry has a part in what is read.
* `parsedAround_eq_iff_sameEffect` : what is read tells scans with different effects apart.
* `isTransparent_iff` : when a comment behind an entry changes nothing that is read.
-/

namespace StringsAudit
namespace StringsFile

open Text Comment

/-- The line of an entry with a line comment behind it. -/
def commentedText (key value comment : String) : String :=
  entryText key value ++ " // " ++ comment

/-- A comment behind an entry changes nothing that is read, whatever follows the line. -/
def IsTransparent
    (limit : Depth)
    (before file suffix key value comment : String) : Prop :=
  ∀ after : String, Line.EndsLine after.toList →
    parse (before ++ commentedText key value comment ++ after) file suffix limit =
      parse (before ++ entryText key value ++ after) file suffix limit

/-- What is read of a content in which the line of an entry has a given scan. -/
def parsedAround
    (limit : Depth)
    (before file suffix key value after : String)
    (scan : LineScan) : Parsed :=
  let folder := (LocaleFolder.ofPath? suffix ⟨file⟩).getD ⟨file, file⟩
  let number := (Line.ofContent before).length + 1
  let earlier := stripContent limit before
  let later := stripFrom limit scan.depth (Line.linesBehind before after)
  ⟨.ofAssignments folder.name folder.locale file
      (assignments earlier.lines
        ++ ((if scan.touched then [] else [⟨key, number, value⟩]) ++ assignments later.lines)),
    earlier.warnings ++ (List.replicate scan.unmatched ⟨number⟩ ++ later.warnings),
    warnings earlier.lines ++ warnings later.lines⟩

variable {limit : Depth} {before key value : String}

theorem toList_commentedText
    (key value comment : String) :
    (commentedText key value comment).toList =
      (entryText key value).toList ++ ' ' :: (lineMarker ++ ' ' :: comment.toList) := by
  simp [commentedText, lineMarker]

theorem trim_commentedText
    (key value comment : String) :
    ∃ rest,
      trim (commentedText key value comment).toList =
        (entryText key value).toList ++ ' ' :: (lineMarker ++ rest) := by
  have hfirst : ∀ c ∈ (commentedText key value comment).toList.head?, isBlank c = false := by
    intro c hc
    rw [toList_commentedText, toList_entryText, List.cons_append, List.head?_cons,
      Option.mem_some_iff] at hc
    rw [← hc]
    decide
  have hlast :
      ∀ c ∈ ((entryText key value).toList ++ ' ' :: lineMarker).getLast?, isBlank c = false := by
    intro c hc
    rw [List.getLast?_append, lineMarker] at hc
    simp only [List.getLast?_cons_cons, List.getLast?_singleton, Option.some_or,
      Option.mem_some_iff] at hc
    rw [← hc]
    decide
  have hsplit :
      (commentedText key value comment).toList =
        ((entryText key value).toList ++ ' ' :: lineMarker) ++ ' ' :: comment.toList := by
    rw [toList_commentedText, List.append_assoc, List.cons_append]
  refine ⟨stripEnd isBlank (' ' :: comment.toList), ?_⟩
  rw [trim, stripEnds_of_head hfirst, hsplit, stripEnd_append _ hlast, List.append_assoc,
    List.cons_append]

theorem markers_commentedText
    (key value comment : String) :
    markers (commentedText key value comment).toList =
      markers (entryText key value).toList ++ markers comment.toList :=
  markers_withLineComment (entryText key value) comment

/-- The scan of a commented line goes on where that of the entry ends. -/
theorem scanLine_commentedText
    (limit : Depth)
    (key value comment : String) :
    scanLine limit 0 (trim (commentedText key value comment).toList) =
      LineScan.run limit (scanLine limit 0 (entryText key value).toList)
        (markers comment.toList) := by
  rw [scanLine_eq_run, scanLine_eq_run, markers_trim, markers_commentedText, LineScan.run_append]

theorem isInert_commentedText
    (key value comment : String) :
    isInert (commentedText key value comment).toList = false := by
  obtain ⟨rest, htrim⟩ := trim_commentedText key value comment
  rw [isInert, htrim, toList_entryText]
  rfl

/-- The number of a line is all that it gives to its assignment. -/
theorem assignment?_of_assignment?
    {first number : Nat}
    {code : List Char}
    (second : Nat)
    (h : assignment? first code = some ⟨key, number, value⟩) :
    assignment? second code = some ⟨key, second, value⟩ := by
  simp only [assignment?] at h ⊢
  split at h
  next =>
    simp only [Option.some.injEq, Assignment.mk.injEq, Entry.mk.injEq] at h
    obtain ⟨rfl, -, rfl⟩ := h
    rfl
  next => exact absurd h (by simp)

/-- What a line says rests on its code, wherever the line stands. -/
theorem readLine_of_codeOf_eq
    {first number : Nat}
    {text other : String}
    (second : Nat)
    (hreads : readLine ⟨first, text⟩ = .assignment ⟨key, number, value⟩)
    (hinert : isInert other.toList = false)
    (hcode : codeOf (trim other.toList) = codeOf (trim text.toList)) :
    readLine ⟨second, other⟩ = .assignment ⟨key, second, value⟩ := by
  obtain ⟨-, hlast, hassignment⟩ := readLine_eq_assignment_iff.mp hreads
  rw [readLine_eq_assignment_iff, hcode]
  exact ⟨hinert, hlast, assignment?_of_assignment? second hassignment⟩

theorem readLine_commentedText
    (comment : String)
    (hreads : readLine ⟨1, entryText key value⟩ = .assignment ⟨key, 1, value⟩) :
    readLine ⟨1, commentedText key value comment⟩ = .assignment ⟨key, 1, value⟩ := by
  refine readLine_of_codeOf_eq 1 hreads (isInert_commentedText key value comment) ?_
  obtain ⟨rest, htrim⟩ := trim_commentedText key value comment
  rw [htrim, trim_entryText]
  exact codeOf_append_lineComment rest (trim_entryText key value)

/-- Only the scan of the line of an entry has a part in what is read. -/
theorem parse_eq_parsedAround
    {text after : String}
    (file suffix : String)
    (hreads : readLine ⟨1, text⟩ = .assignment ⟨key, 1, value⟩)
    (hlineFeed : '\n' ∉ text.toList)
    (hmark : text.toList.head? ≠ some Line.byteOrderMark)
    (hbefore : Line.StartsLine before.toList)
    (hclosed : depthAfter limit 0 (Line.ofContent before) = 0)
    (hafter : Line.EndsLine after.toList) :
    parse (before ++ text ++ after) file suffix limit =
      parsedAround limit before file suffix key value after
        (scanLine limit 0 (trim text.toList)) := by
  have hinert := (readLine_eq_assignment_iff.mp hreads).1
  obtain ⟨read, htrim, hstrip⟩ :=
    stripContent_append_append hbefore hclosed hlineFeed hmark hinert hafter
  have hread :
      readLine ⟨(Line.ofContent before).length + 1, read⟩ =
        .assignment ⟨key, (Line.ofContent before).length + 1, value⟩ := by
    refine readLine_of_codeOf_eq _ hreads ?_ (by rw [htrim])
    rw [isInert_of_trim_eq htrim, hinert]
  rw [parse, hstrip, parsedAround]
  simp only [assignments_append, warnings_append]
  cases (scanLine limit 0 (trim text.toList)).touched <;>
    simp [assignments, warnings, hread]

def closersAfter (closers : Nat) : String :=
  String.ofList ('\n' :: ['\n'].intercalate (List.replicate closers closingText))

theorem endsLine_closersAfter
    (closers : Nat) :
    Line.EndsLine (closersAfter closers).toList :=
  Line.endsLine_continuation (List.replicate closers closingText)

theorem linesBehind_closersAfter
    (before : String)
    (closers : Nat) :
    Line.linesBehind before (closersAfter closers) =
      Line.numberFrom ((Line.ofContent before).length + 2)
        (List.replicate closers closingText) := by
  refine Line.linesBehind_continuation before ?_ ?_ ?_ <;>
    intro text htext <;>
    rw [List.eq_of_mem_replicate htext] <;>
    decide

/-- What is read tells scans with different effects apart. -/
theorem parsedAround_eq_iff_sameEffect
    (limit : Depth)
    (before file suffix key value : String)
    (first second : LineScan) :
    (∀ after : String, Line.EndsLine after.toList →
      parsedAround limit before file suffix key value after first =
        parsedAround limit before file suffix key value after second) ↔
      first.SameEffect second := by
  constructor
  · intro h
    have hwarned (closers : Nat) :
        first.unmatched + (closers - first.depth) =
          second.unmatched + (closers - second.depth) := by
      have hequal :=
        congrArg (fun parsed => parsed.commentWarnings.length) (h _ (endsLine_closersAfter closers))
      simpa [parsedAround, linesBehind_closersAfter, length_warnings_stripFrom_closers] using hequal
    have hunmatched : first.unmatched = second.unmatched := by
      simpa using hwarned 0
    -- as many closing lines as both scans leave open comments tell the two depths apart
    have hdepth : first.depth = second.depth := by
      have hboth := hwarned (first.depth + second.depth)
      omega
    have htouched : first.touched = second.touched := by
      have hequal :=
        congrArg (fun parsed => parsed.database.counts.find? key) (h _ (endsLine_closersAfter 0))
      simp only [parsedAround, Database.counts_ofAssignments, linesBehind_closersAfter,
        List.replicate_zero, Line.numberFrom, stripFrom_nil] at hequal
      cases hfirst : first.touched <;> cases hsecond : second.touched <;>
        simp [hfirst, hsecond, Database.timesAssigned, assignments] at hequal ⊢
    exact ⟨hdepth, htouched, hunmatched⟩
  · intro h after _
    rw [parsedAround, parsedAround, h.depth, h.touched, h.unmatched]

/-- A comment behind an entry changes nothing exactly if it adds nothing to the scan of the line. -/
theorem isTransparent_iff_sameEffect
    {comment : String}
    (file suffix : String)
    (hreads : readLine ⟨1, entryText key value⟩ = .assignment ⟨key, 1, value⟩)
    (hkey : '\n' ∉ key.toList)
    (hvalue : '\n' ∉ value.toList)
    (hcomment : '\n' ∉ comment.toList)
    (hbefore : Line.StartsLine before.toList)
    (hclosed : depthAfter limit 0 (Line.ofContent before) = 0) :
    IsTransparent limit before file suffix key value comment ↔
      (LineScan.run limit (scanLine limit 0 (entryText key value).toList)
        (markers comment.toList)).SameEffect (scanLine limit 0 (entryText key value).toList) := by
  have hentry := lineFeed_not_mem_entryText hkey hvalue
  have hcommented : '\n' ∉ (commentedText key value comment).toList := by
    rw [toList_commentedText]
    simp [hentry, hcomment, lineMarker]
  have hentryMark : (entryText key value).toList.head? ≠ some Line.byteOrderMark := by
    rw [toList_entryText, List.head?_cons]
    decide
  have hcommentedMark :
      (commentedText key value comment).toList.head? ≠ some Line.byteOrderMark := by
    rw [toList_commentedText, toList_entryText, List.cons_append, List.head?_cons]
    decide
  rw [IsTransparent, ← scanLine_commentedText, ← trim_entryText key value,
    ← parsedAround_eq_iff_sameEffect limit before file suffix key value]
  refine forall₂_congr fun after hafter => ?_
  rw [parse_eq_parsedAround file suffix (readLine_commentedText comment hreads) hcommented
      hcommentedMark hbefore hclosed hafter,
    parse_eq_parsedAround file suffix hreads hentry hentryMark hbefore hclosed hafter]

/--
A comment behind an entry changes nothing that is read exactly if its markers have no effect behind
the scan of the entry. Behind an entry that is kept by itself, that is so if no marker occurs in it,
or, where no comment can be opened, if every end on the line has a start before it.
-/
theorem isTransparent_iff
    {comment : String}
    (file suffix : String)
    (hreads : readLine ⟨1, entryText key value⟩ = .assignment ⟨key, 1, value⟩)
    (hkey : '\n' ∉ key.toList)
    (hvalue : '\n' ∉ value.toList)
    (hcomment : '\n' ∉ comment.toList)
    (hbefore : Line.StartsLine before.toList)
    (hclosed : depthAfter limit 0 (Line.ofContent before) = 0) :
    (IsTransparent limit before file suffix key value comment ↔
      (LineScan.run limit (scanLine limit 0 (entryText key value).toList)
        (markers comment.toList)).SameEffect (scanLine limit 0 (entryText key value).toList)) ∧
    (IsPlain limit ⟨1, entryText key value⟩ → limit.allows 0 = true →
      (IsTransparent limit before file suffix key value comment ↔
        ¬ openingText <:+: comment.toList ∧ ¬ closingText <:+: comment.toList)) ∧
    (IsPlain limit ⟨1, entryText key value⟩ → limit.allows 0 = false →
      (IsTransparent limit before file suffix key value comment ↔
        ∀ found, found <+: markers (commentedText key value comment).toList →
          found.count .closing ≤ found.count .opening)) := by
  have hsame :=
    isTransparent_iff_sameEffect file suffix hreads hkey hvalue hcomment hbefore hclosed
  have huntouched (hplain : IsPlain limit ⟨1, entryText key value⟩) :
      (scanLine limit 0 (entryText key value).toList).touched = false := by
    simpa using hplain.untouched
  refine ⟨hsame, fun hplain hallows => ?_, fun hplain hdenied => ?_⟩
  · rw [hsame, LineScan.sameEffect_run_iff (huntouched hplain),
      run_scanLine_untouched_iff hallows (huntouched hplain), markers_eq_nil_iff]
  · rw [hsame, LineScan.sameEffect_run_iff (huntouched hplain), scanLine_eq_run,
      ← LineScan.run_append, ← markers_commentedText,
      LineScan.run_untouched_iff_of_denied hdenied rfl]
    simp only [Nat.zero_add]

/-- A comment with a star and a slash apart is cut away, behind a heading and before an entry. -/
theorem parse_commented_before_entry :
    parse ("/* heading */\n" ++ commentedText "a" "A" "* or /" ++ "\n\"b\" = \"B\";\n")
        "en.lproj/A.strings" ".lproj" .unlimited =
      parse ("/* heading */\n" ++ entryText "a" "A" ++ "\n\"b\" = \"B\";\n")
        "en.lproj/A.strings" ".lproj" .unlimited := by
  have hreads : readLine ⟨1, entryText "a" "A"⟩ = .assignment ⟨"a", 1, "A"⟩ :=
    readLine_entryText 1 (by decide +kernel) (by decide +kernel)
  have hbefore : Line.StartsLine "/* heading */\n".toList :=
    .inr ⟨"/* heading */".toList, by decide⟩
  have hclosed : depthAfter .unlimited 0 (Line.ofContent "/* heading */\n") = 0 := by
    decide +kernel
  have hafter : Line.EndsLine "\n\"b\" = \"B\";\n".toList :=
    .inr ⟨"\"b\" = \"B\";\n".toList, .inl (by decide)⟩
  have hplain : IsPlain .unlimited ⟨1, entryText "a" "A"⟩ := by
    decide +kernel
  obtain ⟨-, hopen, -⟩ :=
    isTransparent_iff "en.lproj/A.strings" ".lproj" hreads (by decide) (by decide)
      (show '\n' ∉ "* or /".toList by decide) hbefore hclosed
  exact (hopen hplain rfl).mpr (by decide +kernel) _ hafter

/-- A start behind two slashes opens a comment: the entry and the one that follows it are lost. -/
theorem parse_commented_with_opening :
    readLine ⟨1, entryText "a" "A"⟩ = .assignment ⟨"a", 1, "A"⟩ ∧
      (parse ("" ++ commentedText "a" "A" "see /* below" ++ "\n\"b\" = \"B\";\n")
        "en.lproj/L.strings" ".lproj" .unlimited).database.keys = [] ∧
      (parse ("" ++ entryText "a" "A" ++ "\n\"b\" = \"B\";\n")
        "en.lproj/L.strings" ".lproj" .unlimited).database.keys = ["a", "b"] := by
  decide +kernel

end StringsFile
end StringsAudit
