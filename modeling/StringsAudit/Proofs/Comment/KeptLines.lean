import Mathlib.Data.List.Induction
import Mathlib.Data.List.Infix
import StringsAudit.Proofs.Comment.Limit

/-!
# What the lines that are kept look like

The lines that stripping keeps are lines of the input with code on them. Where a comment can be
opened, every marker has an effect, so a line with code is kept only without markers. A limit of
zero opens no comment: starts are text, and so are the ends that pair with a start before them on
their line. What is left to drop are the lines with an end that has no start to pair with, each by
itself.

## Main definitions

* `unpairedStarts` : the starts that no end behind them has paired with.
* `HasLoneEnd` : an end has no unpaired start before it.

## Main results

* `isPlain_limited_zero_iff` : the lines that a limit of zero keeps.
* `lines_strip_limited_zero` : under a limit of zero, every line is kept or dropped by itself.
* `lines_strip_clean` : the lines that are kept come as they stand, with code and without markers of
  comments.
-/

namespace StringsAudit
namespace Comment

open Text LineScan

/-- What a marker does to the starts that no end has paired with. -/
def pairStep (unpaired : Nat) : Marker → Nat
  | .opening => unpaired + 1
  | .closing => unpaired - 1

/-- The starts among some markers that no end behind them has paired with. -/
def unpairedStarts (found : List Marker) : Nat :=
  found.foldl pairStep 0

/-- Some end has no unpaired start before it. -/
def HasLoneEnd (found : List Marker) : Prop :=
  ∃ before, before ++ [.closing] <+: found ∧ unpairedStarts before = 0

instance : DecidablePred HasLoneEnd := fun found =>
  decidable_of_iff
    (∃ before ∈ found.inits, before ++ [.closing] <+: found ∧ unpairedStarts before = 0) <| by
    refine exists_congr fun before => and_iff_right_of_imp fun hlone => ?_
    exact (List.mem_inits before found).mpr ((List.prefix_append before _).trans hlone.1)

@[simp] theorem unpairedStarts_concat
    (found : List Marker)
    (marker : Marker) :
    unpairedStarts (found ++ [marker]) = pairStep (unpairedStarts found) marker := by
  simp [unpairedStarts]

theorem not_hasLoneEnd_nil :
    ¬ HasLoneEnd [] := by
  simp [HasLoneEnd]

/-- One more marker brings an end without a start only if it is one. -/
theorem hasLoneEnd_concat_iff
    {found : List Marker}
    {marker : Marker} :
    HasLoneEnd (found ++ [marker]) ↔
      HasLoneEnd found ∨ marker = .closing ∧ unpairedStarts found = 0 := by
  constructor
  · rintro ⟨before, hinitial, hnone⟩
    rcases List.prefix_concat_iff.mp hinitial with heq | hinitial
    · obtain ⟨rfl, hlast⟩ := List.append_inj' heq rfl
      exact .inr ⟨(List.singleton_inj.mp hlast).symm, hnone⟩
    · exact .inl ⟨before, hinitial, hnone⟩
  · rintro (⟨before, hinitial, hnone⟩ | ⟨rfl, hnone⟩)
    · exact ⟨before, hinitial.trans (List.prefix_append found _), hnone⟩
    · exact ⟨found, List.prefix_refl _, hnone⟩

/-! ### One line -/

namespace LineScan

variable {scan : LineScan}

/-- The starts that wait for an end are those that no end has paired with. -/
theorem waiting_run_eq_unpairedStarts
    (limit : Depth)
    (found : List Marker) :
    (run limit ⟨0, 0, false, 0⟩ found).waiting = unpairedStarts found := by
  induction found using List.reverseRecOn with
  | nil => rfl
  | append_singleton found marker ih =>
      rw [run_append, run_cons, run_nil, unpairedStarts_concat, ← ih]
      cases marker with
      | opening => exact waiting_step_opening limit _
      | closing => exact waiting_step_closing limit _

theorem touched_step_limited_zero
    {marker : Marker}
    (hdepth : scan.depth = 0) :
    (step (.limited 0) scan marker).touched = true ↔
      scan.touched = true ∨ marker = .closing ∧ scan.waiting = 0 := by
  have hwaiting : scan.waiting = scan.depth + scan.ignored := rfl
  rcases step_cases (.limited 0) scan marker with
    ⟨-, hallows, -⟩ | ⟨rfl, -, heq⟩ | ⟨rfl, hpos, heq⟩ | ⟨-, -, hpos, -⟩ | ⟨rfl, hzero, -, heq⟩
  · simp [Depth.allows] at hallows
  · simp [heq]
  · have hwaits : scan.waiting ≠ 0 := by omega
    simp [heq, hwaits]
  · omega
  · have hnone : scan.waiting = 0 := by omega
    simp [heq, hnone]

/-- Under a limit of zero, only an end without a start touches a line. -/
theorem touched_run_limited_zero
    (found : List Marker) :
    (run (.limited 0) ⟨0, 0, false, 0⟩ found).touched = true ↔ HasLoneEnd found := by
  induction found using List.reverseRecOn with
  | nil => simp [not_hasLoneEnd_nil]
  | append_singleton found marker ih =>
      have hstart : LineScan.depth ⟨0, 0, false, 0⟩ =
          (Depth.limited 0).honoured (LineScan.waiting ⟨0, 0, false, 0⟩) := rfl
      have hdepth : (run (.limited 0) ⟨0, 0, false, 0⟩ found).depth = 0 := by
        rw [depth_run found hstart, Depth.honoured, Nat.min_zero]
      rw [run_append, run_cons, run_nil, touched_step_limited_zero hdepth, ih,
        waiting_run_eq_unpairedStarts, hasLoneEnd_concat_iff]

end LineScan

variable {line : Line}

/-- A limit of zero keeps the lines with code on which every end has a start before it. -/
theorem isPlain_limited_zero_iff :
    IsPlain (.limited 0) line ↔
      isInert line.text.toList = false ∧ ¬ HasLoneEnd (markers line.text.toList) := by
  have htouched : (scanLine (.limited 0) 0 (trim line.text.toList)).touched = true ↔
      HasLoneEnd (markers line.text.toList) := by
    rw [scanLine_eq_run, markers_trim]
    exact touched_run_limited_zero (markers line.text.toList)
  rw [← htouched, Bool.not_eq_true]
  exact ⟨fun h => ⟨h.not_inert, h.untouched⟩, fun ⟨hinert, huntouched⟩ => ⟨hinert, huntouched⟩⟩

/-! ### All lines -/

/-- Under a limit of zero, every line is kept or dropped by itself. -/
theorem lines_strip_limited_zero
    (lines : List Line) :
    (strip (.limited 0) lines).lines = lines.filter fun line => IsPlain (.limited 0) line := by
  rw [strip]
  induction lines with
  | nil => rfl
  | cons line rest ih =>
      have hdepth : depthStep (.limited 0) 0 line = 0 := by
        rw [← honoured_depthStep line (Depth.honoured_zero _), Depth.honoured, Nat.min_zero]
      rw [stripFrom_cons_eq, hdepth, ih, List.filter_cons]
      by_cases hplain : IsPlain (.limited 0) line <;> simp [hplain]

/--
The lines that are kept are lines of the input as they stand, and none of them is blank or a line
comment. With at least one comment honoured, none of them holds a marker of a block comment; with
none honoured, they are all the other lines but those with an end that has no unpaired start before
it on the line.
-/
theorem lines_strip_clean
    (limit : Depth)
    (lines : List Line) :
    (strip limit lines).lines.Sublist lines ∧
    (∀ line ∈ (strip limit lines).lines,
      trim line.text.toList ≠ [] ∧ ¬ lineMarker <+: trim line.text.toList) ∧
    (limit ≠ .limited 0 → ∀ line ∈ (strip limit lines).lines,
      ¬ openingText <:+: line.text.toList ∧ ¬ closingText <:+: line.text.toList) ∧
    (limit = .limited 0 → (strip limit lines).lines = lines.filter fun line =>
      trim line.text.toList ≠ [] ∧ ¬ lineMarker <+: trim line.text.toList ∧
        ¬ HasLoneEnd (markers line.text.toList)) := by
  refine ⟨lines_stripFrom_sublist limit 0 lines, fun line hline => ?_, fun hlimit line hline => ?_,
    ?_⟩
  · exact isInert_eq_false_iff.mp (isPlain_of_mem_lines_stripFrom hline).not_inert
  · have hallows : limit.allows 0 = true := by
      cases limit with
      | unlimited => rfl
      | limited max =>
          refine decide_eq_true (Nat.pos_of_ne_zero fun hzero => hlimit ?_)
          rw [hzero]
    have hplain := isPlain_of_mem_lines_stripFrom hline
    exact markers_eq_nil_iff.mp ((isPlain_iff_of_allows hallows).mp hplain).2
  · rintro rfl
    rw [lines_strip_limited_zero]
    refine List.filter_congr fun line _ => decide_eq_decide.mpr ?_
    rw [isPlain_limited_zero_iff, isInert_eq_false_iff, and_assoc]

/-- A start that shares its star with an end is one marker, and only a limit of zero keeps it. -/
theorem lines_strip_clean_of_shared_star :
    let lines : List Line :=
      [⟨1, "// */"⟩, ⟨2, "/*/ a"⟩, ⟨3, "*/ b"⟩, ⟨4, "c /* d */"⟩, ⟨5, "/* e */*/"⟩, ⟨6, "f"⟩]
    Depth.limited 1 ≠ .limited 0 ∧
      ⟨6, "f"⟩ ∈ (strip (.limited 1) lines).lines ∧
      ¬ openingText <:+: "f".toList ∧ ¬ closingText <:+: "f".toList ∧
      (strip (.limited 0) lines).lines = [⟨2, "/*/ a"⟩, ⟨4, "c /* d */"⟩, ⟨6, "f"⟩] := by
  intro lines
  have hlimit : Depth.limited 1 ≠ .limited 0 := by decide
  have hkept : ⟨6, "f"⟩ ∈ (strip (.limited 1) lines).lines := by decide +kernel
  obtain ⟨-, -, hclean, -⟩ := lines_strip_clean (.limited 1) lines
  obtain ⟨-, -, -, hzero⟩ := lines_strip_clean (.limited 0) lines
  obtain ⟨hopening, hclosing⟩ := hclean hlimit _ hkept
  exact ⟨hlimit, hkept, hopening, hclosing, (hzero rfl).trans (by decide +kernel)⟩

end Comment
end StringsAudit
