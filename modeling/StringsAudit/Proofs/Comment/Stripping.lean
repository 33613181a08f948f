import StringsAudit.Proofs.Comment.LineScan

/-!
# The lines that stripping keeps

Whether a line is kept depends on the comments that the lines before it leave open, and most of
these lines are gone when the result is stripped again. What carries over is that a line is kept
only where no comment is open, and that it opens none: all lines that are kept are read from the
same state, in the first run and in the second.

## Main definitions

* `IsPlain` : a line that is kept wherever no comment is open.
* `unmatchedOn` : the unmatched ends of a line.

## Main results

* `stripFrom_cons_eq` : what one line adds to the lines and warnings of those after it.
* `lines_stripFrom_sublist` : the lines that are kept come as they stand, in the same order.
* `strip_eq_self_iff` : stripping changes nothing exactly if all lines are plain.
* `strip_lines_strip` : what was stripped once has nothing more to strip.
-/

namespace StringsAudit
namespace Comment

open Text LineScan

/-- A line that is kept wherever no comment is open. -/
structure IsPlain (limit : Depth) (line : Line) : Prop where
  not_inert : isInert line.text.toList = false
  untouched : (scanLine limit 0 (trim line.text.toList)).touched = false

instance (limit : Depth) (line : Line) : Decidable (IsPlain limit line) :=
  decidable_of_iff
    (isInert line.text.toList = false ∧
      (scanLine limit 0 (trim line.text.toList)).touched = false)
    ⟨fun h => ⟨h.1, h.2⟩, fun h => ⟨h.not_inert, h.untouched⟩⟩

/-- The ends on a line that have nothing to close. -/
def unmatchedOn (limit : Depth) (depth : Nat) (line : Line) : Nat :=
  if isInert line.text.toList then 0
  else (scanLine limit depth (trim line.text.toList)).unmatched

variable {limit : Depth} {depth : Nat} {line : Line}

theorem isInert_iff
    {text : List Char} :
    isInert text = true ↔ trim text = [] ∨ lineMarker <+: trim text := by
  rw [isInert, Bool.or_eq_true, List.isEmpty_iff, List.isPrefixOf_iff_prefix]

theorem isInert_eq_false_iff
    {text : List Char} :
    isInert text = false ↔ trim text ≠ [] ∧ ¬ lineMarker <+: trim text := by
  rw [← Bool.not_eq_true, isInert_iff, not_or]

theorem isInert_of_trim_eq
    {first second : List Char}
    (h : trim first = trim second) :
    isInert first = isInert second := by
  rw [isInert, isInert, h]

theorem scanLine_eq_run
    (limit : Depth)
    (depth : Nat)
    (text : List Char) :
    scanLine limit depth text = run limit ⟨depth, 0, false, 0⟩ (markers text) := by
  rfl

theorem isClear_scanLine_iff
    {text : List Char} :
    (scanLine limit depth text).isClear depth = true ↔
      depth = 0 ∧ (scanLine limit depth text).touched = false := by
  rw [scanLine_eq_run, isClear_run_iff]

/-- A line with code and without markers is plain, whatever the limit. -/
theorem isPlain_of_markers_eq_nil
    (limit : Depth)
    (hinert : isInert line.text.toList = false)
    (hmarkers : markers (trim line.text.toList) = []) :
    IsPlain limit line := by
  refine ⟨hinert, ?_⟩
  rw [scanLine_eq_run, hmarkers, run_nil]

/-- Where a comment can be opened, a plain line is one with code and without markers. -/
theorem isPlain_iff_of_allows
    (hallows : limit.allows 0 = true) :
    IsPlain limit line ↔
      isInert line.text.toList = false ∧ markers line.text.toList = [] := by
  constructor
  · rintro ⟨hinert, huntouched⟩
    rw [scanLine_eq_run, run_untouched_iff_of_allows hallows rfl rfl, markers_trim] at huntouched
    exact ⟨hinert, huntouched⟩
  · rintro ⟨hinert, hmarkers⟩
    exact isPlain_of_markers_eq_nil limit hinert (by rw [markers_trim, hmarkers])

/-- What one line adds to the lines and warnings of those after it. -/
theorem stripFrom_cons_eq
    (limit : Depth)
    (depth : Nat)
    (line : Line)
    (rest : List Line) :
    stripFrom limit depth (line :: rest) =
      ⟨(if depth = 0 ∧ IsPlain limit line then [line] else [])
          ++ (stripFrom limit (depthStep limit depth line) rest).lines,
        List.replicate (unmatchedOn limit depth line) ⟨line.number⟩
          ++ (stripFrom limit (depthStep limit depth line) rest).warnings⟩ := by
  by_cases hinert : isInert line.text.toList = true
  · have hplain : ¬ IsPlain limit line := fun h => by
      simp [h.not_inert] at hinert
    rw [stripFrom_cons_of_isInert rest hinert]
    simp [depthStep, unmatchedOn, hinert, hplain]
  · simp only [Bool.not_eq_true] at hinert
    have hkept :
        (scanLine limit depth (trim line.text.toList)).isClear depth = true ↔
          depth = 0 ∧ IsPlain limit line := by
      rw [isClear_scanLine_iff]
      constructor
      · rintro ⟨rfl, huntouched⟩
        exact ⟨rfl, hinert, huntouched⟩
      · rintro ⟨rfl, hplain⟩
        exact ⟨rfl, hplain.untouched⟩
    rw [stripFrom_cons rest hinert]
    simp only [depthStep, unmatchedOn, hinert, Bool.false_eq_true, if_false, hkept]
    split <;> rfl

theorem scanLine_of_untouched
    {text : List Char}
    (h : (scanLine limit depth text).touched = false) :
    (scanLine limit depth text).depth = depth ∧ (scanLine limit depth text).unmatched = 0 := by
  rw [scanLine_eq_run] at h ⊢
  exact (run_of_untouched h).2

theorem IsPlain.depthStep_eq
    (h : IsPlain limit line) :
    depthStep limit 0 line = 0 := by
  simpa only [depthStep, h.not_inert, Bool.false_eq_true, if_false] using
    (scanLine_of_untouched h.untouched).1

theorem IsPlain.unmatchedOn_eq
    (h : IsPlain limit line) :
    unmatchedOn limit 0 line = 0 := by
  simpa only [unmatchedOn, h.not_inert, Bool.false_eq_true, if_false] using
    (scanLine_of_untouched h.untouched).2

/-- A plain line outside of comments is kept, and stripping goes on outside of comments. -/
theorem IsPlain.stripFrom_cons
    (h : IsPlain limit line)
    (rest : List Line) :
    stripFrom limit 0 (line :: rest) =
      ⟨line :: (stripFrom limit 0 rest).lines, (stripFrom limit 0 rest).warnings⟩ := by
  rw [stripFrom_cons_eq, h.depthStep_eq, h.unmatchedOn_eq, if_pos ⟨rfl, h⟩]
  rfl

/-- Only plain lines are kept. -/
theorem isPlain_of_mem_lines_stripFrom
    {lines : List Line}
    (h : line ∈ (stripFrom limit depth lines).lines) :
    IsPlain limit line := by
  induction lines generalizing depth with
  | nil => simp at h
  | cons first rest ih =>
      rw [stripFrom_cons_eq, List.mem_append] at h
      rcases h with hfirst | hrest
      · split at hfirst
        next hkept =>
          rw [List.mem_singleton.mp hfirst]
          exact hkept.2
        next => simp at hfirst
      · exact ih hrest

/-- The lines that are kept come as they stand, in the same order. -/
theorem lines_stripFrom_sublist
    (limit : Depth)
    (depth : Nat)
    (lines : List Line) :
    (stripFrom limit depth lines).lines.Sublist lines := by
  induction lines generalizing depth with
  | nil => exact .slnil
  | cons line rest ih =>
      rw [stripFrom_cons_eq]
      split
      next => exact (ih _).cons_cons line
      next => exact (ih _).cons line

/-- Stripping changes nothing exactly if all lines are plain. -/
theorem strip_eq_self_iff
    {lines : List Line} :
    strip limit lines = ⟨lines, []⟩ ↔ ∀ line ∈ lines, IsPlain limit line := by
  constructor
  · intro h line hline
    have hkept : line ∈ (stripFrom limit 0 lines).lines := by
      rw [← strip, h]
      exact hline
    exact isPlain_of_mem_lines_stripFrom hkept
  · intro h
    induction lines with
    | nil => rfl
    | cons line rest ih =>
        have hrest := ih fun other hother => h other (List.mem_cons_of_mem line hother)
        rw [strip] at hrest ⊢
        rw [(h line List.mem_cons_self).stripFrom_cons, hrest]

/-- What was stripped once has nothing more to strip, and raises no warning. -/
theorem strip_lines_strip
    (limit : Depth)
    (lines : List Line) :
    strip limit (strip limit lines).lines = ⟨(strip limit lines).lines, []⟩ := by
  rw [strip_eq_self_iff]
  intro line hline
  exact isPlain_of_mem_lines_stripFrom hline

end Comment
end StringsAudit
