import Mathlib.Data.List.Induction
import Mathlib.Data.List.Infix
import Mathlib.Order.Bounds.Basic
import StringsAudit.Proofs.Comment.Stripping
import StringsAudit.Proofs.Comment.Waiting

/-!
# Stripping without a limit in closed form

Without a limit every start waits for an end until one comes, on whatever line. What stripping keeps
count of can then be read off the sequence of the markers: an end has nothing to close exactly if
the ends have never before been that far ahead of the starts. So the warnings are as many as the
ends are ahead of the starts at their best, and the open comments are the starts that are left when
the unmatched ends are set aside.

## Main definitions

* `codeMarkers` : the markers of the lines that are neither blank nor line comments.
* `surplus`, `surpluses` : by how much the ends are ahead of the starts, at the end and on the way.
* `unmatchedEnds` : the ends that meet a greater surplus than any before.

## Main results

* `IsBalance.run` : what the markers of a line do to the balance of starts and ends.
* `isBalance_strip` : the warnings and the open comments after some lines.
* `strip_unlimited_append_cons` : what becomes of a line, by the markers before it.
-/

namespace StringsAudit
namespace Comment

open Text LineScan

/-- The markers of the lines that are neither blank nor line comments. -/
def codeMarkers (lines : List Line) : List Marker :=
  (lines.filter fun line => !isInert line.text.toList).flatMap fun line => markers line.text.toList

/-- By how much the ends are ahead of the starts. -/
def surplus (found : List Marker) : Int :=
  found.count .closing - found.count .opening

/-- By how much the ends are ahead of the starts on the way through some markers. -/
def surpluses (found : List Marker) : Set Int :=
  {n | ∃ before, before <+: found ∧ surplus before = n}

/-- Behind markers that never had a greater surplus, an end has nothing to close. -/
def MeetsNothing (found : List Marker) : Prop :=
  ∀ before ∈ found.inits, surplus before ≤ surplus found

instance (found : List Marker) : Decidable (MeetsNothing found) :=
  inferInstanceAs (Decidable (∀ before ∈ found.inits, _))

/-- The number of ends among some markers that have nothing to close, behind other markers. -/
def unmatchedEnds (before : List Marker) : List Marker → Nat
  | [] => 0
  | .opening :: rest => unmatchedEnds (before ++ [.opening]) rest
  | .closing :: rest =>
      (if MeetsNothing before then 1 else 0) + unmatchedEnds (before ++ [.closing]) rest

@[simp] theorem codeMarkers_append
    (first second : List Line) :
    codeMarkers (first ++ second) = codeMarkers first ++ codeMarkers second := by
  simp [codeMarkers]

theorem codeMarkers_singleton
    (line : Line) :
    codeMarkers [line] =
      if isInert line.text.toList then [] else markers line.text.toList := by
  cases hinert : isInert line.text.toList <;> simp [codeMarkers, hinert]

@[simp] theorem surplus_concat_opening
    (found : List Marker) :
    surplus (found ++ [.opening]) = surplus found - 1 := by
  have hclosing : [Marker.opening].count .closing = 0 := by decide
  have hopening : [Marker.opening].count .opening = 1 := by decide
  simp only [surplus, List.count_append, hclosing, hopening]
  omega

@[simp] theorem surplus_concat_closing
    (found : List Marker) :
    surplus (found ++ [.closing]) = surplus found + 1 := by
  have hclosing : [Marker.closing].count .closing = 1 := by decide
  have hopening : [Marker.closing].count .opening = 0 := by decide
  simp only [surplus, List.count_append, hclosing, hopening]
  omega

theorem surpluses_nil :
    surpluses [] = {0} := by
  ext n
  simp [surpluses, surplus, eq_comm]

theorem surpluses_concat
    (found : List Marker)
    (marker : Marker) :
    surpluses (found ++ [marker]) = insert (surplus (found ++ [marker])) (surpluses found) := by
  ext n
  simp only [surpluses, Set.mem_insert_iff, Set.mem_ofPred_eq, List.prefix_concat_iff]
  constructor
  · rintro ⟨before, rfl | hbefore, rfl⟩
    · exact .inl rfl
    · exact .inr ⟨before, hbefore, rfl⟩
  · rintro (rfl | ⟨before, hbefore, rfl⟩)
    · exact ⟨_, .inl rfl, rfl⟩
    · exact ⟨before, .inr hbefore, rfl⟩

/-! ### The balance of starts and ends -/

/--
The starts that wait behind some markers and the ends among them that had nothing to close: the ends
are the greatest surplus on the way, and what they are ahead of the last surplus are the starts.
-/
structure IsBalance (found : List Marker) (waiting unmatched : Nat) : Prop where
  greatest : IsGreatest (surpluses found) (unmatched : Int)
  waiting_eq : (waiting : Int) = unmatched - surplus found

namespace IsBalance

variable {found : List Marker} {waiting unmatched : Nat}

theorem nil :
    IsBalance [] 0 0 := by
  refine ⟨?_, rfl⟩
  rw [surpluses_nil]
  exact isGreatest_singleton

theorem opening
    (h : IsBalance found waiting unmatched) :
    IsBalance (found ++ [.opening]) (waiting + 1) unmatched := by
  have hwaiting := h.waiting_eq
  refine ⟨?_, by rw [surplus_concat_opening]; omega⟩
  have hgreatest := h.greatest.insert (surplus (found ++ [.opening]))
  rwa [← surpluses_concat, max_eq_right (by rw [surplus_concat_opening]; omega)] at hgreatest

theorem closing
    (h : IsBalance found waiting unmatched)
    (hpos : waiting ≠ 0) :
    IsBalance (found ++ [.closing]) (waiting - 1) unmatched := by
  have hwaiting := h.waiting_eq
  refine ⟨?_, by rw [surplus_concat_closing]; omega⟩
  have hgreatest := h.greatest.insert (surplus (found ++ [.closing]))
  rwa [← surpluses_concat, max_eq_right (by rw [surplus_concat_closing]; omega)] at hgreatest

/-- An end that nothing waits for brings the surplus to a height that it never had. -/
theorem closing_of_waiting_eq_zero
    (h : IsBalance found 0 unmatched) :
    IsBalance (found ++ [.closing]) 0 (unmatched + 1) := by
  have hwaiting := h.waiting_eq
  have hsurplus : surplus (found ++ [.closing]) = (unmatched + 1 : Nat) := by
    rw [surplus_concat_closing]
    omega
  refine ⟨?_, by omega⟩
  have hgreatest := h.greatest.insert (surplus (found ++ [.closing]))
  rwa [← surpluses_concat, max_eq_left (by omega), hsurplus] at hgreatest

/-- An end has nothing to close exactly if no start waits. -/
theorem meetsNothing_iff
    (h : IsBalance found waiting unmatched) :
    MeetsNothing found ↔ waiting = 0 := by
  have hwaiting := h.waiting_eq
  obtain ⟨⟨highest, hinitial, hsurplus⟩, hupper⟩ := h.greatest
  constructor
  · intro hmeets
    have := hmeets highest (List.mem_inits highest found |>.mpr hinitial)
    omega
  · intro hzero before hbefore
    have := hupper ⟨before, (List.mem_inits before found).mp hbefore, rfl⟩
    omega

/-- What the markers of a line do to the balance of starts and ends, under every limit. -/
theorem run
    {scan : LineScan}
    {raised : Nat}
    (limit : Depth)
    (more : List Marker)
    (h : IsBalance found scan.waiting (raised + scan.unmatched)) :
    let after := LineScan.run limit scan more
    IsBalance (found ++ more) after.waiting (raised + after.unmatched) ∧
      after.unmatched = scan.unmatched + unmatchedEnds found more := by
  induction more generalizing found scan with
  | nil =>
      rw [List.append_nil]
      exact ⟨h, rfl⟩
  | cons marker rest ih =>
      have happend : found ++ marker :: rest = found ++ [marker] ++ rest := by simp
      rw [run_cons, happend]
      cases marker with
      | opening =>
          have hstep := h.opening
          rw [← waiting_step_opening limit, ← unmatched_step_opening limit] at hstep
          obtain ⟨hbalance, hcount⟩ := ih hstep
          refine ⟨hbalance, ?_⟩
          rw [hcount, unmatched_step_opening, unmatchedEnds]
      | closing =>
          have hmeets := h.meetsNothing_iff
          by_cases hzero : scan.waiting = 0
          · have hunmatched : (step limit scan .closing).unmatched = scan.unmatched + 1 := by
              rw [unmatched_step_closing, if_pos hzero]
            have hstep : IsBalance (found ++ [.closing]) (step limit scan .closing).waiting
                (raised + (step limit scan .closing).unmatched) := by
              rw [waiting_step_closing, hunmatched, hzero]
              exact (hzero ▸ h).closing_of_waiting_eq_zero
            obtain ⟨hbalance, hcount⟩ := ih hstep
            refine ⟨hbalance, ?_⟩
            rw [hcount, hunmatched, unmatchedEnds, if_pos (hmeets.mpr hzero), Nat.add_assoc]
          · have hunmatched : (step limit scan .closing).unmatched = scan.unmatched := by
              rw [unmatched_step_closing, if_neg hzero]
            have hstep : IsBalance (found ++ [.closing]) (step limit scan .closing).waiting
                (raised + (step limit scan .closing).unmatched) := by
              rw [waiting_step_closing, hunmatched]
              exact h.closing hzero
            obtain ⟨hbalance, hcount⟩ := ih hstep
            refine ⟨hbalance, ?_⟩
            rw [hcount, hunmatched, unmatchedEnds, if_neg (mt hmeets.mp hzero), Nat.zero_add]

end IsBalance

/-! ### Lines -/

/-- Without a limit, all starts that wait are open comments. -/
theorem waiting_scanLine_unlimited
    (depth : Nat)
    (text : List Char) :
    (scanLine .unlimited depth text).waiting = (scanLine .unlimited depth text).depth := by
  have hstart : LineScan.depth ⟨depth, 0, false, 0⟩ =
      Depth.honoured .unlimited (LineScan.waiting ⟨depth, 0, false, 0⟩) := rfl
  exact (depth_run (markers text) hstart).symm

/-- What one line does to the balance of starts and ends. -/
theorem IsBalance.line
    {found : List Marker}
    {depth raised : Nat}
    (line : Line)
    (h : IsBalance found depth raised) :
    IsBalance (found ++ codeMarkers [line]) (depthStep .unlimited depth line)
        (raised + unmatchedOn .unlimited depth line) ∧
      unmatchedOn .unlimited depth line = unmatchedEnds found (codeMarkers [line]) := by
  rw [codeMarkers_singleton, depthStep, unmatchedOn]
  cases hinert : isInert line.text.toList with
  | true => simpa [unmatchedEnds] using h
  | false =>
      have hstart : IsBalance found (LineScan.waiting ⟨depth, 0, false, 0⟩) (raised + 0) := h
      obtain ⟨hbalance, hcount⟩ := hstart.run .unlimited (markers (trim line.text.toList))
      rw [← scanLine_eq_run, waiting_scanLine_unlimited] at hbalance
      rw [← scanLine_eq_run, Nat.zero_add] at hcount
      rw [markers_trim] at hbalance hcount
      exact ⟨hbalance, hcount⟩

theorem depthAfter_concat
    (limit : Depth)
    (depth : Nat)
    (before : List Line)
    (line : Line) :
    depthAfter limit depth (before ++ [line]) =
      depthStep limit (depthAfter limit depth before) line := by
  simp [depthAfter]

/-- What becomes of a line, and of the lines around it. -/
theorem strip_append_cons
    (limit : Depth)
    (before after : List Line)
    (line : Line) :
    let depth := depthAfter limit 0 before
    let behind := stripFrom limit (depthAfter limit 0 (before ++ [line])) after
    strip limit (before ++ line :: after) =
      ⟨(strip limit before).lines
          ++ ((if depth = 0 ∧ IsPlain limit line then [line] else []) ++ behind.lines),
        (strip limit before).warnings
          ++ (List.replicate (unmatchedOn limit depth line) ⟨line.number⟩ ++ behind.warnings)⟩ := by
  intro depth behind
  rw [strip, stripFrom_append, stripFrom_cons_eq, ← depthAfter_concat]
  rfl

/-- The warnings and the open comments after some lines. -/
theorem isBalance_strip
    (lines : List Line) :
    IsBalance (codeMarkers lines) (depthAfter .unlimited 0 lines)
      (strip .unlimited lines).warnings.length := by
  induction lines using List.reverseRecOn with
  | nil => exact .nil
  | append_singleton before line ih =>
      rw [codeMarkers_append, depthAfter_concat, strip_append_cons]
      simpa using (ih.line line).1

/-- Without a limit, only lines without markers are plain. -/
theorem isPlain_unlimited_iff
    {line : Line} :
    IsPlain .unlimited line ↔
      isInert line.text.toList = false ∧ markers line.text.toList = [] :=
  isPlain_iff_of_allows rfl

/--
Stripping without a limit in closed form, at any line. The warnings up to it are as many as the ends
before it are ahead of the starts at their best, and the open comments are the starts less the ends
and these warnings. The line is kept exactly if it is neither blank nor a line comment, has no
marker and no comment is open before it; otherwise it raises one warning, with its own number, for
each of its ends that has nothing to close.
-/
theorem strip_unlimited_append_cons
    (before after : List Line)
    (line : Line) :
    let found := codeMarkers before
    let upTo := strip .unlimited before
    let depth := depthAfter .unlimited 0 before
    let behind := stripFrom .unlimited (depthAfter .unlimited 0 (before ++ [line])) after
    IsGreatest {n : Int | ∃ first, first <+: found ∧
        (first.count .closing : Int) - first.count .opening = n} upTo.warnings.length ∧
    (depth : Int) = found.count .opening - found.count .closing + upTo.warnings.length ∧
    strip .unlimited (before ++ line :: after) =
      if isInert line.text.toList = false ∧ markers line.text.toList = [] ∧ depth = 0 then
        ⟨upTo.lines ++ line :: behind.lines, upTo.warnings ++ behind.warnings⟩
      else
        ⟨upTo.lines ++ behind.lines,
          upTo.warnings
            ++ List.replicate (unmatchedEnds found (codeMarkers [line])) ⟨line.number⟩
            ++ behind.warnings⟩ := by
  intro found upTo depth behind
  have hbalance : IsBalance found depth upTo.warnings.length := isBalance_strip before
  have hdepth := hbalance.waiting_eq
  rw [surplus] at hdepth
  refine ⟨hbalance.greatest, by omega, ?_⟩
  rw [strip_append_cons, (hbalance.line line).2]
  by_cases hkept :
      isInert line.text.toList = false ∧ markers line.text.toList = [] ∧ depth = 0
  · obtain ⟨hinert, hmarkers, hzero⟩ := hkept
    have hnone : unmatchedEnds found (codeMarkers [line]) = 0 := by
      rw [codeMarkers_singleton, hinert, hmarkers]
      rfl
    rw [if_pos ⟨hzero, isPlain_unlimited_iff.mpr ⟨hinert, hmarkers⟩⟩, hnone,
      if_pos ⟨hinert, hmarkers, hzero⟩]
    rfl
  · have hnot : ¬ (depth = 0 ∧ IsPlain .unlimited line) := fun ⟨hzero, hplain⟩ =>
      hkept ⟨hplain.not_inert, (isPlain_unlimited_iff.mp hplain).2, hzero⟩
    rw [if_neg hnot, if_neg hkept, List.nil_append, List.append_assoc]

end Comment
end StringsAudit
