import Mathlib.Data.List.Basic
import StringsAudit.Proofs.Comment.Stripping

/-!
# A limit that is not reached

The limit has a say only where a start would open one comment more than it honours. As long as the
run without a limit does not go deeper than that, the run under the limit does the same at every
marker; and no run goes deeper than its own limit.

## Main definitions

* `LineScan.depths` : the depths that the scan of a line goes through.
* `depths` : the depths that stripping goes through.

## Main results

* `LineScan.step_limited_eq` : a marker does the same under a limit that it does not exceed.
* `LineScan.depth_step_le` : a marker does not lead past the limit.
* `strip_limited_of_depths_le` : a limit that is not reached changes nothing, and none is passed.
-/

namespace StringsAudit
namespace Comment

open Text LineScan

/-- The depths that a scan goes through, before its first marker and behind each of its markers. -/
def LineScan.depths (limit : Depth) (scan : LineScan) (found : List Marker) : List Nat :=
  (found.scanl (step limit) scan).map (·.depth)

/-- The depths that stripping goes through, at every marker and at the end. -/
def depthsFrom (limit : Depth) : Nat → List Line → List Nat
  | depth, [] => [depth]
  | depth, line :: rest =>
      if isInert line.text.toList then depthsFrom limit depth rest
      else
        LineScan.depths limit ⟨depth, 0, false, 0⟩ (markers (trim line.text.toList))
          ++ depthsFrom limit (scanLine limit depth (trim line.text.toList)).depth rest

/-- The depths that stripping goes through. -/
def depths (limit : Depth) (lines : List Line) : List Nat :=
  depthsFrom limit 0 lines

variable {max : Nat}

/-! ### One line -/

namespace LineScan

variable {limit : Depth} {scan : LineScan}

@[simp] theorem depths_nil :
    depths limit scan [] = [scan.depth] := by
  rfl

@[simp] theorem depths_cons
    (marker : Marker)
    (rest : List Marker) :
    depths limit scan (marker :: rest) =
      scan.depth :: depths limit (step limit scan marker) rest := by
  rw [depths, List.scanl_cons, List.map_cons, depths]

theorem depth_mem_depths
    (found : List Marker) :
    scan.depth ∈ depths limit scan found := by
  cases found with
  | nil => exact List.mem_cons_self
  | cons marker rest =>
      rw [depths_cons]
      exact List.mem_cons_self

theorem depth_run_mem_depths
    (found : List Marker) :
    (run limit scan found).depth ∈ depths limit scan found := by
  induction found generalizing scan with
  | nil => exact List.mem_cons_self
  | cons marker rest ih =>
      rw [depths_cons]
      exact List.mem_cons_of_mem _ ih

/-- A marker does the same under a limit that it does not exceed. -/
theorem step_limited_eq
    {marker : Marker}
    (h : (step .unlimited scan marker).depth ≤ max) :
    step (.limited max) scan marker = step .unlimited scan marker := by
  cases marker with
  | opening =>
      have hdepth : scan.depth + 1 ≤ max := h
      have hallows : (Depth.limited max).allows scan.depth = true := decide_eq_true hdepth
      rw [step, if_pos hallows]
      rfl
  | closing => rfl

theorem run_limited_eq
    {found : List Marker}
    (h : ∀ depth ∈ depths .unlimited scan found, depth ≤ max) :
    run (.limited max) scan found = run .unlimited scan found := by
  induction found generalizing scan with
  | nil => rfl
  | cons marker rest ih =>
      rw [depths_cons, List.forall_mem_cons] at h
      have hstep := step_limited_eq (h.2 _ (depth_mem_depths rest))
      rw [run_cons, run_cons, hstep, ih h.2]

/-- A marker does not lead past the limit. -/
theorem depth_step_le
    (marker : Marker)
    (h : scan.depth ≤ max) :
    (step (.limited max) scan marker).depth ≤ max := by
  rcases step_cases (.limited max) scan marker with
    ⟨-, hallows, heq⟩ | ⟨-, -, heq⟩ | ⟨-, -, heq⟩ | ⟨-, -, -, heq⟩ | ⟨-, -, -, heq⟩
  · rw [heq]
    exact of_decide_eq_true hallows
  · rwa [heq]
  · rwa [heq]
  · rw [heq]
    exact (Nat.sub_le scan.depth 1).trans h
  · rwa [heq]

theorem depths_limited_le
    (found : List Marker)
    (h : scan.depth ≤ max) :
    ∀ depth ∈ depths (.limited max) scan found, depth ≤ max := by
  induction found generalizing scan with
  | nil => simpa using h
  | cons marker rest ih =>
      rw [depths_cons, List.forall_mem_cons]
      exact ⟨h, ih (depth_step_le marker h)⟩

end LineScan

/-! ### All lines -/

theorem stripFrom_limited_eq
    {lines : List Line}
    {depth : Nat}
    (h : ∀ other ∈ depthsFrom .unlimited depth lines, other ≤ max) :
    stripFrom (.limited max) depth lines = stripFrom .unlimited depth lines := by
  induction lines generalizing depth with
  | nil => rfl
  | cons line rest ih =>
      rw [depthsFrom] at h
      by_cases hinert : isInert line.text.toList = true
      · rw [if_pos hinert] at h
        rw [stripFrom_cons_of_isInert _ hinert, stripFrom_cons_of_isInert _ hinert, ih h]
      · rw [if_neg hinert, List.forall_mem_append] at h
        rw [Bool.not_eq_true] at hinert
        have hscan : scanLine (.limited max) depth (trim line.text.toList) =
            scanLine .unlimited depth (trim line.text.toList) := run_limited_eq h.1
        rw [stripFrom_cons _ hinert, stripFrom_cons _ hinert, hscan]
        dsimp only
        rw [ih h.2]

theorem depthsFrom_limited_le
    {depth : Nat}
    (lines : List Line)
    (h : depth ≤ max) :
    ∀ other ∈ depthsFrom (.limited max) depth lines, other ≤ max := by
  induction lines generalizing depth with
  | nil => simpa [depthsFrom] using h
  | cons line rest ih =>
      rw [depthsFrom]
      split
      next => exact ih h
      next =>
        have hstart : LineScan.depth ⟨depth, 0, false, 0⟩ ≤ max := h
        have hline := depths_limited_le (markers (trim line.text.toList)) hstart
        have hbehind : (scanLine (.limited max) depth (trim line.text.toList)).depth ≤ max :=
          hline _ (depth_run_mem_depths _)
        rw [List.forall_mem_append]
        exact ⟨hline, ih hbehind⟩

/--
A limit that is never passed without it changes nothing: the same lines are kept, and the same
warnings are raised. Under a limit, stripping never goes deeper than the limit.
-/
theorem strip_limited_of_depths_le
    (lines : List Line)
    (max : Nat) :
    ((∀ depth ∈ depths .unlimited lines, depth ≤ max) →
      strip (.limited max) lines = strip .unlimited lines) ∧
    ∀ depth ∈ depths (.limited max) lines, depth ≤ max :=
  ⟨fun h => stripFrom_limited_eq h, depthsFrom_limited_le lines (Nat.zero_le max)⟩

/-- A comment in a comment is within a limit of two, and an end too many is seen alike. -/
theorem strip_limited_of_nested :
    let lines : List Line :=
      [⟨1, "/* outer /* inner"⟩, ⟨2, "*/ hidden"⟩, ⟨3, "*/"⟩, ⟨4, "visible"⟩, ⟨5, "*/"⟩]
    (∀ depth ∈ depths .unlimited lines, depth ≤ 2) ∧
      strip .unlimited lines = ⟨[⟨4, "visible"⟩], [⟨5⟩]⟩ ∧
      strip (.limited 2) lines = strip .unlimited lines ∧
      ∀ depth ∈ depths (.limited 2) lines, depth ≤ 2 := by
  intro lines
  have hdepths : ∀ depth ∈ depths .unlimited lines, depth ≤ 2 := by decide +kernel
  obtain ⟨hsame, hwithin⟩ := strip_limited_of_depths_le lines 2
  exact ⟨hdepths, by decide +kernel, hsame hdepths, hwithin⟩

end Comment
end StringsAudit
