import StringsAudit.Proofs.Comment.LineScan

/-!
# Starts that wait for an end

A start past the limit opens no comment, but an end behind it on its line pairs with it first. So
within a line the starts that wait for an end, honoured or not, rise and fall in the same way under
every limit, and so do the ends that nothing waits for. The limit only says how many of the waiting
starts are open comments: as many as it honours.

## Main definitions

* `LineScan.waiting` : the starts that wait for an end.
* `Depth.honoured` : how many of some waiting starts are open comments.

## Main results

* `LineScan.waiting_step_opening`, `LineScan.waiting_step_closing` : what a marker does to the
  starts that wait, under every limit.
* `LineScan.depth_run` : the open comments are the waiting starts that the limit honours.
-/

namespace StringsAudit
namespace Comment

/-- How many of some starts that wait for an end are open comments. -/
def Depth.honoured : Depth → Nat → Nat
  | .unlimited, waiting => waiting
  | .limited max, waiting => min waiting max

namespace LineScan

variable {limit : Depth} {scan : LineScan}

/-- The starts that wait for an end, within the limit or past it. -/
def waiting (scan : LineScan) : Nat :=
  scan.depth + scan.ignored

@[simp] theorem waiting_step_opening
    (limit : Depth)
    (scan : LineScan) :
    (step limit scan .opening).waiting = scan.waiting + 1 := by
  simp only [step, waiting]
  split <;> dsimp only <;> omega

@[simp] theorem waiting_step_closing
    (limit : Depth)
    (scan : LineScan) :
    (step limit scan .closing).waiting = scan.waiting - 1 := by
  simp only [step, waiting]
  split
  next => dsimp only; omega
  next => split <;> dsimp only <;> omega

@[simp] theorem unmatched_step_opening
    (limit : Depth)
    (scan : LineScan) :
    (step limit scan .opening).unmatched = scan.unmatched := by
  simp only [step]
  split <;> rfl

@[simp] theorem unmatched_step_closing
    (limit : Depth)
    (scan : LineScan) :
    (step limit scan .closing).unmatched =
      if scan.waiting = 0 then scan.unmatched + 1 else scan.unmatched := by
  have hwaiting : scan.waiting = scan.depth + scan.ignored := rfl
  rcases step_cases limit scan .closing with
    ⟨hmarker, -, -⟩ | ⟨hmarker, -, -⟩ | ⟨-, hignored, heq⟩ | ⟨-, -, hdepth, heq⟩ |
      ⟨-, hignored, hdepth, heq⟩
  · cases hmarker
  · cases hmarker
  · rw [heq, if_neg (by omega)]
  · rw [heq, if_neg (by omega)]
  · rw [heq, if_pos (by omega)]

/-- A marker keeps the open comments at as many of the waiting starts as the limit honours. -/
theorem depth_step
    (marker : Marker)
    (h : scan.depth = limit.honoured scan.waiting) :
    (step limit scan marker).depth = limit.honoured (step limit scan marker).waiting := by
  have hwaiting : scan.waiting = scan.depth + scan.ignored := rfl
  rw [hwaiting] at h
  rcases step_cases limit scan marker with
    ⟨-, hallows, heq⟩ | ⟨-, hdenied, heq⟩ | ⟨-, hignored, heq⟩ | ⟨-, hignored, hdepth, heq⟩ |
      ⟨-, hignored, hdepth, heq⟩ <;>
    rw [heq, waiting] <;>
    cases limit with
    | unlimited => grind [Depth.honoured, Depth.allows]
    | limited max => grind [Depth.honoured, Depth.allows]

/-- The open comments are the waiting starts that the limit honours. -/
theorem depth_run
    (found : List Marker)
    (h : scan.depth = limit.honoured scan.waiting) :
    (run limit scan found).depth = limit.honoured (run limit scan found).waiting := by
  induction found generalizing scan with
  | nil => exact h
  | cons marker rest ih => exact ih (depth_step marker h)

end LineScan
end Comment
end StringsAudit
