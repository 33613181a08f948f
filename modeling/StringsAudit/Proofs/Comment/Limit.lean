import StringsAudit.Proofs.Comment.Stripping
import StringsAudit.Proofs.Comment.Waiting

/-!
# Stripping under two limits

A greater limit honours more starts, so it has more comments open and hides more lines; and as more
starts are left for the ends on later lines, fewer ends are unmatched. Within a line the two runs
see the same markers from different numbers of waiting starts, and the order of these numbers lasts.
At the end of a line each run keeps as many of them as its limit honours, which keeps that order
too.

## Main definitions

* `Depth.le` : the order of limits; no limit is the greatest.
* `LineScan.Covers` : more waiting starts and fewer unmatched ends.

## Main results

* `LineScan.Covers.run` : what holds between two scans of a line to its end.
* `depthStep_le`, `unmatchedOn_le` : what one line does under two limits.
* `IsPlain.of_le` : a line that a greater limit keeps is kept by a smaller one.
* `strip_sublist_of_le` : a greater limit keeps fewer lines and raises fewer warnings.
-/

namespace StringsAudit
namespace Comment

open Text LineScan

/-- Limits are ordered by what they honour; no limit is the greatest of them. -/
def Depth.le : Depth → Depth → Prop
  | _, .unlimited => True
  | .unlimited, .limited _ => False
  | .limited first, .limited second => first ≤ second

instance : LE Depth :=
  ⟨Depth.le⟩

theorem Depth.honoured_le_honoured
    {lower upper : Depth}
    {first second : Nat}
    (hlimits : lower ≤ upper)
    (h : first ≤ second) :
    lower.honoured first ≤ upper.honoured second := by
  cases lower with
  | unlimited =>
      cases upper with
      | unlimited => exact h
      | limited max => exact hlimits.elim
  | limited least =>
      cases upper with
      | unlimited => exact (Nat.min_le_left first least).trans h
      | limited max =>
          have hmax : least ≤ max := hlimits
          simp only [honoured]
          omega

@[simp] theorem Depth.honoured_honoured
    (limit : Depth)
    (waiting : Nat) :
    limit.honoured (limit.honoured waiting) = limit.honoured waiting := by
  cases limit with
  | unlimited => rfl
  | limited max => simp [honoured]

@[simp] theorem Depth.honoured_zero
    (limit : Depth) :
    limit.honoured 0 = 0 := by
  cases limit with
  | unlimited => rfl
  | limited max => simp [honoured]

/-- Below a limit that honours nothing there is only that limit. -/
theorem Depth.eq_of_le_of_denied
    {lower upper : Depth}
    (hlimits : lower ≤ upper)
    (hdenied : upper.allows 0 = false) :
    lower = upper := by
  cases upper with
  | unlimited => cases hdenied
  | limited max =>
      have hmax : max = 0 := by simpa [allows] using hdenied
      cases lower with
      | unlimited => exact hlimits.elim
      | limited least =>
          have hleast : least ≤ max := hlimits
          rw [show least = max by omega]

/-! ### One line -/

/-- More waiting starts and fewer unmatched ends. -/
structure LineScan.Covers (scan other : LineScan) : Prop where
  waiting_le : other.waiting ≤ scan.waiting
  unmatched_le : scan.unmatched ≤ other.unmatched

/-- A marker does the same to the waiting starts under every limit, so their order lasts. -/
theorem LineScan.Covers.step
    {scan other : LineScan}
    (h : scan.Covers other)
    (limit otherLimit : Depth)
    (marker : Marker) :
    (step limit scan marker).Covers (step otherLimit other marker) := by
  obtain ⟨hwaiting, hunmatched⟩ := h
  cases marker with
  | opening =>
      refine ⟨?_, ?_⟩
      · simpa using hwaiting
      · simpa using hunmatched
  | closing =>
      refine ⟨?_, ?_⟩
      · simp only [waiting_step_closing]
        omega
      · -- an end that nothing waits for in the greater run meets nothing in the other one either
        simp only [unmatched_step_closing]
        split <;> split <;> omega

theorem LineScan.Covers.run
    {scan other : LineScan}
    (h : scan.Covers other)
    (limit otherLimit : Depth)
    (found : List Marker) :
    (run limit scan found).Covers (run otherLimit other found) := by
  induction found generalizing scan other with
  | nil => exact h
  | cons marker rest ih => exact ih (h.step limit otherLimit marker)

theorem covers_scanLine
    {first second : Nat}
    (lower upper : Depth)
    (text : List Char)
    (h : first ≤ second) :
    (scanLine upper second text).Covers (scanLine lower first text) := by
  have hstart : LineScan.Covers ⟨second, 0, false, 0⟩ ⟨first, 0, false, 0⟩ :=
    ⟨h, Nat.le_refl 0⟩
  exact hstart.run upper lower (markers text)

theorem depth_scanLine
    {limit : Depth}
    {depth : Nat}
    (text : List Char)
    (h : limit.honoured depth = depth) :
    (scanLine limit depth text).depth = limit.honoured (scanLine limit depth text).waiting := by
  rw [scanLine_eq_run]
  exact depth_run _ h.symm

variable {lower upper : Depth} {first second : Nat}

/-- Between lines, a limit keeps no more comments open than it honours. -/
theorem honoured_depthStep
    {limit : Depth}
    {depth : Nat}
    (line : Line)
    (h : limit.honoured depth = depth) :
    limit.honoured (depthStep limit depth line) = depthStep limit depth line := by
  rw [depthStep]
  split
  next => exact h
  next => rw [depth_scanLine _ h, Depth.honoured_honoured]

/-- Under a greater limit, a line leaves no fewer comments open. -/
theorem depthStep_le
    (line : Line)
    (hlimits : lower ≤ upper)
    (hlower : lower.honoured first = first)
    (hupper : upper.honoured second = second)
    (h : first ≤ second) :
    depthStep lower first line ≤ depthStep upper second line := by
  rw [depthStep, depthStep]
  split
  next => exact h
  next =>
    rw [depth_scanLine _ hlower, depth_scanLine _ hupper]
    exact Depth.honoured_le_honoured hlimits (covers_scanLine lower upper _ h).waiting_le

/-- With more comments open, a line has no more unmatched ends. -/
theorem unmatchedOn_le
    (lower upper : Depth)
    (line : Line)
    (h : first ≤ second) :
    unmatchedOn upper second line ≤ unmatchedOn lower first line := by
  rw [unmatchedOn, unmatchedOn]
  split
  next => exact Nat.le_refl 0
  next => exact (covers_scanLine lower upper _ h).unmatched_le

/-- A line that a greater limit keeps is kept by a smaller one. -/
theorem IsPlain.of_le
    {line : Line}
    (h : IsPlain upper line)
    (hlimits : lower ≤ upper) :
    IsPlain lower line := by
  by_cases hallows : upper.allows 0 = true
  · -- only a line without markers is kept where a comment can be opened
    obtain ⟨hinert, hmarkers⟩ := (isPlain_iff_of_allows hallows).mp h
    exact isPlain_of_markers_eq_nil lower hinert (by rw [markers_trim, hmarkers])
  · rw [Bool.not_eq_true] at hallows
    rw [Depth.eq_of_le_of_denied hlimits hallows]
    exact h

/-! ### All lines -/

/-- With more comments open under a greater limit, fewer lines are kept and fewer ends unmatched. -/
theorem stripFrom_sublist
    (lines : List Line)
    (hlimits : lower ≤ upper)
    (hlower : lower.honoured first = first)
    (hupper : upper.honoured second = second)
    (h : first ≤ second) :
    (stripFrom upper second lines).lines.Sublist (stripFrom lower first lines).lines ∧
      (stripFrom upper second lines).warnings.Sublist (stripFrom lower first lines).warnings := by
  induction lines generalizing first second with
  | nil => exact ⟨.slnil, .slnil⟩
  | cons line rest ih =>
      obtain ⟨hlines, hwarnings⟩ := ih (honoured_depthStep line hlower)
        (honoured_depthStep line hupper) (depthStep_le line hlimits hlower hupper h)
      rw [stripFrom_cons_eq, stripFrom_cons_eq]
      refine ⟨List.Sublist.append ?_ hlines, List.Sublist.append ?_ hwarnings⟩
      · by_cases hkept : second = 0 ∧ IsPlain upper line
        · obtain ⟨hzero, hplain⟩ := hkept
          have hkeptBelow : first = 0 ∧ IsPlain lower line := ⟨by omega, hplain.of_le hlimits⟩
          simp only [if_pos (And.intro hzero hplain), if_pos hkeptBelow, List.Sublist.refl]
        · rw [if_neg hkept]
          exact List.nil_sublist _
      · exact (List.replicate_sublist_replicate _).mpr (unmatchedOn_le lower upper line h)

/--
A greater limit only hides more: of the lines that a smaller limit keeps it keeps some, in the same
order, and of the warnings that a smaller limit raises it raises some.
-/
theorem strip_sublist_of_le
    (lines : List Line)
    (hlimits : lower ≤ upper) :
    (strip upper lines).lines.Sublist (strip lower lines).lines ∧
      (strip upper lines).warnings.Sublist (strip lower lines).warnings :=
  stripFrom_sublist lines hlimits lower.honoured_zero upper.honoured_zero (Nat.le_refl 0)

/-- Where only one comment can be open, the first end closes it and the second one is unmatched. -/
theorem strip_sublist_of_nested :
    let lines : List Line :=
      [⟨1, "/* outer"⟩, ⟨2, "/* inner"⟩, ⟨3, "*/"⟩, ⟨4, "visible"⟩, ⟨5, "*/"⟩, ⟨6, "also visible"⟩]
    Depth.limited 1 ≤ .unlimited ∧
      strip .unlimited lines = ⟨[⟨6, "also visible"⟩], []⟩ ∧
      strip (.limited 1) lines = ⟨[⟨4, "visible"⟩, ⟨6, "also visible"⟩], [⟨5⟩]⟩ ∧
      (strip .unlimited lines).lines.Sublist (strip (.limited 1) lines).lines ∧
      (strip .unlimited lines).warnings.Sublist (strip (.limited 1) lines).warnings :=
  ⟨trivial, by decide +kernel, by decide +kernel, strip_sublist_of_le _ trivial⟩

end Comment
end StringsAudit
