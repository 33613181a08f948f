import StringsAudit.Proofs.Comment.Marker

/-!
# The scan of one line

A scan walks over the markers of a line with a state that holds the open comments, the starts past
the limit, and what the line did. A step either leaves all but the starts past the limit alone, or
marks the line as touched for good; so an untouched scan has changed nothing.

## Main results

* `LineScan.step_cases` : the four things that a marker can do.
* `LineScan.run_of_untouched` : an untouched scan leaves the depth and the unmatched ends as
  they were.
* `LineScan.isClear_run_iff` : a line has no part in a comment exactly if it starts outside of
  comments and its scan stays untouched.
-/

namespace StringsAudit
namespace Comment
namespace LineScan

variable {limit : Depth} {scan : LineScan}

def run (limit : Depth) (scan : LineScan) (found : List Marker) : LineScan :=
  found.foldl (step limit) scan

@[simp] theorem run_nil :
    run limit scan [] = scan := by
  rfl

@[simp] theorem run_cons
    (marker : Marker)
    (found : List Marker) :
    run limit scan (marker :: found) = run limit (step limit scan marker) found := by
  rfl

@[simp] theorem run_append
    (before after : List Marker) :
    run limit scan (before ++ after) = run limit (run limit scan before) after := by
  simp [run]

/-- The four things that a marker can do. -/
theorem step_cases
    (limit : Depth)
    (scan : LineScan)
    (marker : Marker) :
    (marker = .opening ∧ limit.allows scan.depth = true ∧
      step limit scan marker = { scan with depth := scan.depth + 1, touched := true }) ∨
    (marker = .opening ∧ limit.allows scan.depth = false ∧
      step limit scan marker = { scan with ignored := scan.ignored + 1 }) ∨
    (marker = .closing ∧ 0 < scan.ignored ∧
      step limit scan marker = { scan with ignored := scan.ignored - 1 }) ∨
    (marker = .closing ∧ scan.ignored = 0 ∧ 0 < scan.depth ∧
      step limit scan marker = { scan with depth := scan.depth - 1, touched := true }) ∨
    (marker = .closing ∧ scan.ignored = 0 ∧ scan.depth = 0 ∧
      step limit scan marker = { scan with unmatched := scan.unmatched + 1, touched := true }) := by
  cases marker with
  | opening =>
      by_cases hallows : limit.allows scan.depth = true
      · exact .inl ⟨rfl, hallows, by simp [step, hallows]⟩
      · exact .inr (.inl ⟨rfl, by simpa using hallows, by simp [step, hallows]⟩)
  | closing =>
      rcases Nat.eq_zero_or_pos scan.ignored with hignored | hignored
      · rcases Nat.eq_zero_or_pos scan.depth with hdepth | hdepth
        · exact .inr (.inr (.inr (.inr ⟨rfl, hignored, hdepth, by simp [step, hignored, hdepth]⟩)))
        · exact .inr (.inr (.inr (.inl ⟨rfl, hignored, hdepth, by simp [step, hignored, hdepth]⟩)))
      · exact .inr (.inr (.inl ⟨rfl, hignored, by simp [step, hignored]⟩))

/-- A marker that does not touch the line leaves the open comments alone. -/
theorem step_of_untouched
    {marker : Marker}
    (h : (step limit scan marker).touched = false) :
    scan.touched = false ∧
      (step limit scan marker).depth = scan.depth ∧
      (step limit scan marker).unmatched = scan.unmatched := by
  rcases step_cases limit scan marker with
    ⟨-, -, heq⟩ | ⟨-, -, heq⟩ | ⟨-, -, heq⟩ | ⟨-, -, -, heq⟩ | ⟨-, -, -, heq⟩ <;>
    rw [heq] at h ⊢ <;>
    simp_all

/-- An untouched scan leaves the depth and the unmatched ends as they were. -/
theorem run_of_untouched
    {found : List Marker}
    (h : (run limit scan found).touched = false) :
    scan.touched = false ∧
      (run limit scan found).depth = scan.depth ∧
      (run limit scan found).unmatched = scan.unmatched := by
  induction found generalizing scan with
  | nil => exact ⟨h, rfl, rfl⟩
  | cons marker rest ih =>
      obtain ⟨htouched, hdepth, hunmatched⟩ := ih h
      obtain ⟨htouched', hdepth', hunmatched'⟩ := step_of_untouched htouched
      exact ⟨htouched', hdepth.trans hdepth', hunmatched.trans hunmatched'⟩

/-- While a comment can still be opened, every marker touches the line. -/
theorem run_untouched_iff_of_allows
    {found : List Marker}
    (hallows : limit.allows scan.depth = true)
    (hignored : scan.ignored = 0)
    (htouched : scan.touched = false) :
    (run limit scan found).touched = false ↔ found = [] := by
  constructor
  · intro h
    cases found with
    | nil => rfl
    | cons marker rest =>
        have hstep : (step limit scan marker).touched = false :=
          (run_of_untouched (run_cons marker rest ▸ h)).1
        rcases step_cases limit scan marker with
          ⟨-, -, heq⟩ | ⟨-, hdenied, -⟩ | ⟨-, hpos, -⟩ | ⟨-, -, -, heq⟩ | ⟨-, -, -, heq⟩
        · simp [heq] at hstep
        · simp [hallows] at hdenied
        · omega
        · simp [heq] at hstep
        · simp [heq] at hstep
  · rintro rfl
    exact htouched

/-- At the limit, a line stays untouched as long as each end has a start before it. -/
theorem run_untouched_iff_of_denied
    {found : List Marker}
    (hdenied : limit.allows scan.depth = false)
    (htouched : scan.touched = false) :
    (run limit scan found).touched = false ↔
      ∀ before, before <+: found →
        before.count .closing ≤ scan.ignored + before.count .opening := by
  induction found generalizing scan with
  | nil => simp [htouched]
  | cons marker rest ih =>
      have hinitial :
          (∀ before, before <+: marker :: rest →
            before.count .closing ≤ scan.ignored + before.count .opening) ↔
          ∀ before, before <+: rest →
            (marker :: before).count .closing ≤
              scan.ignored + (marker :: before).count .opening := by
        constructor
        · intro h before hbefore
          exact h _ (List.cons_prefix_cons.mpr ⟨rfl, hbefore⟩)
        · intro h before hbefore
          cases before with
          | nil => simp
          | cons first before =>
              obtain ⟨rfl, hrest⟩ := List.cons_prefix_cons.mp hbefore
              exact h before hrest
      have hcounted (ignored : Nat) :
          (run limit { scan with ignored := ignored } rest).touched = false ↔
            ∀ before, before <+: rest →
              before.count .closing ≤ ignored + before.count .opening :=
        @ih { scan with ignored := ignored } hdenied htouched
      rw [hinitial, run_cons]
      rcases step_cases limit scan marker with
        ⟨-, hallows, -⟩ | ⟨rfl, -, heq⟩ | ⟨rfl, hpos, heq⟩ | ⟨rfl, hzero, -, heq⟩ |
        ⟨rfl, hzero, -, heq⟩
      · simp [hdenied] at hallows
      · rw [heq, hcounted]
        refine forall₂_congr fun before _ => ?_
        simp only [List.count_cons]
        grind
      · rw [heq, hcounted]
        refine forall₂_congr fun before _ => ?_
        simp only [List.count_cons]
        grind
      all_goals
        -- an end without a start touches the line for good, and it is too many by itself
        refine iff_of_false ?_ ?_
        · intro h
          obtain ⟨hstep, -, -⟩ := run_of_untouched h
          simp [heq] at hstep
        · intro h
          simpa [hzero] using h [] (List.nil_prefix)

/-- A line has no part in a comment exactly if it starts outside of comments and stays untouched. -/
theorem isClear_run_iff
    {depth : Nat}
    {found : List Marker} :
    (run limit ⟨depth, 0, false, 0⟩ found).isClear depth = true ↔
      depth = 0 ∧ (run limit ⟨depth, 0, false, 0⟩ found).touched = false := by
  constructor
  · intro h
    simp only [isClear, Bool.and_eq_true, beq_iff_eq, Bool.not_eq_true'] at h
    exact ⟨h.1.1, h.1.2⟩
  · rintro ⟨rfl, h⟩
    obtain ⟨-, hdepth, -⟩ := run_of_untouched h
    simp [isClear, h, hdepth]

end LineScan
end Comment
end StringsAudit
