import StringsAudit.Proofs.Assignments
import StringsAudit.Proofs.Line.Number
import StringsAudit.Proofs.StringsFile.EntryLine

/-!
# What the lines of a file leave in its database

A line outside of comments is read by itself, so what it says does not depend on the lines around
it. The entries and the counts of a database are kept side by side while its lines are read; both
are determined by the lines that are assignments, a line at a time.

## Main definitions

* `Assigns` : a line that by itself is an assignment to a key.

## Main results

* `assignments_eq_append_cons_iff` : the last assignment of a key stands on the last line that
  assigns it.
* `database_parse` : counts and entries of a file in terms of its physical lines.
-/

namespace StringsAudit
namespace StringsFile

open Comment

/-- A line that by itself is an assignment to a key. -/
def Assigns (key : String) (line : Line) : Prop :=
  (assignments [line]).map (·.key) = [key]

instance (key : String) (line : Line) : Decidable (Assigns key line) :=
  inferInstanceAs (Decidable (_ = _))

theorem assignments_cons
    (line : Line)
    (rest : List Line) :
    assignments (line :: rest) = assignments [line] ++ assignments rest :=
  assignments_append [line] rest

/-- A line by itself is one assignment or none. -/
theorem assignments_singleton_cases
    (line : Line) :
    (∃ assignment, assignments [line] = [assignment]) ∨ assignments [line] = [] := by
  cases hread : readLine line with
  | nothing => exact .inr (by simp [assignments, hread])
  | assignment assignment => exact .inl ⟨assignment, by simp [assignments, hread]⟩
  | malformed warning => exact .inr (by simp [assignments, hread])

theorem assignments_singleton_eq_iff
    {line : Line}
    {assignment : Assignment} :
    assignments [line] = [assignment] ↔ readLine line = .assignment assignment := by
  cases hread : readLine line <;> simp [assignments, hread]

/-- An assignment carries the number of its line. -/
theorem line_of_readLine_eq
    {line : Line}
    {assignment : Assignment}
    (h : readLine line = .assignment assignment) :
    assignment.entry.line = line.number := by
  obtain ⟨-, -, hassignment⟩ := readLine_eq_assignment_iff.mp h
  simp only [assignment?] at hassignment
  split at hassignment
  next => rw [← Option.some.inj hassignment]
  next => exact absurd hassignment (by simp)

/-- A key is assigned as often as lines assign it. -/
theorem timesAssigned_assignments
    (lines : List Line)
    (key : String) :
    Database.timesAssigned (assignments lines) key = lines.countP fun line => Assigns key line := by
  induction lines with
  | nil => rfl
  | cons line rest ih =>
      rw [assignments_cons, Database.timesAssigned, List.map_append, List.count_append,
        List.countP_cons, ← ih, Database.timesAssigned, Nat.add_comm]
      rcases assignments_singleton_cases line with ⟨assignment, heq⟩ | heq
      · simp [Assigns, heq, List.count_singleton]
      · simp [Assigns, heq]

/-- There are as many assignments as lines that are one. -/
theorem length_assignments
    (lines : List Line) :
    (assignments lines).length = lines.countP fun line => assignments [line] ≠ [] := by
  induction lines with
  | nil => rfl
  | cons line rest ih =>
      rw [assignments_cons, List.length_append, ih, List.countP_cons, Nat.add_comm]
      rcases assignments_singleton_cases line with ⟨assignment, heq⟩ | heq <;>
        simp [heq]

theorem assigns_iff
    {key : String}
    {line : Line} :
    Assigns key line ↔
      ∃ assignment, readLine line = .assignment assignment ∧ assignment.key = key := by
  cases hread : readLine line <;> simp [Assigns, assignments, hread]

theorem mem_assignments_iff
    {lines : List Line}
    {assignment : Assignment} :
    assignment ∈ assignments lines ↔ ∃ line ∈ lines, readLine line = .assignment assignment := by
  rw [assignments, List.mem_filterMap]
  refine exists_congr fun line => and_congr_right fun _ => ?_
  cases hread : readLine line <;> simp

theorem mem_warnings_iff
    {lines : List Line}
    {warning : Warning} :
    warning ∈ warnings lines ↔ ∃ line ∈ lines, readLine line = .malformed warning := by
  rw [warnings, List.mem_filterMap]
  refine exists_congr fun line => and_congr_right fun _ => ?_
  cases hread : readLine line <;> simp

/-- No assignment of some lines is one to a key exactly if none of the lines assigns it. -/
theorem forall_assignments_ne_iff
    {lines : List Line}
    {key : String} :
    (∀ assignment ∈ assignments lines, assignment.key ≠ key) ↔
      ∀ line ∈ lines, ¬ Assigns key line := by
  simp only [mem_assignments_iff, assigns_iff]
  constructor
  · rintro h line hline ⟨assignment, hassignment, hkey⟩
    exact h assignment ⟨line, hline, hassignment⟩ hkey
  · rintro h assignment ⟨line, hline, hassignment⟩ hkey
    exact h line hline ⟨assignment, hassignment, hkey⟩

/-- The last assignment of a key stands on the last line that assigns it. -/
theorem assignments_eq_append_cons_iff
    {lines : List Line}
    {key : String}
    {entry : Entry} :
    (∃ before after,
      assignments lines = before ++ ⟨key, entry⟩ :: after ∧
      ∀ assignment ∈ after, assignment.key ≠ key) ↔
    ∃ before line after,
      lines = before ++ line :: after ∧
      assignments [line] = [⟨key, entry⟩] ∧
      ∀ other ∈ after, ¬ Assigns key other := by
  constructor
  · rintro ⟨before, after, heq, hafter⟩
    obtain ⟨left, right, rfl, -, hright⟩ := List.filterMap_eq_append_iff.mp heq
    obtain ⟨skipped, line, rest, rfl, -, hline, rfl⟩ := List.filterMap_eq_cons_iff.mp hright
    refine ⟨left ++ skipped, line, rest, by simp, ?_, forall_assignments_ne_iff.mp hafter⟩
    simp [assignments, hline]
  · rintro ⟨before, line, after, rfl, hline, hafter⟩
    refine ⟨assignments before, assignments after, ?_, forall_assignments_ne_iff.mpr hafter⟩
    rw [assignments_append, assignments_cons, hline]
    rfl

/-- A line that is malformed is no assignment. -/
theorem assignments_eq_nil_of_malformed
    {line : Line}
    {warning : Warning}
    (h : readLine line = .malformed warning) :
    assignments [line] = [] ∧ warning.line = line.number := by
  refine ⟨by simp [assignments, h], ?_⟩
  simp only [readLine] at h
  split at h
  next => exact absurd h (by simp)
  next =>
    split at h
    next => split at h <;> exact absurd h (by simp)
    next =>
      split at h
      next =>
        rw [Reading.malformed.injEq] at h
        rw [← h]
      next => exact absurd h (by simp)

section Database

variable {name locale file : String}

/-- The count of a key is the number of lines that assign it. -/
theorem counts_assignments_eq_some_iff
    (lines : List Line)
    (key : String)
    (count : Nat) :
    (Database.ofAssignments name locale file (assignments lines)).counts.find? key = some count ↔
      1 ≤ count ∧ count = lines.countP fun line => Assigns key line := by
  rw [Database.counts_ofAssignments, timesAssigned_assignments]
  split
  next hzero =>
    rw [hzero]
    refine iff_of_false nofun fun ⟨hpos, heq⟩ => ?_
    omega
  next hpos =>
    rw [Option.some.injEq]
    omega

/-- The entry of a key is that of the last line that assigns it. -/
theorem entries_assignments_eq_some_iff
    (lines : List Line)
    (key : String)
    (entry : Entry) :
    (Database.ofAssignments name locale file (assignments lines)).entries.find? key = some entry ↔
      ∃ before line after,
        lines = before ++ line :: after ∧
        assignments [line] = [⟨key, entry⟩] ∧
        entry.line = line.number ∧
        ∀ other ∈ after, ¬ Assigns key other := by
  change Database.find? _ key = some entry ↔ _
  rw [Database.find?_ofAssignments_eq_some_iff, assignments_eq_append_cons_iff]
  refine exists₃_congr fun before line after => and_congr_right fun _ => ?_
  refine and_congr_right fun hline => ?_
  have hnumber := line_of_readLine_eq (assignments_singleton_eq_iff.mp hline)
  rw [eq_true hnumber, true_and]

end Database

/--
What the lines of a file leave in its database. A line is read by itself: the count of a key is the
number of lines outside of comments that assign it, and its entry is that of the last of them, with
the number that the line has in the file. The counts add up to the number of lines that are
assignments, and none of these lines is reported as malformed.
-/
theorem database_parse
    (content file suffix : String)
    (limit : Depth) :
    let kept := (stripContent limit content).lines
    let parsed := parse content file suffix limit
    (kept.Sublist (Line.ofContent content) ∧
      ∀ index line, (Line.ofContent content)[index]? = some line → line.number = index + 1) ∧
    parsed.database.entries.keys = parsed.database.counts.keys ∧
    (∀ key count, parsed.database.counts.find? key = some count ↔
      1 ≤ count ∧ count = kept.countP fun line => Assigns key line) ∧
    (∀ key entry, parsed.database.entries.find? key = some entry ↔
      ∃ before line after,
        kept = before ++ line :: after ∧
        assignments [line] = [⟨key, entry⟩] ∧
        entry.line = line.number ∧
        ∀ other ∈ after, ¬ Assigns key other) ∧
    (parsed.database.counts.pairs.map (·.2)).sum =
      kept.countP (fun line => assignments [line] ≠ []) ∧
    ∀ line ∈ kept, assignments [line] ≠ [] →
      ∀ warning ∈ parsed.entryWarnings, warning.line ≠ line.number := by
  intro kept parsed
  have hkept : kept.Sublist (Line.ofContent content) := lines_stripFrom_sublist limit 0 _
  refine ⟨⟨hkept, fun _ _ => Line.number_of_getElem?_ofContent⟩, ?_, ?_, ?_, ?_, ?_⟩
  · exact Dict.keys_eq_of_contains_eq (Database.contains_entries_ofAssignments _)
  · exact counts_assignments_eq_some_iff kept
  · exact entries_assignments_eq_some_iff kept
  · rw [← length_assignments]
    exact Database.sum_counts_ofAssignments (assignments kept)
  · intro line hline hassigns warning hwarning heq
    obtain ⟨other, hother, hread⟩ := mem_warnings_iff.mp hwarning
    obtain ⟨hnone, hnumber⟩ := assignments_eq_nil_of_malformed hread
    have hsame := Line.eq_of_number_eq hkept hother hline (hnumber.symm.trans heq)
    exact hassigns (hsame ▸ hnone)

end StringsFile
end StringsAudit
