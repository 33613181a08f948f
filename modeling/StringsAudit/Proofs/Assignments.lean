import Mathlib.Data.List.Induction
import StringsAudit.Database
import StringsAudit.Proofs.Dict

/-!
# What a list of assignments leaves in a database

## Main results

* `find?_ofAssignments_eq_some_iff` : the entry of a key is that of its last assignment.
* `counts_ofAssignments` : a key is counted once for each of its assignments, and a key without
  assignments is not counted at all.
* `sum_counts_ofAssignments` : the counts add up to the number of assignments.
-/

namespace StringsAudit
namespace Database

variable {name locale file : String}

theorem ofAssignments_append_singleton
    (list : List Assignment)
    (last : Assignment) :
    ofAssignments name locale file (list ++ [last]) =
      (ofAssignments name locale file list).assign last := by
  simp [ofAssignments]

/-- Assignments leave the labels of a database as they are. -/
theorem labels_ofAssignments
    (list : List Assignment) :
    (ofAssignments name locale file list).name = name ∧
      (ofAssignments name locale file list).locale = locale ∧
      (ofAssignments name locale file list).file = file := by
  induction list using List.reverseRecOn with
  | nil => exact ⟨rfl, rfl, rfl⟩
  | append_singleton list last ih =>
      rw [ofAssignments_append_singleton]
      exact ih

theorem find?_assign
    (db : Database)
    (assignment : Assignment)
    (key : String) :
    (db.assign assignment).find? key =
      if key = assignment.key then some assignment.entry else db.find? key :=
  Dict.find?_insert db.entries assignment.key key assignment.entry

theorem counts_assign
    (db : Database)
    (assignment : Assignment)
    (key : String) :
    (db.assign assignment).counts.find? key =
      if key = assignment.key then some ((db.counts.find? key).getD 0 + 1)
      else db.counts.find? key := by
  rw [assign, Dict.find?_update]
  split
  next heq => rw [heq]
  next => rfl

/-- Searching backwards through the assignments finds the entry of a key. -/
theorem find?_ofAssignments
    (list : List Assignment)
    (key : String) :
    (ofAssignments name locale file list).find? key =
      (list.reverse.find? fun assignment => key == assignment.key).map (·.entry) := by
  induction list using List.reverseRecOn with
  | nil => rfl
  | append_singleton list last ih =>
      rw [ofAssignments_append_singleton, find?_assign, ih, List.reverse_append,
        List.reverse_singleton, List.singleton_append, List.find?_cons]
      by_cases heq : key = last.key
      · simp [heq]
      · have hne : (key == last.key) = false := by simpa using heq
        rw [if_neg heq, hne]

/-- The entry of a key is that of its last assignment. -/
theorem find?_ofAssignments_eq_some_iff
    {list : List Assignment}
    {key : String}
    {entry : Entry} :
    (ofAssignments name locale file list).find? key = some entry ↔
      ∃ before after,
        list = before ++ ⟨key, entry⟩ :: after ∧
        ∀ assignment ∈ after, assignment.key ≠ key := by
  rw [find?_ofAssignments, Option.map_eq_some_iff]
  constructor
  · rintro ⟨last, hlast, rfl⟩
    obtain ⟨hkey, after, before, heq, hafter⟩ := List.find?_eq_some_iff_append.mp hlast
    refine ⟨before.reverse, after.reverse, ?_, fun assignment hassignment hsame => ?_⟩
    · rw [beq_iff_eq.mp hkey]
      simpa using congrArg List.reverse heq
    · have hother := hafter assignment (List.mem_reverse.mp hassignment)
      simp [hsame] at hother
  · rintro ⟨before, after, rfl, hafter⟩
    refine ⟨⟨key, entry⟩, List.find?_eq_some_iff_append.mpr ⟨beq_self_eq_true key, ?_⟩, rfl⟩
    refine ⟨after.reverse, before.reverse, by simp, fun assignment hassignment => ?_⟩
    have hother := hafter assignment (List.mem_reverse.mp hassignment)
    simpa using Ne.symm hother

/-- How many assignments of a list give a key a value. -/
def timesAssigned (list : List Assignment) (key : String) : Nat :=
  (list.map (·.key)).count key

theorem timesAssigned_append_singleton
    (list : List Assignment)
    (last : Assignment)
    (key : String) :
    timesAssigned (list ++ [last]) key =
      if key = last.key then timesAssigned list key + 1 else timesAssigned list key := by
  rw [timesAssigned, List.map_append, List.count_append, List.map_singleton, List.count_singleton]
  by_cases heq : key = last.key
  · simp [timesAssigned, heq]
  · simp [timesAssigned, heq, Ne.symm heq]

/-- A key is counted once for each of its assignments, and not at all without one. -/
theorem counts_ofAssignments
    (list : List Assignment)
    (key : String) :
    (ofAssignments name locale file list).counts.find? key =
      if timesAssigned list key = 0 then none else some (timesAssigned list key) := by
  induction list using List.reverseRecOn with
  | nil => rfl
  | append_singleton list last ih =>
      have hold :
          ((ofAssignments name locale file list).counts.find? key).getD 0 =
            timesAssigned list key := by
        rw [ih]
        split
        next hzero => rw [hzero]; rfl
        next => rfl
      rw [ofAssignments_append_singleton, counts_assign, hold, timesAssigned_append_singleton]
      by_cases heq : key = last.key
      · rw [if_pos heq, if_pos heq, if_neg (Nat.succ_ne_zero _)]
      · rw [if_neg heq, if_neg heq, ih]

/-- A key has an entry exactly if it is counted. -/
theorem contains_entries_ofAssignments
    (list : List Assignment)
    (key : String) :
    (ofAssignments name locale file list).entries.contains key =
      (ofAssignments name locale file list).counts.contains key := by
  induction list using List.reverseRecOn with
  | nil => rfl
  | append_singleton list last ih =>
      have hentry := find?_assign (ofAssignments name locale file list) last key
      rw [find?, find?] at hentry
      rw [Dict.contains, Dict.contains] at ih ⊢
      rw [ofAssignments_append_singleton, counts_assign, hentry]
      split
      next => rfl
      next => exact ih

/-- The counts add up to the number of assignments. -/
theorem sum_counts_ofAssignments
    (list : List Assignment) :
    ((ofAssignments name locale file list).counts.pairs.map (·.2)).sum = list.length := by
  induction list using List.reverseRecOn with
  | nil => rfl
  | append_singleton list last ih =>
      rw [ofAssignments_append_singleton, assign, Dict.sum_update, ih, List.length_append,
        List.length_singleton]

end Database
end StringsAudit
