import Mathlib.Data.List.Basic
import StringsAudit.Check.Usage
import StringsAudit.Proofs.LocaleGroup
import StringsAudit.Proofs.UsedKeys

/-!
# What the checks between strings files and sources find

## Main results

* `mem_unused_iff`, `mem_ghosts_iff` : the findings of each check.
-/

namespace StringsAudit

namespace Check

variable {groups : List LocaleGroup} {used : UsedKeys} {issue : Issue}

theorem mem_definingDatabases
    {key : String}
    {db : Database} :
    db ∈ definingDatabases groups key ↔
      (∃ group ∈ groups, db ∈ group.databases) ∧ db.defines key = true := by
  rw [definingDatabases, List.mem_filter, List.mem_flatMap]

theorem mem_unused_iff :
    issue ∈ unused groups used ↔
      ∃ key first others, used.contains key = false ∧
        definingDatabases groups key = first :: others ∧
        issue = .unusedKey (first.definitionOf key) (others.length + 1) := by
  simp only [unused, List.mem_filterMap, List.mem_filter, Bool.not_eq_true']
  constructor
  · rintro ⟨key, ⟨-, hunused⟩, hissue⟩
    match hdefining : definingDatabases groups key with
    | [] => simp [hdefining] at hissue
    | first :: others =>
        simp only [hdefining, Option.some.injEq] at hissue
        exact ⟨key, first, others, hunused, hdefining, hissue.symm⟩
  · rintro ⟨key, first, others, hunused, hdefining, rfl⟩
    have hfirst : first ∈ definingDatabases groups key := hdefining ▸ List.mem_cons_self
    obtain ⟨⟨group, hgroup, hdb⟩, hdefines⟩ := mem_definingDatabases.mp hfirst
    have hkey : key ∈ projectKeys groups :=
      mem_projectKeys.mpr ⟨group, hgroup, first, hdb, hdefines⟩
    exact ⟨key, ⟨hkey, hunused⟩, by simp [hdefining]⟩

theorem mem_ghosts_iff :
    issue ∈ ghosts groups used ↔
      ∃ key first others, key ∉ projectKeys groups ∧ used.usages key = first :: others ∧
        issue = .ghostKey key first others := by
  simp only [ghosts, List.mem_filterMap, List.mem_filter, Bool.not_eq_true', List.contains_eq_mem,
    decide_eq_false_iff_not]
  constructor
  · rintro ⟨key, ⟨-, hundefined⟩, hissue⟩
    match husages : used.usages key with
    | [] => simp [husages] at hissue
    | first :: others =>
        simp only [husages, Option.some.injEq] at hissue
        exact ⟨key, first, others, hundefined, husages, hissue.symm⟩
  · rintro ⟨key, first, others, hundefined, husages, rfl⟩
    have hkey : key ∈ used.keys :=
      UsedKeys.mem_keys.mpr (UsedKeys.contains_of_usages_eq_cons husages)
    exact ⟨key, ⟨hkey, hundefined⟩, by simp [husages]⟩

end Check
end StringsAudit
