import Mathlib.Data.List.Nodup
import StringsAudit.Proofs.Check.Usage

/-!
# Each key is classified once

A key of a project is defined and used, or defined and not used, or used and not defined. The two
checks between strings files and sources tell these classes apart: the keys of their findings are
the defined keys that are not used, and the used keys that are not defined, each once and in order.
Neither check passes over such a key: a defined key has a defining database, and a key that is
referred to has a place.

## Main results

* `map_message_unused`, `map_message_ghosts` : the keys that each check is about.
* `unused_eq_of_mem`, `ghost_eq_of_mem` : what a finding says about its key.
* `keys_classified` : each key is classified once.
-/

namespace StringsAudit
namespace Check

variable {groups : List LocaleGroup} {used : UsedKeys} {issue : Issue}

/-- A defined key has a database that defines it. -/
theorem definingDatabases_ne_nil
    {key : String}
    (hkey : key ∈ projectKeys groups) :
    definingDatabases groups key ≠ [] := by
  obtain ⟨group, hgroup, db, hdb, hdefines⟩ := mem_projectKeys.mp hkey
  exact List.ne_nil_of_mem (mem_definingDatabases.mpr ⟨⟨group, hgroup, hdb⟩, hdefines⟩)

/-! ### The keys of the findings -/

/-- The unused keys are the defined keys that are not used. -/
theorem map_message_unused
    (groups : List LocaleGroup)
    (used : UsedKeys) :
    (unused groups used).map (·.message) =
      (projectKeys groups).filter fun key => !used.contains key := by
  rw [unused, List.map_filterMap]
  conv_rhs => rw [← List.filterMap_some (l := (projectKeys groups).filter _)]
  refine List.filterMap_congr fun key hkey => ?_
  obtain ⟨first, others, hdefining⟩ :=
    List.exists_cons_of_ne_nil (definingDatabases_ne_nil (List.mem_of_mem_filter hkey))
  rw [hdefining]
  rfl

/-- The ghosts are the used keys that are not defined. -/
theorem map_message_ghosts
    (groups : List LocaleGroup)
    (hbuilt : used.IsBuilt) :
    (ghosts groups used).map (·.message) =
      used.keys.filter fun key => !(projectKeys groups).contains key := by
  rw [ghosts, List.map_filterMap]
  conv_rhs => rw [← List.filterMap_some (l := used.keys.filter _)]
  refine List.filterMap_congr fun key hkey => ?_
  have hused := UsedKeys.mem_keys.mp (List.mem_of_mem_filter hkey)
  obtain ⟨first, others, husages⟩ := List.exists_cons_of_ne_nil (hbuilt.usages_ne_nil hused)
  rw [husages]
  rfl

/-- In a list with each key once, a key stands once or not at all. -/
theorem countP_message_eq
    {issues : List Issue}
    (hkeys : (issues.map (·.message)).Pairwise (· < ·))
    (key : String) :
    issues.countP (·.message == key) = if key ∈ issues.map (·.message) then 1 else 0 := by
  have hnodup : (issues.map (·.message)).Nodup :=
    hkeys.imp fun hlt => Std.ne_of_lt hlt
  rw [← hnodup.count, List.count, List.countP_map]
  rfl

theorem pairwise_message_unused
    (groups : List LocaleGroup)
    (used : UsedKeys) :
    ((unused groups used).map (·.message)).Pairwise (· < ·) := by
  rw [map_message_unused]
  exact (pairwise_projectKeys groups).filter _

theorem pairwise_message_ghosts
    (groups : List LocaleGroup)
    (hbuilt : used.IsBuilt) :
    ((ghosts groups used).map (·.message)).Pairwise (· < ·) := by
  rw [map_message_ghosts groups hbuilt]
  exact (Dict.pairwise_keys used.sites).filter _

/-- A key is found unused once if it is defined and not used. -/
theorem countP_unused
    (groups : List LocaleGroup)
    (used : UsedKeys)
    (key : String) :
    (unused groups used).countP (·.message == key) =
      if key ∈ projectKeys groups ∧ key ∉ used.keys then 1 else 0 := by
  rw [countP_message_eq (pairwise_message_unused groups used), map_message_unused]
  simp only [List.mem_filter, Bool.not_eq_true', UsedKeys.mem_keys, Bool.not_eq_true]

/-- A key is found to be a ghost once if it is used and not defined. -/
theorem countP_ghosts
    (groups : List LocaleGroup)
    (hbuilt : used.IsBuilt)
    (key : String) :
    (ghosts groups used).countP (·.message == key) =
      if key ∈ used.keys ∧ key ∉ projectKeys groups then 1 else 0 := by
  rw [countP_message_eq (pairwise_message_ghosts groups hbuilt), map_message_ghosts groups hbuilt]
  simp only [List.mem_filter, Bool.not_eq_true', List.contains_eq_mem, decide_eq_false_iff_not]

/-! ### What a finding says -/

/-- An unused key is shown at its first definition, with the number of its definitions. -/
theorem unused_eq_of_mem
    (hissue : issue ∈ unused groups used) :
    ∃ db entry,
      (groups.flatMap (·.databases)).find? (·.defines issue.message) = some db ∧
      db.find? issue.message = some entry ∧
      issue = .unusedKey ⟨.ofLine db.file entry.line, issue.message, entry.value⟩
        ((groups.flatMap (·.databases)).countP (·.defines issue.message)) := by
  obtain ⟨key, first, others, -, hdefining, rfl⟩ := mem_unused_iff.mp hissue
  have hfirst : first ∈ definingDatabases groups key := hdefining ▸ List.mem_cons_self
  obtain ⟨entry, hentry, hdefinition⟩ :=
    Database.exists_definitionOf_eq (mem_definingDatabases.mp hfirst).2
  rw [definingDatabases] at hdefining
  refine ⟨first, entry, ?_, hentry, ?_⟩
  · change List.find? (fun db : Database => db.defines key) _ = _
    rw [← List.head?_filter, hdefining, List.head?_cons]
  · change _ = Issue.unusedKey ⟨_, key, _⟩ (List.countP (fun db : Database => db.defines key) _)
    rw [hdefinition, List.countP_eq_length_filter, hdefining, List.length_cons]

/-- A ghost is shown with all the places that refer to it. -/
theorem ghost_eq_of_mem
    (hissue : issue ∈ ghosts groups used) :
    ∃ first others, issue = .ghostKey issue.message first others ∧
      first :: others = used.usages issue.message := by
  obtain ⟨key, first, others, -, husages, rfl⟩ := mem_ghosts_iff.mp hissue
  exact ⟨first, others, rfl, husages.symm⟩

/--
Each key of a project is in one class: it is defined and used, and nothing is found about it; or it
is defined and not used, and is found once to be unused; or it is used and not defined, and is found
once to be a ghost. The findings come in the order of their keys. An unused key is shown at its
first definition, in the order of the groups and of their databases, with the number of databases
that define it, and a ghost with all the places that refer to it.
-/
theorem keys_classified
    (groups : List LocaleGroup)
    {used : UsedKeys}
    (hbuilt : used.IsBuilt) :
    (∀ key, key ∈ projectKeys groups ∨ key ∈ used.keys →
      let timesUnused := (unused groups used).countP (·.message == key)
      let timesGhost := (ghosts groups used).countP (·.message == key)
      (key ∈ projectKeys groups ∧ key ∈ used.keys ∧ timesUnused = 0 ∧ timesGhost = 0) ∨
      (key ∈ projectKeys groups ∧ key ∉ used.keys ∧ timesUnused = 1 ∧ timesGhost = 0) ∨
      (key ∉ projectKeys groups ∧ key ∈ used.keys ∧ timesUnused = 0 ∧ timesGhost = 1)) ∧
    (∀ issue ∈ unused groups used ++ ghosts groups used,
      issue.message ∈ projectKeys groups ∨ issue.message ∈ used.keys) ∧
    ((unused groups used).map (·.message)).Pairwise (· < ·) ∧
    ((ghosts groups used).map (·.message)).Pairwise (· < ·) ∧
    (∀ issue ∈ unused groups used, ∃ db entry,
      (groups.flatMap (·.databases)).find? (·.defines issue.message) = some db ∧
      db.find? issue.message = some entry ∧
      issue = .unusedKey ⟨.ofLine db.file entry.line, issue.message, entry.value⟩
        ((groups.flatMap (·.databases)).countP (·.defines issue.message))) ∧
    (∀ issue ∈ ghosts groups used, ∃ first others,
      issue = .ghostKey issue.message first others ∧
      first :: others = used.usages issue.message) := by
  refine ⟨fun key hkey => ?classes, fun issue hissue => ?others,
    pairwise_message_unused groups used, pairwise_message_ghosts groups hbuilt,
    fun _ => unused_eq_of_mem, fun _ => ghost_eq_of_mem⟩
  case classes =>
    simp only [countP_unused, countP_ghosts groups hbuilt]
    by_cases hdefined : key ∈ projectKeys groups <;> by_cases hused : key ∈ used.keys
    · exact .inl (by simp [hdefined, hused])
    · exact .inr (.inl (by simp [hdefined, hused]))
    · exact .inr (.inr (by simp [hdefined, hused]))
    · exact absurd hkey (not_or.mpr ⟨hdefined, hused⟩)
  case others =>
    rcases List.mem_append.mp hissue with hissue | hissue
    · have hmessage := List.mem_map_of_mem (f := (·.message)) hissue
      rw [map_message_unused] at hmessage
      exact .inl (List.mem_of_mem_filter hmessage)
    · have hmessage := List.mem_map_of_mem (f := (·.message)) hissue
      rw [map_message_ghosts groups hbuilt] at hmessage
      exact .inr (List.mem_of_mem_filter hmessage)

/-- A key that is used and defined, one that two files define and none uses, and a misspelt one. -/
theorem keys_classified_of_misspelt_key :
    let english : Database :=
      .ofAssignments "en.lproj" "en" "en.lproj/L.strings"
        [⟨"title", 1, "Title"⟩, ⟨"old", 2, "Old"⟩]
    let german : Database :=
      .ofAssignments "de.lproj" "de" "de.lproj/L.strings" [⟨"old", 7, "Alt"⟩]
    let groups : List LocaleGroup := [⟨"L.strings", [english, german]⟩]
    let used := ((UsedKeys.empty.insert "title" ⟨⟨"A.swift", 1, 9⟩, "a"⟩).extend
      (.ofList [("titel", ⟨⟨"B.swift", 3, 9⟩, "b"⟩), ("titel", ⟨⟨"B.swift", 2, 5⟩, "c"⟩)]))
    used.IsBuilt ∧
    ((unused groups used).countP (·.message == "title") = 0 ∧
      (ghosts groups used).countP (·.message == "title") = 0) ∧
    ((unused groups used).countP (·.message == "old") = 1 ∧
      (ghosts groups used).countP (·.message == "old") = 0) ∧
    ((unused groups used).countP (·.message == "titel") = 0 ∧
      (ghosts groups used).countP (·.message == "titel") = 1) := by
  intro english german groups used
  have hbuilt : used.IsBuilt := .extend (.insert "title" _ .empty) (.ofList _)
  have hclass := (keys_classified groups hbuilt).1
  refine ⟨hbuilt, ?_, ?_, ?_⟩
  · rcases hclass "title" (by decide +kernel) with ⟨-, -, h⟩ | ⟨-, h, -⟩ | ⟨h, -, -⟩
    · exact h
    · exact absurd (by decide +kernel) h
    · exact absurd (by decide +kernel) h
  · rcases hclass "old" (by decide +kernel) with ⟨-, h, -⟩ | ⟨-, -, h⟩ | ⟨h, -, -⟩
    · exact absurd h (by decide +kernel)
    · exact h
    · exact absurd (by decide +kernel) h
  · rcases hclass "titel" (by decide +kernel) with ⟨h, -, -⟩ | ⟨h, -, -⟩ | ⟨-, -, h⟩
    · exact absurd h (by decide +kernel)
    · exact absurd h (by decide +kernel)
    · exact h

end Check
end StringsAudit
