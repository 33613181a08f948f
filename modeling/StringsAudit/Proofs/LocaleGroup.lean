import Mathlib.Data.List.Perm.Basic
import StringsAudit.LocaleGroup
import StringsAudit.Proofs.Dict
import StringsAudit.Proofs.Sorting

/-!
# The keys of groups, and the order of their databases

## Main definitions

* `LocaleGroup.ofTables` : the groups of some tables, for a primary locale.
* `LocaleGroup.members` : the databases of groups, each with the name of its group.

## Main results

* `mem_allKeys`, `mem_projectKeys` : the keys of a group, and of all groups.
* `LocaleGroup.perm_members_ofTables` : groups hold the databases of their tables.
* `LocaleGroup.withPrimary_eq_of_perm` : databases with different names are put in one order.
-/

namespace StringsAudit

namespace Database

theorem isSome_value?
    (db : Database)
    (key : String) :
    (db.value? key).isSome = db.defines key := by
  rw [value?, Option.isSome_map, find?, defines, Dict.contains]

theorem mem_keys
    {db : Database}
    {key : String} :
    key ∈ db.keys ↔ db.defines key = true :=
  Dict.mem_keys_iff db.entries key

theorem file_locationOf
    (db : Database)
    (key : String) :
    (db.locationOf key).file = db.file := by
  rw [locationOf]
  cases db.find? key <;> rfl

/-- A key that is defined has an entry, at which its definition points. -/
theorem exists_definitionOf_eq
    {db : Database}
    {key : String}
    (hdefines : db.defines key = true) :
    ∃ entry, db.find? key = some entry ∧
      db.definitionOf key = ⟨.ofLine db.file entry.line, key, entry.value⟩ := by
  rw [defines, Dict.contains] at hdefines
  obtain ⟨entry, hentry⟩ := Option.isSome_iff_exists.mp hdefines
  refine ⟨entry, hentry, ?_⟩
  rw [definitionOf, locationOf, value?, find?, hentry]
  rfl

end Database

namespace LocaleGroup

theorem mem_allKeys
    {group : LocaleGroup}
    {key : String} :
    key ∈ group.allKeys ↔ ∃ db ∈ group.databases, db.defines key = true := by
  simp only [allKeys, Dict.mem_sortedKeys, List.mem_flatMap, Database.mem_keys]

/-- The keys of a group come in strictly increasing order. -/
theorem pairwise_allKeys
    (group : LocaleGroup) :
    group.allKeys.Pairwise (· < ·) :=
  Dict.pairwise_keys _

/-- The groups of some tables, each with its databases of a primary locale first. -/
def ofTables (tables : List (String × List Database)) (primary : String) : List LocaleGroup :=
  tables.map fun table => withPrimary table.1 table.2 primary

/-- The databases of groups, each with the name of its group. -/
def members (groups : List LocaleGroup) : List (String × Database) :=
  groups.flatMap fun group => group.databases.map (group.name, ·)

theorem mem_members_iff
    {groups : List LocaleGroup}
    {name : String}
    {db : Database} :
    (name, db) ∈ members groups ↔
      ∃ group ∈ groups, group.name = name ∧ db ∈ group.databases := by
  simp only [members, List.mem_flatMap, List.mem_map, Prod.mk.injEq]
  constructor
  · rintro ⟨group, hgroup, _, hdb, rfl, rfl⟩
    exact ⟨group, hgroup, rfl, hdb⟩
  · rintro ⟨group, hgroup, rfl, hdb⟩
    exact ⟨group, hgroup, db, hdb, rfl, rfl⟩

theorem map_snd_members
    (groups : List LocaleGroup) :
    (members groups).map (·.2) = groups.flatMap (·.databases) := by
  simp [members, List.map_flatMap, Function.comp_def]

/-- The groups of some tables hold the databases of the tables, under the names of the tables. -/
theorem perm_members_ofTables
    (tables : List (String × List Database))
    (primary : String) :
    (members (ofTables tables primary)).Perm
      (tables.flatMap fun table => table.2.map (table.1, ·)) := by
  rw [members, ofTables, List.flatMap_map]
  exact .flatMap_left _ fun table _ => (perm_withPrimary table.1 table.2 primary).map _

theorem mem_databases_withPrimary
    {name primary : String}
    {databases : List Database}
    {db : Database} :
    db ∈ (withPrimary name databases primary).databases ↔ db ∈ databases :=
  (perm_withPrimary name databases primary).mem_iff

instance (primary : String) : Std.TransCmp (databaseCmp primary) :=
  inferInstanceAs (Std.TransCmp (compareLex _ _))

theorem name_eq_of_databaseCmp
    {primary : String}
    {first second : Database}
    (h : databaseCmp primary first second = .eq) :
    first.name = second.name := by
  simp only [databaseCmp, compareLex, compareOn, Ordering.then_eq_eq,
    Std.LawfulEqCmp.compare_eq_iff_eq] at h
  exact h.2

/-- Databases with different names are put in one order, whatever order they come in. -/
theorem withPrimary_eq_of_perm
    (name primary : String)
    {first second : List Database}
    (hperm : first.Perm second)
    (hnames : (first.map (·.name)).Nodup) :
    withPrimary name first primary = withPrimary name second primary := by
  rw [withPrimary, withPrimary]
  congr 1
  refine sortBy_eq_of_perm (databaseCmp primary) hperm fun a ha b hb hab => ?_
  exact List.inj_on_of_nodup_map hnames ha hb (name_eq_of_databaseCmp hab)

end LocaleGroup

theorem mem_projectKeys
    {groups : List LocaleGroup}
    {key : String} :
    key ∈ projectKeys groups ↔
      ∃ group ∈ groups, ∃ db ∈ group.databases, db.defines key = true := by
  simp only [projectKeys, Dict.mem_sortedKeys, List.mem_flatMap, LocaleGroup.mem_allKeys]

/-- The keys of a project come in strictly increasing order. -/
theorem pairwise_projectKeys
    (groups : List LocaleGroup) :
    (projectKeys groups).Pairwise (· < ·) :=
  Dict.pairwise_keys _

end StringsAudit
