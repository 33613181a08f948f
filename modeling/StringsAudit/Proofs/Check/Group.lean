import Mathlib.Data.List.Basic
import StringsAudit.Check.Group
import StringsAudit.Proofs.LocaleGroup

/-!
# What the checks within a group find

For each check, which findings it makes about which databases and keys. What is said here does not
mention the order in which databases are visited, except for the baseline, the first database that
shares a value and the names that a finding lists.

## Main definitions

* `Check.sharers` : the databases of a group that give a key one value.

## Main results

* `mem_duplicates_iff`, `mem_missing_iff`, `mem_identical_iff`, `mem_valueEqualsKey_iff`,
  `mem_placeholders_iff` : the findings of each check.
* `exists_mem_placeholders_iff` : a mismatch is found exactly if two databases differ.
-/

namespace StringsAudit
namespace Check

variable {group : LocaleGroup} {issue : Issue}

theorem mem_duplicates_iff :
    issue ∈ duplicates group ↔
      ∃ db ∈ group.databases, ∃ key, 1 < db.count key ∧
        issue = .duplicateKey (db.definitionOf key) db.name (db.count key) := by
  have hcount (db : Database) (key : String) (count : Nat) :
      (key, count) ∈ db.counts.pairs ∧ 1 < count ↔ 1 < db.count key ∧ db.count key = count := by
    rw [← Dict.find?_eq_some_iff, Database.count]
    cases db.counts.find? key with
    | none => simp
    | some own => rw [Option.some.injEq, Option.getD_some]; omega
  simp only [duplicates, duplicateKeys, List.mem_map, mem_sortBy, List.mem_flatMap, List.mem_filter,
    decide_eq_true_eq, Prod.exists, hcount]
  constructor
  · rintro ⟨_, ⟨db, hdb, key, _, ⟨hmany, rfl⟩, rfl⟩, rfl⟩
    exact ⟨db, hdb, key, hmany, rfl⟩
  · rintro ⟨db, hdb, key, hmany, rfl⟩
    exact ⟨_, ⟨db, hdb, key, _, ⟨hmany, rfl⟩, rfl⟩, rfl⟩

theorem mem_missing_iff :
    issue ∈ missing group ↔
      ∃ db ∈ group.databases, ∃ key ∈ group.allKeys, db.defines key = false ∧
        issue = .missingKey key db.name db.file (definers group key) := by
  simp only [missing, List.mem_flatMap, List.mem_map, List.mem_filter, Bool.not_eq_true']
  constructor
  · rintro ⟨db, hdb, key, ⟨hkey, hlacks⟩, rfl⟩
    exact ⟨db, hdb, key, hkey, hlacks, rfl⟩
  · rintro ⟨db, hdb, key, hkey, hlacks, rfl⟩
    exact ⟨db, hdb, key, ⟨hkey, hlacks⟩, rfl⟩

theorem mem_valueEqualsKey_iff :
    issue ∈ valueEqualsKey group ↔
      ∃ db ∈ group.databases, ∃ key, db.value? key = some key ∧
        issue = .valueEqualsKey ⟨db.locationOf key, key, key⟩ db.name := by
  simp only [valueEqualsKey, untranslated, List.mem_map, mem_sortBy, List.mem_flatMap,
    List.mem_filter, beq_iff_eq, Prod.exists, ← Dict.find?_eq_some_iff, Database.value?,
    Option.map_eq_some_iff, Database.find?]
  constructor
  · rintro ⟨_, _, ⟨db, hdb, key, entry, ⟨hentry, heq⟩, hpair⟩, rfl⟩
    obtain ⟨rfl, rfl⟩ := Prod.mk.inj hpair
    exact ⟨db, hdb, key, ⟨entry, hentry, heq.symm⟩, by rw [← heq]⟩
  · rintro ⟨db, hdb, key, ⟨entry, hentry, heq⟩, rfl⟩
    exact ⟨_, _, ⟨db, hdb, key, entry, ⟨hentry, heq.symm⟩, rfl⟩, by rw [heq]⟩

/-! ### Shared values -/

/-- The databases of a group that give a key one value, in their order. -/
def sharers (group : LocaleGroup) (key value : String) : List Database :=
  group.databases.filter fun db => db.value? key == some value

theorem byValue_eq_gather
    (group : LocaleGroup)
    (key : String) :
    byValue group key =
      Dict.gather
        (group.databases.filterMap fun db => (db.value? key).map fun value => (value, db)) := by
  rw [byValue, Dict.gather, List.foldl_filterMap]
  congr 1
  funext dict db
  cases db.value? key <;> rfl

theorem valuesOf_filterMap_value?
    (databases : List Database)
    (key value : String) :
    Dict.valuesOf
        (databases.filterMap fun db => (db.value? key).map fun value => (value, db)) value =
      databases.filter fun db => db.value? key == some value := by
  induction databases with
  | nil => rfl
  | cons db rest ih =>
      rw [Dict.valuesOf] at ih ⊢
      cases hvalue : db.value? key with
      | none => simpa [hvalue] using ih
      | some own =>
          by_cases heq : own = value
          · simpa [hvalue, heq] using ih
          · simpa [hvalue, heq] using ih

/-- A value is listed with all databases that share it. -/
theorem mem_pairs_byValue_iff
    {key value : String}
    {databases : List Database} :
    (value, databases) ∈ (byValue group key).pairs ↔
      databases ≠ [] ∧ databases = sharers group key value := by
  rw [← Dict.find?_eq_some_iff, byValue_eq_gather, Dict.find?_gather, valuesOf_filterMap_value?,
    ← sharers]
  split
  next hnone =>
    refine iff_of_false nofun fun ⟨hsome, heq⟩ => ?_
    exact hsome (heq.trans hnone)
  next hsome =>
    rw [Option.some.injEq]
    exact ⟨fun heq => ⟨heq ▸ hsome, heq.symm⟩, fun h => h.2.symm⟩

theorem mem_sharers
    {key value : String}
    {db : Database} :
    db ∈ sharers group key value ↔ db ∈ group.databases ∧ db.value? key = some value := by
  rw [sharers, List.mem_filter, beq_iff_eq]

theorem mem_allKeys_of_mem_sharers
    {key value : String}
    {db : Database}
    (h : db ∈ sharers group key value) :
    key ∈ group.allKeys := by
  obtain ⟨hdb, hvalue⟩ := mem_sharers.mp h
  refine LocaleGroup.mem_allKeys.mpr ⟨db, hdb, ?_⟩
  rw [← Database.isSome_value?, hvalue, Option.isSome_some]

theorem mem_identical_iff :
    issue ∈ identical group ↔
      ∃ key value first second rest, sharers group key value = first :: second :: rest ∧
        issue = .identicalValue ⟨first.locationOf key, key, value⟩
          ((sharers group key value).map (·.name)) := by
  simp only [identical, List.mem_flatMap, List.mem_filterMap, Prod.exists, mem_pairs_byValue_iff]
  constructor
  · rintro ⟨key, -, value, databases, ⟨-, hsharers⟩, hissue⟩
    match databases, hissue with
    | first :: second :: rest, hissue =>
        rw [Option.some.injEq] at hissue
        exact ⟨key, value, first, second, rest, hsharers.symm, by rw [← hissue, hsharers]⟩
  · rintro ⟨key, value, first, second, rest, hsharers, rfl⟩
    have hfirst : first ∈ sharers group key value := hsharers ▸ List.mem_cons_self
    refine ⟨key, mem_allKeys_of_mem_sharers hfirst, value, first :: second :: rest, ?_, ?_⟩
    · exact ⟨List.cons_ne_nil _ _, hsharers.symm⟩
    · rw [hsharers]

/-! ### Placeholders -/

theorem mem_placeholders_iff
    {placeholder : String} :
    issue ∈ placeholders placeholder group ↔
      ∃ baseline others, group.databases = baseline :: others ∧
        ∃ key ∈ group.allKeys, ∃ db ∈ others,
          placeholderCount placeholder db key ≠ placeholderCount placeholder baseline key ∧
            issue = .placeholderMismatch (db.definitionOf key) placeholder
              ⟨baseline.name, placeholderCount placeholder baseline key⟩
              ⟨db.name, placeholderCount placeholder db key⟩ := by
  rw [placeholders]
  split
  next hnone => simp [hnone]
  next baseline others hsome =>
    simp only [hsome, List.cons.injEq, List.mem_flatMap, List.mem_filterMap, placeholderIssue?,
      beq_iff_eq]
    constructor
    · rintro ⟨key, hkey, db, hdb, hissue⟩
      split at hissue
      next => exact absurd hissue nofun
      next hne =>
        rw [Option.some.injEq] at hissue
        exact ⟨baseline, others, ⟨rfl, rfl⟩, key, hkey, db, hdb, hne, hissue.symm⟩
    · rintro ⟨_, _, ⟨rfl, rfl⟩, key, hkey, db, hdb, hne, rfl⟩
      exact ⟨key, hkey, db, hdb, by rw [if_neg hne]⟩

/-- Some database differs from the first exactly if two databases differ. -/
theorem exists_placeholderCount_ne_iff
    {placeholder key : String}
    {baseline : Database}
    {others : List Database} :
    (∃ db ∈ others,
      placeholderCount placeholder db key ≠ placeholderCount placeholder baseline key) ↔
    ∃ first ∈ baseline :: others, ∃ second ∈ baseline :: others,
      placeholderCount placeholder first key ≠ placeholderCount placeholder second key := by
  constructor
  · rintro ⟨db, hdb, hne⟩
    exact ⟨db, List.mem_cons_of_mem baseline hdb, baseline, List.mem_cons_self, hne⟩
  · rintro ⟨first, hfirst, second, hsecond, hne⟩
    -- If both counted like the baseline, they would count alike.
    by_contra hall
    simp only [not_exists, not_and, not_not] at hall
    have heq (db : Database) (hdb : db ∈ baseline :: others) :
        placeholderCount placeholder db key = placeholderCount placeholder baseline key := by
      rcases List.mem_cons.mp hdb with rfl | hdb
      · rfl
      · exact hall db hdb
    exact hne ((heq first hfirst).trans (heq second hsecond).symm)

/-- A mismatch of a key is found exactly if two databases differ, whichever is the baseline. -/
theorem exists_mem_placeholders_iff
    {placeholder key : String} :
    (∃ issue ∈ placeholders placeholder group, issue.message = key) ↔
      key ∈ group.allKeys ∧ ∃ first ∈ group.databases, ∃ second ∈ group.databases,
        placeholderCount placeholder first key ≠ placeholderCount placeholder second key := by
  simp only [mem_placeholders_iff]
  cases hgroup : group.databases with
  | nil => simp
  | cons baseline others =>
      rw [← exists_placeholderCount_ne_iff]
      constructor
      · rintro ⟨_, ⟨_, _, heq, own, hkey, db, hdb, hne, rfl⟩, rfl⟩
        obtain ⟨rfl, rfl⟩ := List.cons.inj heq
        exact ⟨hkey, db, hdb, hne⟩
      · rintro ⟨hkey, db, hdb, hne⟩
        exact ⟨_, ⟨_, _, rfl, key, hkey, db, hdb, hne, rfl⟩, rfl⟩

end Check
end StringsAudit
