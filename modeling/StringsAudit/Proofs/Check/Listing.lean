import Mathlib.Algebra.BigOperators.Group.List.Basic
import Mathlib.Data.List.FinRange
import StringsAudit.Proofs.Check.Group

/-!
# Findings listed by their places

A check within a group looks at pairs of a database and a key, in the order of the databases first
or in the order of the keys first. What it finds is listed by these places: there is one finding at
each place of some kind, they come in the order of the places, and there are no others. Databases
count by their positions, so that the same is said of a group that holds a database twice.

## Main definitions

* `AreListed` : findings that are listed by their places.

## Main results

* `areListed_flatMap` : what is found by going through keys within databases, or the other way
  round, is listed in lexicographic order.
* `missing_listed_and_counted` : a key is found missing once from each database that lacks it, and
  the findings and the entries of the databases add up.
* `placeholders_listed` : a key is found once in each database whose number of placeholders is not
  that of the first.
-/

namespace StringsAudit
namespace Check

section Listing

variable {α β : Type} {ltα : α → α → Prop} {ltβ : β → β → Prop}

/--
There is one finding at each place of a kind, and there are no others; the findings come in strictly
increasing order of their places.
-/
def AreListed (lt : α → α → Prop) (isFound : α → Prop) (issueAt : α → Issue) (issues : List Issue) :
    Prop :=
  ∃ places : List α,
    places.Pairwise lt ∧
    (∀ place, place ∈ places ↔ isFound place) ∧
    issues = places.map issueAt

theorem AreListed.congr
    {isFound isFound' : α → Prop}
    {issueAt : α → Issue}
    {issues : List Issue}
    (h : AreListed ltα isFound issueAt issues)
    (hiff : ∀ place, isFound place ↔ isFound' place) :
    AreListed ltα isFound' issueAt issues := by
  obtain ⟨places, hordered, hmem, heq⟩ := h
  exact ⟨places, hordered, fun place => (hmem place).trans (hiff place), heq⟩

theorem AreListed.issueAt_mem
    {isFound : α → Prop}
    {issueAt : α → Issue}
    {issues : List Issue}
    (h : AreListed ltα isFound issueAt issues)
    (place : α)
    (hfound : isFound place) :
    issueAt place ∈ issues := by
  obtain ⟨places, -, hmem, rfl⟩ := h
  exact List.mem_map_of_mem ((hmem place).mpr hfound)

/-- Pairs that are gone through by their first parts are in lexicographic order. -/
theorem pairwise_lex_flatMap
    {outer : List α}
    {inner : α → List β}
    (houter : outer.Pairwise ltα)
    (hinner : ∀ a ∈ outer, (inner a).Pairwise ltβ) :
    (outer.flatMap fun a => (inner a).map (a, ·)).Pairwise (Prod.Lex ltα ltβ) := by
  rw [List.pairwise_flatMap]
  constructor
  · intro a ha
    rw [List.pairwise_map]
    exact (hinner a ha).imp fun hlt => .right a hlt
  · refine houter.imp fun {a b} hlt first hfirst second hsecond => ?_
    obtain ⟨_, -, rfl⟩ := List.mem_map.mp hfirst
    obtain ⟨_, -, rfl⟩ := List.mem_map.mp hsecond
    exact .left _ _ hlt

theorem areListed_flatMap
    {outer : List α}
    {inner : α → List β}
    (issueAt : α × β → Issue)
    (houter : outer.Pairwise ltα)
    (hinner : ∀ a ∈ outer, (inner a).Pairwise ltβ) :
    AreListed (Prod.Lex ltα ltβ) (fun place => place.1 ∈ outer ∧ place.2 ∈ inner place.1) issueAt
      (outer.flatMap fun a => (inner a).map fun b => issueAt (a, b)) := by
  refine ⟨_, pairwise_lex_flatMap houter hinner, fun place => ?_, ?_⟩
  · simp only [List.mem_flatMap, List.mem_map]
    constructor
    · rintro ⟨a, ha, b, hb, rfl⟩
      exact ⟨ha, hb⟩
    · rintro ⟨ha, hb⟩
      exact ⟨place.1, ha, place.2, hb, rfl⟩
  · simp only [List.map_flatMap, List.map_map, Function.comp_def]

/-- Looking for what stands at some elements is choosing them first. -/
theorem filterMap_eq_map_filter
    {find : α → Option β}
    {keep : α → Prop}
    [DecidablePred keep]
    {value : α → β}
    (h : ∀ a, find a = if keep a then some (value a) else none)
    (list : List α) :
    list.filterMap find = (list.filter fun a => keep a).map value := by
  induction list with
  | nil => rfl
  | cons a rest ih =>
      rw [List.filterMap_cons, h, ih]
      by_cases ha : keep a
      · simp [ha]
      · simp [ha]

end Listing

variable {group : LocaleGroup}

/-! ### Missing keys -/

theorem missing_eq_flatMap_finRange
    (group : LocaleGroup) :
    missing group =
      (List.finRange group.databases.length).flatMap fun index =>
        (group.allKeys.filter fun key => !(group.databases.get index).defines key).map fun key =>
          .missingKey key (group.databases.get index).name (group.databases.get index).file
            (definers group key) := by
  conv_lhs => rw [missing, ← List.map_get_finRange group.databases, List.flatMap_map]

/-- Of the keys of its group, a database defines those that it has an entry for. -/
theorem filter_defines_allKeys
    {db : Database}
    (hdb : db ∈ group.databases) :
    group.allKeys.filter (db.defines ·) = db.keys := by
  refine ((LocaleGroup.pairwise_allKeys group).filter _).eq_of_mem_iff
    (Dict.pairwise_keys db.entries) fun key => ?_
  rw [List.mem_filter, LocaleGroup.mem_allKeys, Database.mem_keys]
  exact ⟨fun h => h.2, fun hdefines => ⟨⟨db, hdb, hdefines⟩, hdefines⟩⟩

/-- A database lacks or defines each key of its group. -/
theorem length_filter_not_defines_add_size
    {db : Database}
    (hdb : db ∈ group.databases) :
    (group.allKeys.filter fun key => !db.defines key).length + db.size = group.allKeys.length := by
  have hsize : db.size = (group.allKeys.filter (db.defines ·)).length := by
    rw [filter_defines_allKeys hdb, Database.keys, Dict.length_keys, Database.size]
  rw [hsize, Nat.add_comm, ← List.length_eq_length_filter_add]

theorem length_missing_add_sum_size
    (group : LocaleGroup) :
    (missing group).length + (group.databases.map (·.size)).sum =
      group.databases.length * group.allKeys.length := by
  calc (missing group).length + (group.databases.map (·.size)).sum
    _ = (group.databases.map fun db =>
          (group.allKeys.filter fun key => !db.defines key).length + db.size).sum := by
        simp only [missing, List.length_flatMap, List.length_map, List.sum_map_add]
    _ = (group.databases.map fun _ => group.allKeys.length).sum := by
        congr 1
        exact List.map_congr_left fun _ hdb => length_filter_not_defines_add_size hdb
    _ = group.databases.length * group.allKeys.length := by
        rw [List.map_const', List.sum_replicate_nat]

/--
There is one finding for each database and each key of the group that the database lacks, in the
order of the databases and then of the keys. It lists the databases that define the key in their
order, and there is at least one. The findings and the entries of the databases are together as many
as the pairs of a database and a key of the group.
-/
theorem missing_listed_and_counted
    (group : LocaleGroup) :
    let IsGap := fun place : Fin group.databases.length × String =>
      place.2 ∈ group.allKeys ∧ (group.databases.get place.1).defines place.2 = false
    let existsIn := fun key : String =>
      (group.databases.filter fun db => db.defines key).map fun db => db.name
    AreListed (Prod.Lex (· < ·) (· < ·)) IsGap
      (fun place =>
        .missingKey place.2 (group.databases.get place.1).name (group.databases.get place.1).file
          (existsIn place.2))
      (missing group) ∧
    (∀ place, IsGap place → existsIn place.2 ≠ []) ∧
    (missing group).length + (group.databases.map (·.size)).sum =
      group.databases.length * group.allKeys.length := by
  intro IsGap existsIn
  refine ⟨?listed, fun place hgap => ?existsIn, length_missing_add_sum_size group⟩
  case listed =>
    rw [missing_eq_flatMap_finRange]
    refine AreListed.congr (areListed_flatMap _ (List.pairwise_lt_finRange _)
      fun _ _ => (LocaleGroup.pairwise_allKeys group).filter _) fun place => ?_
    simp only [List.mem_finRange, List.mem_filter, Bool.not_eq_true', true_and, IsGap]
  case existsIn =>
    obtain ⟨db, hdb, hdefines⟩ := LocaleGroup.mem_allKeys.mp hgap.1
    refine mt List.map_eq_nil_iff.mp (List.ne_nil_of_mem (a := db) ?_)
    exact List.mem_filter.mpr ⟨hdb, hdefines⟩

/-! ### Placeholders -/

section Placeholders

variable (placeholder : String)

/-- What is found where one database differs from another in the placeholders of a key. -/
def mismatch (baseline db : Database) (key : String) : Issue :=
  .placeholderMismatch (db.definitionOf key) placeholder
    ⟨baseline.name, placeholderCount placeholder baseline key⟩
    ⟨db.name, placeholderCount placeholder db key⟩

/-- The database that another one of its group is compared with. -/
def baselineOf (group : LocaleGroup) (index : Fin group.databases.length) : Database :=
  group.databases.get ⟨0, index.pos⟩

theorem placeholderIssue?_eq_ite
    (baseline db : Database)
    (key : String) :
    placeholderIssue? placeholder baseline db key =
      if placeholderCount placeholder db key ≠ placeholderCount placeholder baseline key then
        some (mismatch placeholder baseline db key)
      else none := by
  simp only [placeholderIssue?, mismatch, beq_iff_eq, ne_eq, ite_not]

theorem placeholders_eq_flatMap_finRange
    (group : LocaleGroup) :
    placeholders placeholder group =
      group.allKeys.flatMap fun key =>
        ((List.finRange group.databases.length).filter fun index =>
          placeholderCount placeholder (group.databases.get index) key ≠
            placeholderCount placeholder (baselineOf group index) key).map fun index =>
              mismatch placeholder (baselineOf group index) (group.databases.get index) key := by
  obtain ⟨name, databases⟩ := group
  cases databases with
  | nil => simp [placeholders]
  | cons baseline others =>
      rw [placeholders]
      refine List.flatMap_congr fun key _ => ?_
      -- The first database does not differ from itself, so it can be looked at like the others.
      have hself : placeholderIssue? placeholder baseline baseline key = none := by
        simp [placeholderIssue?]
      calc others.filterMap (placeholderIssue? placeholder baseline · key)
        _ = (baseline :: others).filterMap (placeholderIssue? placeholder baseline · key) :=
            (List.filterMap_cons_none
              (f := (placeholderIssue? placeholder baseline · key)) hself).symm
        _ = ((List.finRange (baseline :: others).length).map (baseline :: others).get).filterMap
              (placeholderIssue? placeholder baseline · key) := by
            rw [List.map_get_finRange]
        _ = _ := by
            rw [filterMap_eq_map_filter (placeholderIssue?_eq_ite placeholder baseline · key),
              List.filter_map, List.map_map]
            rfl

/-- A database that differs from the baseline is not the first. -/
theorem pos_of_placeholderCount_ne
    {group : LocaleGroup}
    {index : Fin group.databases.length}
    {key : String}
    (h : placeholderCount placeholder (group.databases.get index) key ≠
      placeholderCount placeholder (baselineOf group index) key) :
    0 < index.val := by
  refine Nat.pos_of_ne_zero fun hzero => h ?_
  rw [baselineOf]
  congr 3
  exact Fin.ext hzero

/-- A key that no database defines has no placeholders anywhere. -/
theorem placeholderCount_of_not_defines
    {db : Database}
    {key : String}
    (h : db.defines key = false) :
    placeholderCount placeholder db key = 0 := by
  have hvalue : db.value? key = none := by
    rw [← Option.not_isSome_iff_eq_none, Database.isSome_value?, h]
    exact Bool.false_ne_true
  rw [placeholderCount, hvalue]

/-- No mismatch of a key is found exactly if all databases have as many placeholders. -/
theorem forall_message_ne_placeholders_iff
    {key : String} :
    (∀ issue ∈ placeholders placeholder group, issue.message ≠ key) ↔
      ∀ first ∈ group.databases, ∀ second ∈ group.databases,
        placeholderCount placeholder first key = placeholderCount placeholder second key := by
  have hfound : (∃ issue ∈ placeholders placeholder group, issue.message = key) ↔ _ :=
    exists_mem_placeholders_iff
  have hdefined : (∃ first ∈ group.databases, ∃ second ∈ group.databases,
      placeholderCount placeholder first key ≠ placeholderCount placeholder second key) →
        key ∈ group.allKeys := by
    rintro ⟨first, hfirst, second, hsecond, hne⟩
    by_contra hkey
    simp only [LocaleGroup.mem_allKeys, not_exists, not_and, Bool.not_eq_true] at hkey
    refine hne ?_
    rw [placeholderCount_of_not_defines placeholder (hkey first hfirst),
      placeholderCount_of_not_defines placeholder (hkey second hsecond)]
  rw [and_iff_right_of_imp hdefined] at hfound
  simpa only [not_exists, not_and, not_not, ne_eq] using not_congr hfound

/--
There is one finding for each key of the group and each database behind the first that has another
number of placeholders than the first, in the order of the keys and then of the databases. It has
both names and both numbers; a key without entry has no placeholders, and is shown with the file as
a whole and no value. So nothing is found about a key exactly if all databases have as many
placeholders, and this does not depend on their order.
-/
theorem placeholders_listed
    (group : LocaleGroup) :
    let count := placeholderCount placeholder
    let baseline := fun index : Fin group.databases.length => group.databases.get ⟨0, index.pos⟩
    let NoMismatch := fun (group : LocaleGroup) (key : String) =>
      ∀ issue ∈ placeholders placeholder group, issue.message ≠ key
    AreListed (Prod.Lex (· < ·) (· < ·))
      (fun place : String × Fin group.databases.length =>
        place.1 ∈ group.allKeys ∧ 0 < place.2.val ∧
        count (group.databases.get place.2) place.1 ≠ count (baseline place.2) place.1)
      (fun place =>
        .placeholderMismatch ((group.databases.get place.2).definitionOf place.1) placeholder
          ⟨(baseline place.2).name, count (baseline place.2) place.1⟩
          ⟨(group.databases.get place.2).name, count (group.databases.get place.2) place.1⟩)
      (placeholders placeholder group) ∧
    (∀ (db : Database) key,
      match db.find? key with
      | some entry =>
          count db key = Text.occurrences placeholder.toList entry.value.toList ∧
          db.definitionOf key = ⟨.ofLine db.file entry.line, key, entry.value⟩
      | none =>
          count db key = 0 ∧ db.definitionOf key = ⟨.ofFile db.file, key, ""⟩) ∧
    (∀ key, NoMismatch group key ↔
      ∀ first ∈ group.databases, ∀ second ∈ group.databases, count first key = count second key) ∧
    ∀ reordered : LocaleGroup, reordered.databases.Perm group.databases →
      ∀ key, NoMismatch reordered key ↔ NoMismatch group key := by
  intro count baseline NoMismatch
  refine ⟨?listed, fun db key => ?counts,
    fun key => forall_message_ne_placeholders_iff placeholder,
    fun reordered hperm key => ?reordered⟩
  case listed =>
    rw [placeholders_eq_flatMap_finRange]
    refine AreListed.congr (areListed_flatMap _ (LocaleGroup.pairwise_allKeys group)
      fun _ _ => (List.pairwise_lt_finRange _).filter _) fun place => ?_
    simp only [List.mem_filter, List.mem_finRange, true_and, decide_eq_true_eq]
    exact and_congr_right fun _ =>
      (and_iff_right_of_imp (pos_of_placeholderCount_ne placeholder)).symm
  case counts =>
    simp only [count, placeholderCount, Database.definitionOf, Database.locationOf, Database.value?]
    cases db.find? key with
    | none => exact ⟨rfl, rfl⟩
    | some entry => exact ⟨rfl, rfl⟩
  case reordered =>
    simp only [NoMismatch, forall_message_ne_placeholders_iff, hperm.mem_iff]

end Placeholders

end Check
end StringsAudit
