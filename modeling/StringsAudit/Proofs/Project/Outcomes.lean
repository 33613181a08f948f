import Mathlib.Data.List.Perm.Basic
import StringsAudit.Project
import StringsAudit.Proofs.LocaleGroup
import StringsAudit.Proofs.UsedKeys
import StringsAudit.Proofs.Verdict

/-!
# What the files of a project say together

What became of reading files is put together file by file: databases by the names of their groups,
references to keys by merging, findings one behind the other. Each has a closed form in which a file
that cannot be read has no part, and which shows what the order of the files is good for.

## Main definitions

* `Project.table?`, `Project.references?` : what a file adds to the groups and to the used keys.

## Main results

* `groupsOf_eq_map`, `usedKeysOf_eq_merged` : the closed forms.
* `groupsOf_eq_of_perm` : the order of strings files does not matter for the groups.
* `perm_members_groupsOf` : the groups hold the database of each readable file once.
* `length_tables_add_unreadable` : each strings file is a database or a finding.
* `mem_resourceIssues_iff`, `mem_sourceIssues_iff` : the findings of a file.
-/

namespace StringsAudit
namespace Project

/-- The name of the group and the database of a file that could be read. -/
def table? (suffix : String) (outcome : FileOutcome StringsFile.Parsed) :
    Option (String × Database) :=
  match outcome.result with
  | .ok parsed => some (groupName suffix outcome.file.display, parsed.database)
  | .error _ => none

/-- The references of a file that could be read. -/
def references? (outcome : FileOutcome SourceFile.Parsed) : Option UsedKeys :=
  match outcome.result with
  | .ok parsed => some parsed.usedKeys
  | .error _ => none

theorem references?_eq_some_iff
    {outcome : FileOutcome SourceFile.Parsed}
    {used : UsedKeys} :
    references? outcome = some used ↔
      ∃ parsed, outcome.result = .ok parsed ∧ parsed.usedKeys = used := by
  rw [references?]
  cases outcome.result <;> simp

/-! ### Groups -/

theorem databasesOf_eq_gather
    (suffix : String)
    (outcomes : List (FileOutcome StringsFile.Parsed)) :
    databasesOf suffix outcomes = Dict.gather (outcomes.filterMap (table? suffix)) := by
  rw [databasesOf, Dict.gather, List.foldl_filterMap]
  congr 1
  funext dict outcome
  rw [table?]
  cases outcome.result <;> rfl

/-- The groups are those of the tables that the databases form. -/
theorem groupsOf_eq_ofTables
    (config : Config)
    (outcomes : List (FileOutcome StringsFile.Parsed)) :
    groupsOf config outcomes =
      LocaleGroup.ofTables (databasesOf config.localeFolderSuffix outcomes).pairs
        config.primaryLocale := by
  rfl

/-- Each name of a group once, in order, with the databases of the group. -/
theorem groupsOf_eq_map
    (config : Config)
    (outcomes : List (FileOutcome StringsFile.Parsed)) :
    let tables := outcomes.filterMap (table? config.localeFolderSuffix)
    groupsOf config outcomes =
      (Dict.sortedKeys (tables.map (·.1))).map fun name =>
        .withPrimary name (Dict.valuesOf tables name) config.primaryLocale := by
  intro tables
  rw [groupsOf_eq_ofTables, databasesOf_eq_gather, LocaleGroup.ofTables, Dict.pairs_gather,
    List.map_map]
  rfl

/-- No group has two databases of one name. -/
theorem forall_nodup_names_iff
    {config : Config}
    {outcomes : List (FileOutcome StringsFile.Parsed)} :
    (∀ group ∈ groupsOf config outcomes, (group.databases.map (·.name)).Nodup) ↔
      ∀ name, ((Dict.valuesOf (outcomes.filterMap (table? config.localeFolderSuffix)) name).map
        (·.name)).Nodup := by
  have hperm (name : String) (databases : List Database) :=
    ((LocaleGroup.perm_withPrimary name databases config.primaryLocale).map (·.name)).nodup_iff
  rw [groupsOf_eq_map]
  constructor
  · intro h name
    by_cases hname : name ∈ (outcomes.filterMap (table? config.localeFolderSuffix)).map (·.1)
    · have hown := h _ (List.mem_map_of_mem (Dict.mem_sortedKeys.mpr hname))
      exact (hperm name _).mp hown
    · rw [Dict.valuesOf_eq_nil_iff.mpr hname]
      exact List.nodup_nil
  · intro h group hgroup
    obtain ⟨name, -, rfl⟩ := List.mem_map.mp hgroup
    exact (hperm name _).mpr (h name)

/-- The order of strings files does not matter if no group has two databases of one name. -/
theorem groupsOf_eq_of_perm
    (config : Config)
    {first second : List (FileOutcome StringsFile.Parsed)}
    (hperm : first.Perm second)
    (hnames : ∀ group ∈ groupsOf config first, (group.databases.map (·.name)).Nodup) :
    groupsOf config first = groupsOf config second := by
  have htables := hperm.filterMap (table? config.localeFolderSuffix)
  rw [groupsOf_eq_map, groupsOf_eq_map,
    ← Dict.sortedKeys_eq_of_mem_iff fun name => (htables.map (·.1)).mem_iff]
  refine List.map_congr_left fun name _ => ?_
  exact LocaleGroup.withPrimary_eq_of_perm name _ (Dict.valuesOf_perm htables name)
    (forall_nodup_names_iff.mp hnames name)

/-- The groups hold the databases of readable files, each under the name of its group. -/
theorem perm_members_groupsOf
    (config : Config)
    (outcomes : List (FileOutcome StringsFile.Parsed)) :
    (LocaleGroup.members (groupsOf config outcomes)).Perm
      (outcomes.filterMap (table? config.localeFolderSuffix)) := by
  rw [groupsOf_eq_ofTables, databasesOf_eq_gather]
  exact (LocaleGroup.perm_members_ofTables _ _).trans (Dict.perm_items_gather _)

/-- The names of groups come in strictly increasing order. -/
theorem pairwise_names_groupsOf
    (config : Config)
    (outcomes : List (FileOutcome StringsFile.Parsed)) :
    ((groupsOf config outcomes).map (·.name)).Pairwise (· < ·) := by
  have hnames : (groupsOf config outcomes).map (·.name) =
      (databasesOf config.localeFolderSuffix outcomes).keys := by
    rw [groupsOf, List.map_map, Dict.keys]
    rfl
  rw [hnames]
  exact Dict.pairwise_keys _

/-- No group is empty. -/
theorem databases_ne_nil_of_mem_groupsOf
    {config : Config}
    {outcomes : List (FileOutcome StringsFile.Parsed)}
    {group : LocaleGroup}
    (hgroup : group ∈ groupsOf config outcomes) :
    group.databases ≠ [] := by
  rw [groupsOf_eq_map] at hgroup
  obtain ⟨name, hname, rfl⟩ := List.mem_map.mp hgroup
  rw [Dict.mem_sortedKeys] at hname
  obtain ⟨db, hdb⟩ := List.exists_mem_of_ne_nil _ fun hnil => Dict.valuesOf_eq_nil_iff.mp hnil hname
  exact List.ne_nil_of_mem (LocaleGroup.mem_databases_withPrimary.mpr hdb)

/-! ### Used keys -/

theorem usedKeysOf_eq_merged
    (outcomes : List (FileOutcome SourceFile.Parsed)) :
    usedKeysOf outcomes = UsedKeys.merged (outcomes.filterMap references?) := by
  rw [usedKeysOf, UsedKeys.merged, List.foldl_filterMap]
  congr 1
  funext used outcome
  rw [references?]
  cases outcome.result <;> rfl

/-- Files that cannot be read do not change the used keys. -/
theorem usedKeysOf_filter_isReadable
    (outcomes : List (FileOutcome SourceFile.Parsed)) :
    usedKeysOf (outcomes.filter isReadable) = usedKeysOf outcomes := by
  rw [usedKeysOf_eq_merged, usedKeysOf_eq_merged, List.filterMap_filter]
  congr 1
  refine List.filterMap_congr fun outcome _ => ?_
  rw [isReadable, references?]
  cases outcome.result <;> rfl

/-! ### Findings -/

section Findings

variable {issue : Issue}

theorem mem_commentIssues_iff
    {file : String}
    {warnings : List Comment.Warning} :
    issue ∈ commentIssues file warnings ↔
      ∃ warning ∈ warnings, issue = .unbalancedComment file warning.line := by
  simp only [commentIssues, List.mem_map, eq_comm]

theorem mem_entryIssues_iff
    {file : String}
    {warnings : List StringsFile.Warning} :
    issue ∈ entryIssues file warnings ↔
      ∃ warning ∈ warnings,
        issue = .malformedEntry file warning.line warning.lineText warning.remainder := by
  simp only [entryIssues, List.mem_map, eq_comm]

/-- What can be found while a strings file is read. -/
theorem mem_resourceIssues_iff
    {outcome : FileOutcome StringsFile.Parsed} :
    issue ∈ resourceIssues outcome ↔
      (∃ parsed, outcome.result = .ok parsed ∧
        ((∃ warning ∈ parsed.commentWarnings,
          issue = .unbalancedComment outcome.file.display warning.line) ∨
        ∃ warning ∈ parsed.entryWarnings,
          issue = .malformedEntry outcome.file.display warning.line warning.lineText
            warning.remainder)) ∨
      ∃ failure, outcome.result = .error failure ∧
        issue = .unreadableFile outcome.file.display failure.message := by
  rw [resourceIssues]
  cases outcome.result with
  | ok parsed => simp [mem_commentIssues_iff, mem_entryIssues_iff]
  | error failure => simp

/-- What can be found while a source file is read. -/
theorem mem_sourceIssues_iff
    {outcome : FileOutcome SourceFile.Parsed} :
    issue ∈ sourceIssues outcome ↔
      (∃ parsed, outcome.result = .ok parsed ∧
        ∃ warning ∈ parsed.commentWarnings,
          issue = .unbalancedComment outcome.file.display warning.line) ∨
      ∃ failure, outcome.result = .error failure ∧
        issue = .unreadableFile outcome.file.display failure.message := by
  rw [sourceIssues]
  cases outcome.result with
  | ok parsed => simp [mem_commentIssues_iff]
  | error failure => simp

theorem resourceIssues_of_error
    (outcome : FileOutcome StringsFile.Parsed)
    (failure : Failure)
    (h : outcome.result = .error failure) :
    resourceIssues outcome = [.unreadableFile outcome.file.display failure.message] := by
  rw [resourceIssues, h]

theorem sourceIssues_of_error
    (outcome : FileOutcome SourceFile.Parsed)
    (failure : Failure)
    (h : outcome.result = .error failure) :
    sourceIssues outcome = [.unreadableFile outcome.file.display failure.message] := by
  rw [sourceIssues, h]

theorem isFromLoading_of_mem_resourceIssues
    {outcome : FileOutcome StringsFile.Parsed}
    (h : issue ∈ resourceIssues outcome) :
    issue.isFromLoading = true := by
  obtain ⟨_, -, ⟨_, -, rfl⟩ | ⟨_, -, rfl⟩⟩ | ⟨_, -, rfl⟩ := mem_resourceIssues_iff.mp h <;> rfl

theorem isFromLoading_of_mem_sourceIssues
    {outcome : FileOutcome SourceFile.Parsed}
    (h : issue ∈ sourceIssues outcome) :
    issue.isFromLoading = true := by
  obtain ⟨_, -, _, -, rfl⟩ | ⟨_, -, rfl⟩ := mem_sourceIssues_iff.mp h <;> rfl

theorem isUnreadableFile_of_mem_resourceIssues
    {outcome : FileOutcome StringsFile.Parsed}
    (hreadable : isReadable outcome = true)
    (h : issue ∈ resourceIssues outcome) :
    issue.isUnreadableFile = false := by
  obtain ⟨_, -, ⟨_, -, rfl⟩ | ⟨_, -, rfl⟩⟩ | ⟨_, hresult, -⟩ := mem_resourceIssues_iff.mp h
  · rfl
  · rfl
  · simp [isReadable, hresult] at hreadable

theorem isUnreadableFile_of_mem_sourceIssues
    {outcome : FileOutcome SourceFile.Parsed}
    (hreadable : isReadable outcome = true)
    (h : issue ∈ sourceIssues outcome) :
    issue.isUnreadableFile = false := by
  obtain ⟨_, -, _, -, rfl⟩ | ⟨_, hresult, -⟩ := mem_sourceIssues_iff.mp h
  · rfl
  · simp [isReadable, hresult] at hreadable

/-- A strings file adds a database to the groups, or one finding that it cannot be read. -/
theorem length_table_add_unreadable
    (suffix : String)
    (outcome : FileOutcome StringsFile.Parsed) :
    (table? suffix outcome).toList.length
      + (resourceIssues outcome).countP (·.isUnreadableFile) = 1 := by
  cases hresult : outcome.result with
  | error failure =>
      rw [resourceIssues_of_error outcome failure hresult, table?, hresult]
      rfl
  | ok parsed =>
      have hreadable : isReadable outcome = true := by rw [isReadable, hresult]
      have hnone : (resourceIssues outcome).countP (·.isUnreadableFile) = 0 := by
        refine List.countP_eq_zero.mpr fun issue hissue => ?_
        rw [isUnreadableFile_of_mem_resourceIssues hreadable hissue]
        exact Bool.false_ne_true
      rw [hnone, table?, hresult]
      rfl

/-- Strings files are as many as the databases and the findings that one cannot be read. -/
theorem length_tables_add_unreadable
    (suffix : String)
    (outcomes : List (FileOutcome StringsFile.Parsed)) :
    (outcomes.filterMap (table? suffix)).length
      + (outcomes.flatMap resourceIssues).countP (·.isUnreadableFile) = outcomes.length := by
  induction outcomes with
  | nil => rfl
  | cons outcome rest ih =>
      have hone := length_table_add_unreadable suffix outcome
      rw [List.flatMap_cons, List.countP_append, List.length_cons]
      cases htable : table? suffix outcome with
      | none =>
          rw [htable, Option.toList_none, List.length_nil] at hone
          rw [List.filterMap_cons_none htable]
          omega
      | some table =>
          rw [htable, Option.toList_some, List.length_singleton] at hone
          rw [List.filterMap_cons_some htable, List.length_cons]
          omega

end Findings

end Project
end StringsAudit
