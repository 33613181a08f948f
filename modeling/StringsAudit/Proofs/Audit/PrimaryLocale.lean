import Mathlib.Data.List.Perm.Basic
import StringsAudit.Proofs.Audit.Rule

/-!
# What the primary locale does not change

The primary locale decides which database of a group comes first. So it decides what values are
compared with, where a shared value or an unused key is shown, and in which order names are listed.
What is found does not depend on it: each finding is reduced to a remark that leaves those choices
out, and the remarks of a check are those that hold of its databases in any order.

## Main definitions

* `Remark`, `Issue.remark?` : what a finding says apart from the order of databases.
* `remarks` : what some findings say.

## Main results

* `mem_remarks_missing_iff`, `mem_remarks_identical_iff` and so on : the remarks of each check.
* `ghosts_ofTables` : which keys are ghosts does not depend on the primary locale.
* `verdict_of_primary_eq` : what two audits with different primary locales have in common.
-/

namespace StringsAudit

open Check

/-- What a finding of a rule says apart from the order of databases. -/
inductive Remark where
  | duplicateKey (database file key : String)
  | missingKey (database file key : String)
  | identicalValue (key value : String)
  | valueEqualsKey (database file key : String)
  | placeholderMismatch (key : String)
  | unusedKey (key : String) (definitions : Nat)
  | ghostKey (key : String) (first : Site) (others : List Site)
  deriving DecidableEq, Repr

namespace Issue

/-- What a finding says, if a rule made it. -/
def remark? : Issue → Option Remark
  | duplicateKey definition database _ =>
      some (.duplicateKey database definition.location.file definition.key)
  | missingKey key database file _ => some (.missingKey database file key)
  | identicalValue definition _ => some (.identicalValue definition.key definition.value)
  | valueEqualsKey definition database =>
      some (.valueEqualsKey database definition.location.file definition.key)
  | placeholderMismatch definition _ _ _ => some (.placeholderMismatch definition.key)
  | unusedKey definition definitions => some (.unusedKey definition.key definitions)
  | ghostKey key first others => some (.ghostKey key first others)
  | unbalancedComment .. | malformedEntry .. | unreadableFile .. => none

end Issue

/-- Whether the findings that say something are errors. -/
def Remark.isError : Remark → Bool
  | duplicateKey .. | missingKey .. | placeholderMismatch .. | ghostKey .. => true
  | identicalValue .. | valueEqualsKey .. | unusedKey .. => false

theorem Issue.isError_eq_any_remark?
    (issue : Issue) :
    issue.isError = issue.remark?.any (·.isError) := by
  cases issue <;> rfl

/-- What some findings say. -/
def remarks (issues : List Issue) : List Remark :=
  issues.filterMap Issue.remark?

theorem mem_remarks_iff
    {issues : List Issue}
    {remark : Remark} :
    remark ∈ remarks issues ↔ ∃ issue ∈ issues, issue.remark? = some remark :=
  List.mem_filterMap

theorem mem_remarks_append
    {first second : List Issue}
    {remark : Remark} :
    remark ∈ remarks (first ++ second) ↔ remark ∈ remarks first ∨ remark ∈ remarks second := by
  rw [remarks, List.filterMap_append, List.mem_append, remarks, remarks]

theorem mem_remarks_flatMap
    {α : Type}
    {list : List α}
    {issuesOf : α → List Issue}
    {remark : Remark} :
    remark ∈ remarks (list.flatMap issuesOf) ↔ ∃ a ∈ list, remark ∈ remarks (issuesOf a) := by
  rw [remarks, List.filterMap_flatMap, List.mem_flatMap]
  rfl

theorem mem_remarks_ofIssues
    {found : List Issue}
    {coverage : Coverage}
    {remark : Remark} :
    remark ∈ remarks (Verdict.ofIssues found coverage).issues ↔ remark ∈ remarks found := by
  simp only [mem_remarks_iff, Verdict.mem_issues_ofIssues]

theorem Issue.ruleName_beq_ghostKey
    (issue : Issue) :
    (issue.ruleName == "ghost-key") = (issue.ruleRank == Rule.ghost.rank) := by
  cases issue <;> rfl

/-- Findings that say the same are errors alike. -/
theorem exists_isError_iff_of_remarks
    {first second : List Issue}
    (h : ∀ remark, remark ∈ remarks first ↔ remark ∈ remarks second) :
    (∃ issue ∈ first, issue.isError = true) ↔ ∃ issue ∈ second, issue.isError = true := by
  have hremark (issues : List Issue) :
      (∃ issue ∈ issues, issue.isError = true) ↔
        ∃ remark ∈ remarks issues, remark.isError = true := by
    simp only [mem_remarks_iff, Issue.isError_eq_any_remark?, Option.any_eq_true]
    constructor
    · rintro ⟨issue, hissue, remark, heq, herror⟩
      exact ⟨remark, ⟨issue, hissue, heq⟩, herror⟩
    · rintro ⟨remark, ⟨issue, hissue, heq⟩, herror⟩
      exact ⟨issue, hissue, remark, heq, herror⟩
  simp only [hremark, h]

/-! ### What each check says -/

section Checks

variable {group : LocaleGroup} {remark : Remark}

theorem mem_remarks_duplicates_iff :
    remark ∈ remarks (duplicates group) ↔
      ∃ db ∈ group.databases, ∃ key, 1 < db.count key ∧
        remark = .duplicateKey db.name db.file key := by
  simp only [mem_remarks_iff, mem_duplicates_iff]
  constructor
  · rintro ⟨_, ⟨db, hdb, key, hmany, rfl⟩, hremark⟩
    refine ⟨db, hdb, key, hmany, ?_⟩
    rw [← Option.some.inj hremark, Database.definitionOf, Database.file_locationOf]
  · rintro ⟨db, hdb, key, hmany, rfl⟩
    refine ⟨_, ⟨db, hdb, key, hmany, rfl⟩, ?_⟩
    rw [Issue.remark?, Database.definitionOf, Database.file_locationOf]

theorem mem_remarks_missing_iff :
    remark ∈ remarks (missing group) ↔
      ∃ db ∈ group.databases, ∃ key ∈ group.allKeys, db.defines key = false ∧
        remark = .missingKey db.name db.file key := by
  simp only [mem_remarks_iff, mem_missing_iff]
  constructor
  · rintro ⟨_, ⟨db, hdb, key, hkey, hlacks, rfl⟩, hremark⟩
    exact ⟨db, hdb, key, hkey, hlacks, (Option.some.inj hremark).symm⟩
  · rintro ⟨db, hdb, key, hkey, hlacks, rfl⟩
    exact ⟨_, ⟨db, hdb, key, hkey, hlacks, rfl⟩, rfl⟩

theorem mem_remarks_valueEqualsKey_iff :
    remark ∈ remarks (valueEqualsKey group) ↔
      ∃ db ∈ group.databases, ∃ key, db.value? key = some key ∧
        remark = .valueEqualsKey db.name db.file key := by
  simp only [mem_remarks_iff, mem_valueEqualsKey_iff]
  constructor
  · rintro ⟨_, ⟨db, hdb, key, hvalue, rfl⟩, hremark⟩
    refine ⟨db, hdb, key, hvalue, ?_⟩
    rw [← Option.some.inj hremark, Database.file_locationOf]
  · rintro ⟨db, hdb, key, hvalue, rfl⟩
    refine ⟨_, ⟨db, hdb, key, hvalue, rfl⟩, ?_⟩
    rw [Issue.remark?, Database.file_locationOf]

/-- A value is shared if at least two databases give it, whichever of them comes first. -/
theorem mem_remarks_identical_iff :
    remark ∈ remarks (identical group) ↔
      ∃ key value, 1 < (sharers group key value).length ∧
        remark = .identicalValue key value := by
  simp only [mem_remarks_iff, mem_identical_iff]
  constructor
  · rintro ⟨_, ⟨key, value, first, second, rest, hsharers, rfl⟩, hremark⟩
    refine ⟨key, value, ?_, (Option.some.inj hremark).symm⟩
    rw [hsharers, List.length_cons, List.length_cons]
    omega
  · rintro ⟨key, value, hmany, rfl⟩
    match hsharers : sharers group key value, hmany with
    | first :: second :: rest, _ => exact ⟨_, ⟨key, value, first, second, rest, hsharers, rfl⟩, rfl⟩

/-- A key has a mismatch if two databases differ, whichever of them is the baseline. -/
theorem mem_remarks_placeholders_iff
    {placeholder : String} :
    remark ∈ remarks (placeholders placeholder group) ↔
      ∃ key ∈ group.allKeys, (∃ first ∈ group.databases, ∃ second ∈ group.databases,
        placeholderCount placeholder first key ≠ placeholderCount placeholder second key) ∧
        remark = .placeholderMismatch key := by
  have hremark (issue : Issue) (hissue : issue ∈ placeholders placeholder group) :
      issue.remark? = some (.placeholderMismatch issue.message) := by
    obtain ⟨_, _, -, _, -, _, -, -, rfl⟩ := mem_placeholders_iff.mp hissue
    rfl
  simp only [mem_remarks_iff, ← and_assoc, ← exists_mem_placeholders_iff]
  constructor
  · rintro ⟨issue, hissue, heq⟩
    rw [hremark issue hissue, Option.some.injEq] at heq
    exact ⟨issue.message, ⟨issue, hissue, rfl⟩, heq.symm⟩
  · rintro ⟨_, ⟨issue, hissue, rfl⟩, rfl⟩
    exact ⟨issue, hissue, hremark issue hissue⟩

/-- An unused key is counted with all its definitions, whichever of them is shown. -/
theorem mem_remarks_unused_iff
    {groups : List LocaleGroup}
    {used : UsedKeys} :
    remark ∈ remarks (unused groups used) ↔
      ∃ key, used.contains key = false ∧ 0 < (definingDatabases groups key).length ∧
        remark = .unusedKey key (definingDatabases groups key).length := by
  simp only [mem_remarks_iff, mem_unused_iff]
  constructor
  · rintro ⟨_, ⟨key, first, others, hunused, hdefining, rfl⟩, hremark⟩
    refine ⟨key, hunused, ?_⟩
    rw [hdefining, List.length_cons]
    exact ⟨Nat.succ_pos _, (Option.some.inj hremark).symm⟩
  · rintro ⟨key, hunused, hsome, rfl⟩
    match hdefining : definingDatabases groups key, hsome with
    | first :: others, _ => exact ⟨_, ⟨key, first, others, hunused, hdefining, rfl⟩, rfl⟩

end Checks

/-! ### Databases in another order -/

section Reordered

variable {first second : LocaleGroup}

theorem mem_allKeys_iff_of_perm
    (hperm : first.databases.Perm second.databases)
    (key : String) :
    key ∈ first.allKeys ↔ key ∈ second.allKeys := by
  simp only [LocaleGroup.mem_allKeys, hperm.mem_iff]

theorem length_sharers_of_perm
    (hperm : first.databases.Perm second.databases)
    (key value : String) :
    (sharers first key value).length = (sharers second key value).length :=
  (hperm.filter _).length_eq

/-- The checks within a group say the same of databases in another order. -/
theorem mem_remarks_iff_of_perm
    (hperm : first.databases.Perm second.databases)
    (placeholder : String)
    (remark : Remark) :
    (remark ∈ remarks (duplicates first) ↔ remark ∈ remarks (duplicates second)) ∧
    (remark ∈ remarks (missing first) ↔ remark ∈ remarks (missing second)) ∧
    (remark ∈ remarks (identical first) ↔ remark ∈ remarks (identical second)) ∧
    (remark ∈ remarks (valueEqualsKey first) ↔ remark ∈ remarks (valueEqualsKey second)) ∧
    (remark ∈ remarks (placeholders placeholder first) ↔
      remark ∈ remarks (placeholders placeholder second)) := by
  simp only [mem_remarks_duplicates_iff, mem_remarks_missing_iff, mem_remarks_identical_iff,
    mem_remarks_valueEqualsKey_iff, mem_remarks_placeholders_iff, hperm.mem_iff,
    mem_allKeys_iff_of_perm hperm, length_sharers_of_perm hperm, and_self]

end Reordered

/-! ### Another primary locale -/

section Primary

variable (tables : List (String × List Database)) (used : UsedKeys) (primary other : String)

theorem perm_withPrimary_withPrimary
    (name : String)
    (databases : List Database) :
    (LocaleGroup.withPrimary name databases primary).databases.Perm
      (LocaleGroup.withPrimary name databases other).databases :=
  (LocaleGroup.perm_withPrimary name databases primary).trans
    (LocaleGroup.perm_withPrimary name databases other).symm

theorem perm_definingDatabases_ofTables
    (key : String) :
    (definingDatabases (LocaleGroup.ofTables tables primary) key).Perm
      (definingDatabases (LocaleGroup.ofTables tables other) key) := by
  refine List.Perm.filter _ ?_
  rw [LocaleGroup.ofTables, LocaleGroup.ofTables, List.flatMap_map, List.flatMap_map]
  exact List.Perm.flatMap_left tables fun table _ =>
    perm_withPrimary_withPrimary primary other table.1 table.2

theorem projectKeys_ofTables :
    projectKeys (LocaleGroup.ofTables tables primary) =
      projectKeys (LocaleGroup.ofTables tables other) := by
  rw [projectKeys, projectKeys]
  refine Dict.sortedKeys_eq_of_mem_iff fun key => ?_
  simp only [LocaleGroup.ofTables, List.flatMap_map, List.mem_flatMap,
    mem_allKeys_iff_of_perm (perm_withPrimary_withPrimary primary other _ _)]

/-- Which keys are ghosts does not depend on the primary locale, nor does what is shown of them. -/
theorem ghosts_ofTables :
    ghosts (LocaleGroup.ofTables tables primary) used =
      ghosts (LocaleGroup.ofTables tables other) used := by
  rw [ghosts, projectKeys_ofTables tables primary other, ghosts]

end Primary

namespace Evidence

variable {tables : List (String × List Database)} {used : UsedKeys} {placeholder : String}
  {loadIssues : List Issue} {rules : List Rule} (primary other : String)

theorem mem_remarks_flatMap_ofTables_iff
    {check : LocaleGroup → List Issue}
    {remark : Remark} :
    remark ∈ remarks ((LocaleGroup.ofTables tables primary).flatMap check) ↔
      ∃ table ∈ tables,
        remark ∈ remarks (check (.withPrimary table.1 table.2 primary)) := by
  rw [LocaleGroup.ofTables, List.flatMap_map, mem_remarks_flatMap]

/-- Each rule says the same, whatever the primary locale is. -/
theorem mem_remarks_issuesOf_iff
    (rule : Rule)
    (remark : Remark) :
    remark ∈ remarks
        (issuesOf ⟨LocaleGroup.ofTables tables primary, used, placeholder, loadIssues⟩ rule) ↔
      remark ∈ remarks
        (issuesOf ⟨LocaleGroup.ofTables tables other, used, placeholder, loadIssues⟩ rule) := by
  have hgroup (table : String × List Database) :=
    mem_remarks_iff_of_perm (perm_withPrimary_withPrimary primary other table.1 table.2)
      placeholder remark
  cases rule with
  | duplicate => simp only [issuesOf, mem_remarks_flatMap_ofTables_iff, hgroup]
  | missing => simp only [issuesOf, mem_remarks_flatMap_ofTables_iff, hgroup]
  | identical => simp only [issuesOf, mem_remarks_flatMap_ofTables_iff, hgroup]
  | valueEqualsKey => simp only [issuesOf, mem_remarks_flatMap_ofTables_iff, hgroup]
  | placeholder => simp only [issuesOf, mem_remarks_flatMap_ofTables_iff, hgroup]
  | unused =>
      have hlength (key : String) :=
        (perm_definingDatabases_ofTables tables primary other key).length_eq
      simp only [issuesOf, mem_remarks_unused_iff, hlength]
  | ghost => rw [issuesOf, issuesOf, ghosts_ofTables tables used primary other]

theorem mem_remarks_issues_iff
    (remark : Remark) :
    remark ∈ remarks
        (issues ⟨LocaleGroup.ofTables tables primary, used, placeholder, loadIssues⟩ rules) ↔
      remark ∈ remarks
        (issues ⟨LocaleGroup.ofTables tables other, used, placeholder, loadIssues⟩ rules) := by
  simp only [issues, mem_remarks_append, mem_remarks_flatMap,
    mem_remarks_issuesOf_iff primary other]

/-- Only the ghost rule finds ghosts, and it finds the same ones. -/
theorem filter_ghostKey_issues_eq :
    (issues ⟨LocaleGroup.ofTables tables primary, used, placeholder, loadIssues⟩ rules).filter
        (·.ruleRank == Rule.ghost.rank) =
      (issues ⟨LocaleGroup.ofTables tables other, used, placeholder, loadIssues⟩ rules).filter
        (·.ruleRank == Rule.ghost.rank) := by
  simp only [issues, List.filter_append, List.filter_flatMap]
  congr 1
  refine List.flatMap_congr fun rule _ => ?_
  by_cases heq : rule = .ghost
  · rw [heq, issuesOf, issuesOf, ghosts_ofTables tables used primary other]
  · rw [filter_rank_issuesOf_of_ne heq, filter_rank_issuesOf_of_ne heq]

/-- A group has a reported mismatch of a key if the rule runs and two of its databases differ. -/
theorem exists_mismatch_iff
    (hload : ∀ issue ∈ loadIssues, issue.isFromLoading = true)
    {table : String × List Database}
    (htable : table ∈ tables)
    (key : String) :
    (∃ issue ∈
        issues ⟨LocaleGroup.ofTables tables primary, used, placeholder, loadIssues⟩ rules,
      issue ∈ placeholders placeholder (.withPrimary table.1 table.2 primary) ∧
        issue.message = key) ↔
      .placeholder ∈ rules ∧ (∃ db ∈ table.2, db.defines key = true) ∧
        ∃ first ∈ table.2, ∃ second ∈ table.2,
          placeholderCount placeholder first key ≠ placeholderCount placeholder second key := by
  have hfound (issue : Issue)
      (hissue : issue ∈ placeholders placeholder (.withPrimary table.1 table.2 primary)) :
      issue ∈ issues ⟨LocaleGroup.ofTables tables primary, used, placeholder, loadIssues⟩ rules ↔
        .placeholder ∈ rules := by
    refine mem_issues_iff_of_mem_issuesOf hload (List.mem_flatMap.mpr ⟨_, ?_, hissue⟩) rules
    exact List.mem_map_of_mem htable
  have hdiffer : (∃ issue ∈ placeholders placeholder (.withPrimary table.1 table.2 primary),
      issue.message = key) ↔ _ := exists_mem_placeholders_iff
  simp only [LocaleGroup.mem_allKeys, LocaleGroup.mem_databases_withPrimary] at hdiffer
  rw [← hdiffer]
  constructor
  · rintro ⟨issue, hissue, hgroup, heq⟩
    exact ⟨(hfound issue hgroup).mp hissue, issue, hgroup, heq⟩
  · rintro ⟨hrule, issue, hgroup, heq⟩
    exact ⟨issue, (hfound issue hgroup).mpr hrule, hgroup, heq⟩

end Evidence

/--
With one primary locale or another, an audit has the same exit status, finds the same ghosts and
says the same of the same keys; a group has a placeholder mismatch of a key with one primary
locale exactly if it has one with the other.
-/
theorem verdict_of_primary_eq
    {loadIssues : List Issue}
    (hload : ∀ issue ∈ loadIssues, issue.isFromLoading = true)
    (tables : List (String × List Database))
    (used : UsedKeys)
    (placeholder : String)
    (rules : List Rule)
    (coverage : Coverage)
    (primary other : String) :
    let verdict := fun locale => Verdict.ofIssues
      (Evidence.issues ⟨LocaleGroup.ofTables tables locale, used, placeholder, loadIssues⟩ rules)
      coverage
    let mismatch := fun locale (table : String × List Database) key =>
      ∃ issue ∈ (verdict locale).issues,
        issue ∈ placeholders placeholder (.withPrimary table.1 table.2 locale) ∧
          issue.message = key
    ExitStatus.ofVerdict (verdict primary) = ExitStatus.ofVerdict (verdict other) ∧
    (verdict primary).issues.filter (·.ruleName == "ghost-key") =
      (verdict other).issues.filter (·.ruleName == "ghost-key") ∧
    (∀ remark, remark ∈ remarks (verdict primary).issues ↔
      remark ∈ remarks (verdict other).issues) ∧
    ∀ table ∈ tables, ∀ key, mismatch primary table key ↔ mismatch other table key := by
  intro verdict mismatch
  have hremarks (remark : Remark) :
      remark ∈ remarks (verdict primary).issues ↔ remark ∈ remarks (verdict other).issues := by
    rw [mem_remarks_ofIssues, mem_remarks_ofIssues]
    exact Evidence.mem_remarks_issues_iff primary other remark
  refine ⟨?status, ?ghosts, hremarks, ?mismatch⟩
  case status =>
    refine ExitStatus.ofVerdict_eq_of_failure_iff ?_
    have herror := exists_isError_iff_of_remarks hremarks
    simpa only [verdict, ExitStatus.ofVerdict_ofIssues_eq_failure_iff,
      Verdict.mem_issues_ofIssues] using herror
  case ghosts =>
    simp only [Issue.ruleName_beq_ghostKey, verdict, Verdict.filter_issues_ofIssues]
    rw [Evidence.filter_ghostKey_issues_eq primary other]
  case mismatch =>
    intro table htable key
    simp only [mismatch, verdict, Verdict.mem_issues_ofIssues]
    rw [Evidence.exists_mismatch_iff primary hload htable,
      Evidence.exists_mismatch_iff other hload htable]

/-- English or German first: the mismatch is shown in the other file, but both runs end alike. -/
theorem verdict_of_english_or_german :
    let english : Database :=
      .ofAssignments "en.lproj" "en" "en.lproj/L.strings" [⟨"left", 1, "%@ of %@"⟩]
    let german : Database :=
      .ofAssignments "de.lproj" "de" "de.lproj/L.strings" [⟨"left", 1, "noch %@"⟩]
    let groups := LocaleGroup.ofTables [("L.strings", [english, german])]
    let loadIssues := [Issue.unbalancedComment "de.lproj/L.strings" 2]
    let verdict := fun locale => Verdict.ofIssues
      (Evidence.issues ⟨groups locale, .empty, "%@", loadIssues⟩ [.placeholder]) ⟨2, 1, 0⟩
    (∀ issue ∈ loadIssues, issue.isFromLoading = true) ∧
    placeholderCount "%@" english "left" ≠ placeholderCount "%@" german "left" ∧
    ExitStatus.ofVerdict (verdict "en") = ExitStatus.ofVerdict (verdict "de") ∧
    ∀ remark, remark ∈ remarks (verdict "en").issues ↔ remark ∈ remarks (verdict "de").issues := by
  intro english german groups loadIssues verdict
  have hload : ∀ issue ∈ loadIssues, issue.isFromLoading = true := by
    simp [loadIssues, Issue.isFromLoading]
  obtain ⟨hstatus, -, hremarks, -⟩ := verdict_of_primary_eq hload
    [("L.strings", [english, german])] .empty "%@" [.placeholder] ⟨2, 1, 0⟩ "en" "de"
  exact ⟨hload, by decide +kernel, hstatus, hremarks⟩

end StringsAudit
