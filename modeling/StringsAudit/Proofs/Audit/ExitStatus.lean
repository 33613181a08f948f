import Mathlib.Data.List.Basic
import StringsAudit.Proofs.Audit.Rule

/-!
# Which defects fail an audit

Four rules find errors. For each of them there is a defect, in terms of the databases and the used
keys alone, such that the rule finds an error exactly if the evidence has the defect. What was found
while the files were loaded never fails an audit.

## Main definitions

* `Evidence.IsLoaded` : evidence as it comes from loading files.
* `Evidence.HasDefect` : what makes a rule find an error.

## Main results

* `Evidence.exists_isError_issuesOf_iff` : a rule finds an error exactly if there is its defect.
* `exitStatus_iff_hasDefect` : an audit fails exactly if there is a defect of a selected rule.
-/

namespace StringsAudit

open Check

namespace Evidence

/-- Evidence as it comes from loading files. -/
structure IsLoaded (evidence : Evidence) : Prop where
  usedKeys : evidence.usedKeys.IsBuilt
  loadIssues : ∀ issue ∈ evidence.loadIssues, issue.isFromLoading = true

/-- The defect that makes a rule find an error; the other rules only warn. -/
def HasDefect (evidence : Evidence) : Rule → Prop
  | .duplicate =>
      ∃ group ∈ evidence.groups, ∃ db ∈ group.databases, ∃ key, 1 < db.count key
  | .missing =>
      ∃ group ∈ evidence.groups, ∃ first ∈ group.databases, ∃ second ∈ group.databases,
        ∃ key, first.defines key = true ∧ second.defines key = false
  | .placeholder =>
      ∃ group ∈ evidence.groups, ∃ key ∈ group.allKeys,
        ∃ first ∈ group.databases, ∃ second ∈ group.databases,
          placeholderCount evidence.placeholder first key ≠
            placeholderCount evidence.placeholder second key
  | .ghost =>
      ∃ key, evidence.usedKeys.contains key = true ∧
        ∀ group ∈ evidence.groups, ∀ db ∈ group.databases, db.defines key = false
  | .identical | .valueEqualsKey | .unused => False

theorem exists_missing_iff
    {group : LocaleGroup} :
    (∃ issue ∈ missing group, issue.isError = true) ↔
      ∃ first ∈ group.databases, ∃ second ∈ group.databases,
        ∃ key, first.defines key = true ∧ second.defines key = false := by
  simp only [mem_missing_iff, LocaleGroup.mem_allKeys]
  constructor
  · rintro ⟨_, ⟨second, hsecond, key, ⟨first, hfirst, hdefines⟩, hlacks, -⟩, -⟩
    exact ⟨first, hfirst, second, hsecond, key, hdefines, hlacks⟩
  · rintro ⟨first, hfirst, second, hsecond, key, hdefines, hlacks⟩
    exact ⟨_, ⟨second, hsecond, key, ⟨first, hfirst, hdefines⟩, hlacks, rfl⟩, rfl⟩

theorem exists_duplicates_iff
    {group : LocaleGroup} :
    (∃ issue ∈ duplicates group, issue.isError = true) ↔
      ∃ db ∈ group.databases, ∃ key, 1 < db.count key := by
  simp only [mem_duplicates_iff]
  constructor
  · rintro ⟨_, ⟨db, hdb, key, hmany, -⟩, -⟩
    exact ⟨db, hdb, key, hmany⟩
  · rintro ⟨db, hdb, key, hmany⟩
    exact ⟨_, ⟨db, hdb, key, hmany, rfl⟩, rfl⟩

theorem exists_placeholders_iff
    {placeholder : String}
    {group : LocaleGroup} :
    (∃ issue ∈ placeholders placeholder group, issue.isError = true) ↔
      ∃ key ∈ group.allKeys, ∃ first ∈ group.databases, ∃ second ∈ group.databases,
        placeholderCount placeholder first key ≠ placeholderCount placeholder second key := by
  simp only [← exists_mem_placeholders_iff]
  constructor
  · rintro ⟨issue, hissue, -⟩
    exact ⟨issue.message, issue, hissue, rfl⟩
  · rintro ⟨_, issue, hissue, -⟩
    obtain ⟨_, _, -, _, -, _, -, -, rfl⟩ := mem_placeholders_iff.mp hissue
    exact ⟨_, hissue, rfl⟩

theorem exists_ghosts_iff
    {groups : List LocaleGroup}
    {used : UsedKeys}
    (hbuilt : used.IsBuilt) :
    (∃ issue ∈ ghosts groups used, issue.isError = true) ↔
      ∃ key, used.contains key = true ∧
        ∀ group ∈ groups, ∀ db ∈ group.databases, db.defines key = false := by
  have hundefined (key : String) : key ∉ projectKeys groups ↔
      ∀ group ∈ groups, ∀ db ∈ group.databases, db.defines key = false := by
    simp only [mem_projectKeys, not_exists, not_and, Bool.not_eq_true]
  simp only [mem_ghosts_iff, hundefined]
  constructor
  · rintro ⟨_, ⟨key, first, others, hghost, husages, -⟩, -⟩
    exact ⟨key, UsedKeys.contains_of_usages_eq_cons husages, hghost⟩
  · rintro ⟨key, hused, hghost⟩
    obtain ⟨first, others, husages⟩ := List.exists_cons_of_ne_nil (hbuilt.usages_ne_nil hused)
    exact ⟨_, ⟨key, first, others, hghost, husages, rfl⟩, rfl⟩

theorem exists_mem_flatMap_iff
    {groups : List LocaleGroup}
    {check : LocaleGroup → List Issue} :
    (∃ issue ∈ groups.flatMap check, issue.isError = true) ↔
      ∃ group ∈ groups, ∃ issue ∈ check group, issue.isError = true := by
  simp only [List.mem_flatMap]
  constructor
  · rintro ⟨issue, ⟨group, hgroup, hissue⟩, herror⟩
    exact ⟨group, hgroup, issue, hissue, herror⟩
  · rintro ⟨group, hgroup, issue, hissue, herror⟩
    exact ⟨issue, ⟨group, hgroup, hissue⟩, herror⟩

/-- A rule finds an error exactly if the evidence has the defect of the rule. -/
theorem exists_isError_issuesOf_iff
    {evidence : Evidence}
    (hbuilt : evidence.usedKeys.IsBuilt)
    (rule : Rule) :
    (∃ issue ∈ evidence.issuesOf rule, issue.isError = true) ↔ evidence.HasDefect rule := by
  have hwarns (h : rule.findsErrors = false) :
      ¬ ∃ issue ∈ evidence.issuesOf rule, issue.isError = true := by
    rintro ⟨issue, hissue, herror⟩
    rw [isError_of_mem_issuesOf hissue, h] at herror
    exact Bool.false_ne_true herror
  cases rule with
  | duplicate => simp only [issuesOf, HasDefect, exists_mem_flatMap_iff, exists_duplicates_iff]
  | missing => simp only [issuesOf, HasDefect, exists_mem_flatMap_iff, exists_missing_iff]
  | placeholder => simp only [issuesOf, HasDefect, exists_mem_flatMap_iff, exists_placeholders_iff]
  | ghost => exact exists_ghosts_iff hbuilt
  | identical => exact iff_of_false (hwarns rfl) id
  | valueEqualsKey => exact iff_of_false (hwarns rfl) id
  | unused => exact iff_of_false (hwarns rfl) id

/-- The findings hold an error exactly if there is a defect of a selected rule. -/
theorem exists_isError_issues_iff
    {evidence : Evidence}
    (hloaded : evidence.IsLoaded)
    (rules : List Rule) :
    (∃ issue ∈ evidence.issues rules, issue.isError = true) ↔
      ∃ rule ∈ rules, evidence.HasDefect rule := by
  simp only [issues, List.mem_append, List.mem_flatMap,
    ← exists_isError_issuesOf_iff hloaded.usedKeys]
  constructor
  · rintro ⟨issue, ⟨rule, hrule, hissue⟩ | hissue, herror⟩
    · exact ⟨rule, hrule, issue, hissue, herror⟩
    · have hwarning := Issue.isError_of_isFromLoading (hloaded.loadIssues issue hissue)
      exact absurd (hwarning.symm.trans herror) Bool.false_ne_true
  · rintro ⟨rule, hrule, issue, hissue, herror⟩
    exact ⟨issue, .inl ⟨rule, hrule, hissue⟩, herror⟩

theorem ofVerdict_eq_failure_iff
    {evidence : Evidence}
    (hloaded : evidence.IsLoaded)
    (rules : List Rule)
    (coverage : Coverage) :
    ExitStatus.ofVerdict (.ofIssues (evidence.issues rules) coverage) = .failure ↔
      ∃ rule ∈ rules, evidence.HasDefect rule :=
  ExitStatus.ofVerdict_ofIssues_eq_failure_iff.trans (exists_isError_issues_iff hloaded rules)

end Evidence

/--
An audit fails exactly if the evidence has a defect of a selected rule, and succeeds otherwise,
whatever else was found, and whatever went wrong while the files were loaded.
-/
theorem exitStatus_iff_hasDefect
    {evidence : Evidence}
    (hloaded : evidence.IsLoaded)
    (rules : List Rule)
    (coverage : Coverage) :
    let status := ExitStatus.ofVerdict (.ofIssues (evidence.issues rules) coverage)
    (status = .failure ∧ status.code = 1 ↔ ∃ rule ∈ rules, evidence.HasDefect rule) ∧
    (status = .success ∧ status.code = 0 ↔ ¬ ∃ rule ∈ rules, evidence.HasDefect rule) := by
  intro status
  have hfailure : status = .failure ↔ ∃ rule ∈ rules, evidence.HasDefect rule :=
    Evidence.ofVerdict_eq_failure_iff hloaded rules coverage
  rw [← hfailure]
  rcases ExitStatus.ofVerdict_cases (.ofIssues (evidence.issues rules) coverage) with heq | heq
  · simp [status, heq, ExitStatus.code]
  · simp [status, heq, ExitStatus.code]

/-- A misspelt key fails a run that looks for ghosts; that it leaves a key unused does not. -/
theorem exitStatus_of_misspelt_key :
    let english : Database :=
      .ofAssignments "en.lproj" "en" "en.lproj/L.strings" [⟨"title", 1, "Title"⟩]
    let site : Site := ⟨⟨"A.swift", 3, 9⟩, "let t = \"titel\".localized"⟩
    let evidence : Evidence :=
      ⟨[⟨"L.strings", [english]⟩], .insert .empty "titel" site, "%@",
        [.unreadableFile "B.swift" "stream did not contain valid UTF-8"]⟩
    let status := fun rules => ExitStatus.ofVerdict (.ofIssues (evidence.issues rules) ⟨1, 1, 2⟩)
    evidence.IsLoaded ∧
    (status [.unused, .ghost] = .failure ∧ (status [.unused, .ghost]).code = 1) ∧
    (status [.unused] = .success ∧ (status [.unused]).code = 0) := by
  intro english site evidence status
  have hloaded : evidence.IsLoaded :=
    ⟨.insert "titel" site .empty, by simp [evidence, Issue.isFromLoading]⟩
  have hghost : evidence.HasDefect .ghost := by
    refine ⟨"titel", by decide +kernel, ?_⟩
    simp only [evidence, List.forall_mem_singleton]
    decide +kernel
  refine ⟨hloaded, (exitStatus_iff_hasDefect hloaded [.unused, .ghost] ⟨1, 1, 2⟩).1.mpr ?_,
    (exitStatus_iff_hasDefect hloaded [.unused] ⟨1, 1, 2⟩).2.mpr ?_⟩
  · exact ⟨.ghost, by simp, hghost⟩
  · simp [Evidence.HasDefect]

end StringsAudit
