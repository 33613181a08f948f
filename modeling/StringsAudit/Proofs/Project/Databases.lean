import Mathlib.Data.List.Perm.Basic
import StringsAudit.Proofs.Assignments
import StringsAudit.Proofs.Project.Failure
import StringsAudit.Proofs.Report.Success
import StringsAudit.Run

/-!
# The databases of a project

Strings files are read one by one, their databases are gathered by the names of their groups, and
each group is sorted. None of this loses a database or doubles one. So the number of strings files,
which is taken from the scan and shown when nothing was found, is the number of databases that the
rules have looked at.

## Main definitions

* `Project.databaseFrom`, `Project.tableFrom?` : what a strings file adds to the groups.

## Main results

* `perm_members_groupsFrom` : the groups hold what the files add.
* `count_databases_groupsFrom` : the database of a readable file is in the groups once.
* `length_databases_add_unreadable` : each strings file is a database or a finding.
* `successLine_mem_runCheck_iff` : when a run reports success, and with which numbers.
* `each_database_in_one_group` : loading loses and doubles no database.
-/

namespace StringsAudit

theorem StringsFile.file_database_parse
    (content file suffix : String)
    (limit : Comment.Depth) :
    (parse content file suffix limit).database.file = file :=
  (Database.labels_ofAssignments _).2.2

namespace Project

/-! ### Where databases come from -/

section Databases

variable {files : Files Id} {config : Config} {resources : List ProjectFile}

/-- The database of a file with a given text. -/
def databaseFrom (config : Config) (file : ProjectFile) (text : String) : Database :=
  (StringsFile.parse text file.display config.localeFolderSuffix config.commentDepth).database

/-- The name of the group and the database of a file, if it can be read. -/
def tableFrom? (files : Files Id) (config : Config) (file : ProjectFile) :
    Option (String × Database) :=
  match (files.read file.path).run with
  | .ok text =>
      some (groupName config.localeFolderSuffix file.display, databaseFrom config file text)
  | .error _ => none

theorem tableFrom?_eq_some_iff
    {file : ProjectFile}
    {name : String}
    {db : Database} :
    tableFrom? files config file = some (name, db) ↔
      ∃ text, (files.read file.path).run = .ok text ∧
        groupName config.localeFolderSuffix file.display = name ∧
        databaseFrom config file text = db := by
  rw [tableFrom?]
  cases (files.read file.path).run <;> simp

/-- What was read of the files is what each of them has to add. -/
theorem filterMap_table?_resourceOutcomes
    (files : Files Id)
    (config : Config)
    (resources : List ProjectFile) :
    (resourceOutcomes files config resources).filterMap (table? config.localeFolderSuffix) =
      resources.filterMap (tableFrom? files config) := by
  rw [resourceOutcomes_eq_map, List.filterMap_map]
  refine List.filterMap_congr fun file _ => ?_
  rw [Function.comp_apply, table?, outcomeOf, tableFrom?]
  cases (files.read file.path).run <;> rfl

/-- The databases are those of some of the files, in the order of the files. -/
theorem sublist_files_of_tables
    (files : Files Id)
    (config : Config)
    (resources : List ProjectFile) :
    ((resources.filterMap (tableFrom? files config)).map (·.2.file)).Sublist
      (resources.map (·.display)) := by
  induction resources with
  | nil => exact .slnil
  | cons file rest ih =>
      cases htable : tableFrom? files config file with
      | none =>
          rw [List.filterMap_cons_none htable, List.map_cons]
          exact ih.cons _
      | some table =>
          obtain ⟨text, -, -, hdb⟩ := tableFrom?_eq_some_iff.mp htable
          rw [List.filterMap_cons_some htable, List.map_cons, List.map_cons, ← hdb, databaseFrom,
            StringsFile.file_database_parse]
          exact ih.cons_cons _

/-- Files with different paths have different databases. -/
theorem nodup_databases_of_tables
    (files : Files Id)
    (config : Config)
    (hdisplays : (resources.map (·.display)).Nodup) :
    ((resources.filterMap (tableFrom? files config)).map (·.2)).Nodup := by
  refine .of_map (·.file) ?_
  rw [List.map_map]
  exact hdisplays.sublist (sublist_files_of_tables files config resources)

/-! ### The databases of the groups -/

/-- The groups hold what each file has to add, under the name of its group. -/
theorem perm_members_groupsFrom
    (files : Files Id)
    (config : Config)
    (resources : List ProjectFile) :
    (LocaleGroup.members (groupsFrom files config resources)).Perm
      (resources.filterMap (tableFrom? files config)) := by
  rw [← filterMap_table?_resourceOutcomes]
  exact perm_members_groupsOf config _

theorem perm_databases_groupsFrom
    (files : Files Id)
    (config : Config)
    (resources : List ProjectFile) :
    ((groupsFrom files config resources).flatMap (·.databases)).Perm
      ((resources.filterMap (tableFrom? files config)).map (·.2)) := by
  rw [← LocaleGroup.map_snd_members]
  exact (perm_members_groupsFrom files config resources).map _

/-- A group holds a database exactly if a readable file has it and the name of the group. -/
theorem exists_group_iff
    {name : String}
    {db : Database} :
    (∃ group ∈ groupsFrom files config resources, group.name = name ∧ db ∈ group.databases) ↔
      ∃ file ∈ resources, ∃ text, (files.read file.path).run = .ok text ∧
        groupName config.localeFolderSuffix file.display = name ∧
        databaseFrom config file text = db := by
  rw [← LocaleGroup.mem_members_iff, (perm_members_groupsFrom files config resources).mem_iff,
    List.mem_filterMap]
  simp only [tableFrom?_eq_some_iff]

/-- The database of a readable file is in the groups once. -/
theorem count_databases_groupsFrom
    (hdisplays : (resources.map (·.display)).Nodup)
    {file : ProjectFile}
    {text : String}
    (hfile : file ∈ resources)
    (hread : (files.read file.path).run = .ok text) :
    ((groupsFrom files config resources).flatMap (·.databases)).count
      (databaseFrom config file text) = 1 := by
  have htable : (groupName config.localeFolderSuffix file.display, databaseFrom config file text) ∈
      resources.filterMap (tableFrom? files config) :=
    List.mem_filterMap.mpr ⟨file, hfile, tableFrom?_eq_some_iff.mpr ⟨text, hread, rfl, rfl⟩⟩
  rw [(perm_databases_groupsFrom files config resources).count_eq]
  exact List.count_eq_one_of_mem (nodup_databases_of_tables files config hdisplays)
    (List.mem_map_of_mem htable)

/-- Each strings file is a database of some group, or it is reported that it cannot be read. -/
theorem length_databases_add_unreadable
    (files : Files Id)
    (config : Config)
    (resources : List ProjectFile) :
    ((groupsFrom files config resources).flatMap (·.databases)).length
      + ((resourceOutcomes files config resources).flatMap resourceIssues).countP
        (·.isUnreadableFile) = resources.length := by
  have houtcomes := length_tables_add_unreadable config.localeFolderSuffix
    (resourceOutcomes files config resources)
  rw [filterMap_table?_resourceOutcomes] at houtcomes
  rw [(perm_databases_groupsFrom files config resources).length_eq, List.length_map, houtcomes,
    resourceOutcomes_eq_map, List.length_map]

end Databases

/-! ### The numbers that are shown -/

section Shown

variable {files : Files Id} {command : CheckCommand}

theorem issues_audit_eq_nil_iff
    {project : Project}
    {rules : List Rule} :
    (project.audit rules).issues = [] ↔
      project.evidence.issues (if rules.isEmpty then Rule.all else rules) = [] := by
  rw [audit, Verdict.ofIssues, ← List.length_eq_zero_iff, length_sortBy, List.length_eq_zero_iff]

/-- A run reports success exactly if nothing was found, with the numbers of the project. -/
theorem successLine_mem_runCheck_iff
    [Compilers]
    {coverage : Coverage} :
    Report.successLine coverage ∈ (Id.run (runCheck files command)).output ↔
      ∃ project,
        Id.run (load files command.target ⟨command.primaryLocale?, command.verbose⟩) =
          .ok project ∧
        project.evidence.issues (if command.rules.isEmpty then Rule.all else command.rules) = [] ∧
        coverage = project.coverage := by
  rw [runCheck, Id.run_bind]
  cases hload : Id.run (load files command.target ⟨command.primaryLocale?, command.verbose⟩) with
  | error failure => simp [Outcome.failed]
  | ok project =>
      simp only [Id.run_pure, auditOutcome, Report.successLine_mem_verdictLines_iff,
        issues_audit_eq_nil_iff, Except.ok.injEq, exists_eq_left']
      rfl

/-- A loaded project has as many databases as strings files, if nothing was found in loading. -/
theorem resourceFiles_eq_length_databases
    [Compilers]
    {root : Path}
    {options : LoadOptions}
    {project : Project}
    (hload : Id.run (load files root options) = .ok project)
    (hissues : project.loadIssues = []) :
    project.resourceFiles = (project.groups.flatMap (·.databases)).length := by
  obtain ⟨loaded, hproject⟩ := exists_loadWith_of_load hload
  obtain ⟨hgroups, hresources, pattern, hfound⟩ := lists_of_loadWith hproject
  have hall := length_databases_add_unreadable files
    (withPrimaryLocale loaded.config options.primaryLocale?)
    (Scan.ofVisits (withPrimaryLocale loaded.config options.primaryLocale?) root
      (files.walk root)).resources
  rw [hfound, loadIssuesFrom, List.append_eq_nil_iff] at hissues
  rw [hissues.1, ← hgroups, ← hresources] at hall
  exact hall.symm

end Shown

/--
Loading loses and doubles no database. Strings files with different paths form groups with strictly
increasing names, none of them empty. The database of each file that can be read is in these groups
exactly once, in the group that the path of the file names, and there are no other databases; so
each file is a database or is reported as unreadable. Whenever a run reports success, the number of
strings files that it shows is the number of databases in the groups.
-/
theorem each_database_in_one_group
    [Compilers]
    (files : Files Id) :
    (∀ (config : Config) (resources : List ProjectFile), (resources.map (·.display)).Nodup →
      let groups := groupsFrom files config resources
      let databases := groups.flatMap (·.databases)
      let issues := (resourceOutcomes files config resources).flatMap resourceIssues
      (groups.map (·.name)).Pairwise (· < ·) ∧
      (∀ group ∈ groups, group.databases ≠ []) ∧
      (∀ file ∈ resources, ∀ text, (files.read file.path).run = .ok text →
        databases.count (databaseFrom config file text) = 1 ∧
        ∃ group ∈ groups,
          group.name = groupName config.localeFolderSuffix file.display ∧
          databaseFrom config file text ∈ group.databases) ∧
      (∀ db ∈ databases, ∃ file ∈ resources, ∃ text,
        (files.read file.path).run = .ok text ∧ databaseFrom config file text = db) ∧
      databases.length + issues.countP (·.isUnreadableFile) = resources.length) ∧
    ∀ (command : CheckCommand) (coverage : Coverage),
      Report.successLine coverage ∈ (Id.run (runCheck files command)).output →
      ∃ project,
        Id.run (load files command.target ⟨command.primaryLocale?, command.verbose⟩) =
          .ok project ∧
        coverage.resourceFiles = (project.groups.flatMap (·.databases)).length := by
  refine ⟨fun config resources hdisplays => ⟨?names, ?nonempty, ?once, ?origin, ?total⟩, ?shown⟩
  case names => exact pairwise_names_groupsOf config _
  case nonempty => exact fun group hgroup => databases_ne_nil_of_mem_groupsOf hgroup
  case once =>
    intro file hfile text hread
    exact ⟨count_databases_groupsFrom hdisplays hfile hread,
      exists_group_iff.mpr ⟨file, hfile, text, hread, rfl, rfl⟩⟩
  case origin =>
    intro db hdb
    obtain ⟨group, hgroup, hdb⟩ := List.mem_flatMap.mp hdb
    obtain ⟨file, hfile, text, hread, -, heq⟩ := exists_group_iff.mp ⟨group, hgroup, rfl, hdb⟩
    exact ⟨file, hfile, text, hread, heq⟩
  case total => exact length_databases_add_unreadable files config resources
  case shown =>
    intro command coverage hline
    obtain ⟨project, hload, hissues, rfl⟩ := successLine_mem_runCheck_iff.mp hline
    rw [Evidence.issues, List.append_eq_nil_iff] at hissues
    exact ⟨project, hload, resourceFiles_eq_length_databases hload hissues.2⟩

/-- A table in two languages, with a third that cannot be read and is not met on the walk. -/
theorem each_database_of_two_languages :
    let english : ProjectFile := ⟨⟨"/app/en.lproj/L.strings"⟩, "en.lproj/L.strings"⟩
    let german : ProjectFile := ⟨⟨"/app/de.lproj/L.strings"⟩, "de.lproj/L.strings"⟩
    let french : ProjectFile := ⟨⟨"/app/fr.lproj/L.strings"⟩, "fr.lproj/L.strings"⟩
    let text := "\"title\" = \"Titel\";\n"
    let files : Files Id :=
      { kind? := fun path => if path = ⟨"/app"⟩ then some .directory else none
        read := fun path =>
          if path = english.path then .ok "\"title\" = \"Title\";\n"
          else if path = german.path then .ok text
          else .error .notText
        write := fun _ _ => .error .missing
        walk := fun _ => [.file ["de.lproj", "L.strings"], .file ["en.lproj", "L.strings"]] }
    let groups := groupsFrom files .standard [german, english, french]
    let command : CheckCommand := ⟨⟨"app"⟩, ⟨"/"⟩, [.ghost], none, false⟩
    ((groups.flatMap (·.databases)).count (databaseFrom .standard german text) = 1 ∧
      ∃ group ∈ groups,
        group.name = groupName ".lproj" "de.lproj/L.strings" ∧
        databaseFrom .standard german text ∈ group.databases) ∧
    ∃ project,
      Id.run (load files command.target ⟨none, false⟩) = .ok project ∧
      2 = (project.groups.flatMap (·.databases)).length := by
  intro english german french text files groups command
  have hline : Report.successLine ⟨2, 1, 0⟩ ∈ (Id.run (runCheck files command)).output := by
    have hloaded : (Id.run (load files command.target ⟨none, false⟩)).toOption.map
        (fun project => (project.evidence.issues [.ghost], project.coverage)) =
        some ([], ⟨2, 1, 0⟩) := by
      decide +kernel
    obtain ⟨project, hload, hfound⟩ := Option.map_eq_some_iff.mp hloaded
    obtain ⟨hissues, hcoverage⟩ := Prod.mk.inj hfound
    exact successLine_mem_runCheck_iff.mpr
      ⟨project, eq_ok_of_toOption hload, hissues, hcoverage.symm⟩
  have hall := each_database_in_one_group files
  exact ⟨(hall.1 .standard [german, english, french] (by decide +kernel)).2.2.1 german (by simp)
    text rfl, hall.2 command ⟨2, 1, 0⟩ hline⟩

end Project
end StringsAudit
