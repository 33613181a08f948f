import Mathlib.Data.List.Perm.Basic
import StringsAudit.Proofs.Line.Number
import StringsAudit.Proofs.Project.Loading
import StringsAudit.Proofs.SourceFile.Sites
import StringsAudit.Proofs.StringsFile.LineCounts

/-!
# The order of files

The order in which files are loaded leaves no trace. Groups are gathered by their names and put in
order, used keys are merged in the order of their places, and findings are sorted. All that could
tell two orders apart is a tie between different things at one place; where the files have different
paths, a place belongs to one line of one file, and a line is read in one way.

## Main results

* `StringsFile.eq_of_warning_line_eq` : a line is malformed in one way.
* `Project.audit_eq_of_perm` : files in another order make the same audit.
-/

namespace StringsAudit

/-! ### What one file holds at one place -/

namespace StringsFile

/-- A line is malformed in one way. -/
theorem eq_of_warning_line_eq
    {content file suffix : String}
    {limit : Comment.Depth}
    {first second : Warning}
    (hfirst : first ∈ (parse content file suffix limit).entryWarnings)
    (hsecond : second ∈ (parse content file suffix limit).entryWarnings)
    (heq : first.line = second.line) :
    first = second := by
  obtain ⟨line, hline, hread⟩ := mem_warnings_iff.mp hfirst
  obtain ⟨other, hother, hread'⟩ := mem_warnings_iff.mp hsecond
  have hsame : line = other := by
    refine Line.eq_of_number_eq (Comment.lines_stripFrom_sublist limit 0 _) hline hother ?_
    rw [← (assignments_eq_nil_of_malformed hread).2, heq,
      (assignments_eq_nil_of_malformed hread').2]
  rw [hsame, hread'] at hread
  exact (Reading.malformed.inj hread).symm

end StringsFile

namespace Project

variable {files : Files Id} {config : Config} {pattern : UsagePattern}
  {resources sources : List ProjectFile}

/-! ### Groups -/

theorem groupsFrom_eq_of_perm
    {other : List ProjectFile}
    (hperm : resources.Perm other)
    (hnames : ∀ group ∈ groupsFrom files config resources, (group.databases.map (·.name)).Nodup) :
    groupsFrom files config resources = groupsFrom files config other := by
  refine groupsOf_eq_of_perm config ?_ hnames
  rw [resourceOutcomes_eq_map, resourceOutcomes_eq_map]
  exact hperm.map _

/-! ### Used keys -/

/-- Each site of the used keys comes from a file that could be read. -/
theorem exists_file_of_mem_usages
    {key : String}
    {site : Site}
    (h : site ∈ ((sourceOutcomes files config pattern sources).filterMap references?).flatMap
      (·.usages key)) :
    ∃ file ∈ sources, ∃ text, (files.read file.path).run = .ok text ∧
      site ∈ (SourceFile.parse text file.display pattern config.commentDepth).usedKeys.usages
        key := by
  rw [sourceOutcomes_eq_map] at h
  simp only [List.mem_flatMap, List.mem_filterMap, List.mem_map, exists_exists_and_eq_and,
    references?_eq_some_iff, result_outcomeOf_eq_ok_iff] at h
  obtain ⟨_, ⟨file, hfile, text, hread, rfl⟩, hsite⟩ := h
  exact ⟨file, hfile, text, hread, hsite⟩

theorem usedKeysOf_eq_of_perm
    {other : List ProjectFile}
    (hperm : sources.Perm other)
    (hdisplays : (sources.map (·.display)).Nodup)
    (pattern : UsagePattern) :
    usedKeysOf (sourceOutcomes files config pattern sources) =
      usedKeysOf (sourceOutcomes files config pattern other) := by
  have hreferences : ((sourceOutcomes files config pattern sources).filterMap references?).Perm
      ((sourceOutcomes files config pattern other).filterMap references?) := by
    rw [sourceOutcomes_eq_map, sourceOutcomes_eq_map]
    exact (hperm.map _).filterMap _
  rw [usedKeysOf_eq_merged, usedKeysOf_eq_merged]
  refine UsedKeys.merged_eq_of_perm hreferences fun key a ha b hb hab => ?_
  obtain ⟨file, hfile, text, hread, ha⟩ := exists_file_of_mem_usages ha
  obtain ⟨file', hfile', text', hread', hb⟩ := exists_file_of_mem_usages hb
  have hdisplay : file.display = file'.display := by
    rw [← (SourceFile.exists_line_of_mem_usages ha).1, hab,
      (SourceFile.exists_line_of_mem_usages hb).1]
  have hsame := List.inj_on_of_nodup_map hdisplays hfile hfile' hdisplay
  subst hsame
  obtain rfl : text = text' := Except.ok.inj (hread.symm.trans hread')
  exact SourceFile.eq_of_location_eq ha hb hab

/-! ### Findings -/

/-- Malformed entries are found in strings files that could be read. -/
theorem exists_file_of_malformedEntry_mem
    {display lineText remainder : String}
    {line : Nat}
    (h : .malformedEntry display line lineText remainder ∈
      loadIssuesFrom files config pattern resources sources) :
    ∃ file ∈ resources, file.display = display ∧ ∃ text, (files.read file.path).run = .ok text ∧
      ⟨line, lineText, remainder⟩ ∈ (StringsFile.parse text file.display
        config.localeFolderSuffix config.commentDepth).entryWarnings := by
  rw [loadIssuesFrom, List.mem_append, List.mem_flatMap, List.mem_flatMap] at h
  obtain ⟨outcome, houtcome, hissue⟩ | ⟨_, -, hissue⟩ := h
  · obtain ⟨file, hfile, rfl⟩ := List.mem_map.mp (resourceOutcomes_eq_map .. ▸ houtcome)
    obtain ⟨_, hresult, ⟨_, -, heq⟩ | ⟨_, hwarning, heq⟩⟩ | ⟨_, -, heq⟩ :=
      mem_resourceIssues_iff.mp hissue
    · cases heq
    · obtain ⟨rfl, rfl, rfl, rfl⟩ := Issue.malformedEntry.inj heq
      obtain ⟨text, hread, rfl⟩ := result_outcomeOf_eq_ok_iff.mp hresult
      exact ⟨file, hfile, rfl, text, hread, hwarning⟩
    · cases heq
  · obtain ⟨_, -, _, -, heq⟩ | ⟨_, -, heq⟩ := mem_sourceIssues_iff.mp hissue
    · cases heq
    · cases heq

/-- What is found while files are loaded is equal if it is at one place. -/
theorem eq_of_cmp_of_mem_loadIssuesFrom
    (hdisplays : (resources.map (·.display)).Nodup)
    {first second : Issue}
    (hfirst : first ∈ loadIssuesFrom files config pattern resources sources)
    (hsecond : second ∈ loadIssuesFrom files config pattern resources sources)
    (h : Issue.cmp first second = .eq) :
    first = second := by
  obtain heq | ⟨display, line, lineText, remainder, lineText', remainder', rfl, rfl⟩ :=
    Issue.eq_or_malformedEntry_of_cmp (isFromLoading_of_mem_loadIssuesFrom hfirst)
      (isFromLoading_of_mem_loadIssuesFrom hsecond) h
  · exact heq
  · obtain ⟨file, hfile, rfl, text, hread, hwarning⟩ := exists_file_of_malformedEntry_mem hfirst
    obtain ⟨file', hfile', hdisplay, text', hread', hwarning'⟩ :=
      exists_file_of_malformedEntry_mem hsecond
    have hsame := List.inj_on_of_nodup_map hdisplays hfile' hfile hdisplay
    subst hsame
    obtain rfl : text = text' := Except.ok.inj (hread.symm.trans hread')
    have hequal := StringsFile.eq_of_warning_line_eq hwarning hwarning' rfl
    rw [StringsFile.Warning.mk.injEq] at hequal
    rw [hequal.2.1, hequal.2.2]

theorem perm_loadIssuesFrom
    {resources' sources' : List ProjectFile}
    (hresources : resources.Perm resources')
    (hsources : sources.Perm sources') :
    (loadIssuesFrom files config pattern resources sources).Perm
      (loadIssuesFrom files config pattern resources' sources') := by
  rw [loadIssuesFrom, loadIssuesFrom, resourceOutcomes_eq_map, resourceOutcomes_eq_map,
    sourceOutcomes_eq_map, sourceOutcomes_eq_map]
  exact ((hresources.map _).flatMap_right _).append ((hsources.map _).flatMap_right _)

/--
Files in another order make the same groups, with their databases in the same order, the same used
keys, with their places in the same order, and the same audit: the same findings in the same order,
and the same numbers.
-/
theorem audit_eq_of_perm
    [Compilers]
    (files : Files Id)
    (config : Config)
    {resources resources' sources sources' : List ProjectFile}
    (hresources : resources.Perm resources')
    (hsources : sources.Perm sources')
    (hresourceDisplays : (resources.map (·.display)).Nodup)
    (hsourceDisplays : (sources.map (·.display)).Nodup)
    (hnames : ∀ group ∈ groupsFrom files config resources,
      (group.databases.map (·.name)).Nodup) :
    groupsFrom files config resources = groupsFrom files config resources' ∧
    usedKeysFrom files config sources = usedKeysFrom files config sources' ∧
    ∀ rules, auditFrom files config resources sources rules =
      auditFrom files config resources' sources' rules := by
  have hgroups := groupsFrom_eq_of_perm hresources hnames
  have husedKeys (pattern : UsagePattern) :
      usedKeysOf (sourceOutcomes files config pattern sources) =
        usedKeysOf (sourceOutcomes files config pattern sources') :=
    usedKeysOf_eq_of_perm hsources hsourceDisplays pattern
  refine ⟨hgroups, ?usedKeys, fun rules => ?audit⟩
  case usedKeys =>
    simp only [usedKeysFrom, husedKeys]
  case audit =>
    simp only [auditFrom, evidenceFrom, hgroups, husedKeys, hresources.length_eq,
      hsources.length_eq]
    cases compiledPattern config with
    | error error => rfl
    | ok pattern =>
        simp only [Except.map, Except.ok.injEq, Evidence.issues]
        exact Verdict.ofIssues_append_eq_of_perm _ (perm_loadIssuesFrom hresources hsources)
          (fun _ ha _ hb => eq_of_cmp_of_mem_loadIssuesFrom hresourceDisplays ha hb) _

/-- Two files of a table and two sources, one of which cannot be read, the other way round. -/
theorem audit_of_reversed_files :
    let english : ProjectFile := ⟨⟨"app/en.lproj/L.strings"⟩, "en.lproj/L.strings"⟩
    let german : ProjectFile := ⟨⟨"app/de.lproj/L.strings"⟩, "de.lproj/L.strings"⟩
    let first : ProjectFile := ⟨⟨"app/A.swift"⟩, "A.swift"⟩
    let second : ProjectFile := ⟨⟨"app/B.swift"⟩, "B.swift"⟩
    let files : Files Id :=
      { kind? := fun _ => none
        read := fun path =>
          if path = english.path then .ok "\"title\" = \"Title\";\n\"ok\" = \"OK\" // ?\n"
          else if path = german.path then .ok "\"title\" = \"Titel\";\n*/\n"
          else if path = first.path then .ok "let t = \"titel\".localized\n"
          else .error .notText
        write := fun _ _ => .error .missing
        walk := fun _ => [] }
    let audit := auditFrom files .standard
    (∀ group ∈ groupsFrom files .standard [english, german],
      (group.databases.map (·.name)).Nodup) ∧
    ∀ rules, audit [english, german] [first, second] rules =
      audit [german, english] [second, first] rules := by
  intro english german first second files audit
  have hnames : ∀ group ∈ groupsFrom files .standard [english, german],
      (group.databases.map (·.name)).Nodup := by
    refine forall_nodup_names_iff.mpr fun name => ?_
    rw [resourceOutcomes_eq_map]
    have hall : ((([english, german].map (outcomeOf files .unreadableStrings fun content file =>
        StringsFile.parse content file ".lproj" .unlimited)).filterMap
        (table? ".lproj")).map (·.2)).map (·.name) |>.Nodup := by
      decide +kernel
    exact hall.sublist ((List.filter_sublist.map _).map _)
  exact ⟨hnames, (audit_eq_of_perm files .standard (.swap german english []) (.swap second first [])
    (by decide +kernel) (by decide +kernel) hnames).2.2⟩

end Project
end StringsAudit
