import Mathlib.Data.List.Perm.Basic
import StringsAudit.Proofs.Project.Loading

/-!
# Files that cannot be read

A file that cannot be read is reported, once, and leaves nothing else behind: no empty database, no
empty group, no warning less about another file.

## Main definitions

* `Project.readable` : the files that can be read.
* `Project.unreadable?` : the finding about a file that cannot be read.

## Main results

* `Project.loaded_of_readable` : what is loaded, in terms of the files that can be read.
-/

namespace StringsAudit
namespace Project

variable (files : Files Id) (config : Config)

/-- The files that can be read. -/
def readable (list : List ProjectFile) : List ProjectFile :=
  list.filter fun file => Except.isOk (files.read file.path).run

/-- The finding about a file, if it cannot be read. -/
def unreadable? (failure : Path → FileError → Failure) (file : ProjectFile) : Option Issue :=
  match (files.read file.path).run with
  | .ok _ => none
  | .error error => some (.unreadableFile file.display (failure file.path error).message)

section Outcomes

variable {α : Type} {failure : Path → FileError → Failure}
  {parse : (content file : String) → α}

theorem isReadable_outcomeOf
    (file : ProjectFile) :
    isReadable (outcomeOf files failure parse file) = Except.isOk (files.read file.path).run := by
  rw [isReadable, outcomeOf]
  cases (files.read file.path).run <;> rfl

/-- The files that can be read have the outcomes that show a readable file. -/
theorem map_outcomeOf_readable
    (list : List ProjectFile) :
    (readable files list).map (outcomeOf files failure parse) =
      (list.map (outcomeOf files failure parse)).filter isReadable := by
  rw [List.filter_map, readable]
  congr 2
  funext file
  exact (isReadable_outcomeOf files file).symm

/-- Files are reported like those that can be read, but for one finding about each other. -/
theorem perm_flatMap_readable
    {issuesOf : FileOutcome α → List Issue}
    (h : ∀ outcome error, outcome.result = .error error →
      issuesOf outcome = [.unreadableFile outcome.file.display error.message])
    (list : List ProjectFile) :
    ((list.map (outcomeOf files failure parse)).flatMap issuesOf).Perm
      (((readable files list).map (outcomeOf files failure parse)).flatMap issuesOf
        ++ list.filterMap (unreadable? files failure)) := by
  induction list with
  | nil => exact .refl _
  | cons file rest ih =>
      rw [List.map_cons, List.flatMap_cons, readable, List.filterMap_cons]
      cases hread : (files.read file.path).run with
      | error error =>
          have hfinding : unreadable? files failure file =
              some (.unreadableFile file.display (failure file.path error).message) := by
            rw [unreadable?, hread]
          rw [h _ _ (result_outcomeOf_of_error hread), hfinding,
            List.filter_cons_of_neg (by rw [hread]; nofun)]
          exact (ih.cons _).trans List.perm_middle.symm
      | ok text =>
          have hnone : unreadable? files failure file = none := by rw [unreadable?, hread]
          rw [hnone, List.filter_cons_of_pos (by rw [hread]; rfl), List.map_cons,
            List.flatMap_cons, List.append_assoc]
          exact ih.append_left _

end Outcomes

/--
Files that cannot be read have no part in the groups and in the used keys. The findings made while
loading are those made while loading the files that can be read, among which there is none about an
unreadable file, and one finding about each other file, which carries its path.
-/
theorem loaded_of_readable
    [Compilers]
    (resources sources : List ProjectFile) :
    groupsFrom files config resources = groupsFrom files config (readable files resources) ∧
    usedKeysFrom files config sources = usedKeysFrom files config (readable files sources) ∧
    ∀ pattern,
      let own := loadIssuesFrom files config pattern (readable files resources)
        (readable files sources)
      (∀ issue ∈ own, issue.isUnreadableFile = false) ∧
      (loadIssuesFrom files config pattern resources sources).Perm
        (own ++ (resources.filterMap (unreadable? files .unreadableStrings)
          ++ sources.filterMap (unreadable? files .unreadableSource))) := by
  simp only [groupsFrom, usedKeysFrom, loadIssuesFrom, resourceOutcomes_eq_map,
    sourceOutcomes_eq_map]
  refine ⟨?groups, ?usedKeys, fun pattern => ⟨?own, ?all⟩⟩
  case groups =>
    rw [map_outcomeOf_readable, groupsOf_filter_isReadable]
  case usedKeys =>
    simp only [map_outcomeOf_readable, usedKeysOf_filter_isReadable]
  case own =>
    intro issue hissue
    rw [map_outcomeOf_readable, map_outcomeOf_readable, List.mem_append, List.mem_flatMap,
      List.mem_flatMap] at hissue
    obtain ⟨_, houtcome, hissue⟩ | ⟨_, houtcome, hissue⟩ := hissue
    · exact isUnreadableFile_of_mem_resourceIssues (List.mem_filter.mp houtcome).2 hissue
    · exact isUnreadableFile_of_mem_sourceIssues (List.mem_filter.mp houtcome).2 hissue
  case all =>
    refine ((perm_flatMap_readable files resourceIssues_of_error resources).append
      (perm_flatMap_readable files sourceIssues_of_error sources)).trans ?_
    simp only [List.append_assoc]
    exact (List.perm_append_comm_assoc _ _ _).append_left _

end Project
end StringsAudit
