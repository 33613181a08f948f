import StringsAudit.Proofs.Project.Loading
import StringsAudit.Proofs.Scan.Lists

/-!
# Files that are left out

Leaving files out is like deleting them. A project loaded with patterns of files to leave out is the
project loaded without any, from a world in which the files below its folder that they match are
not there: the lists of the scan are the same, and what the files in them hold is.

## Main definitions

* `World.withoutIgnored` : a world without the files below a folder that patterns match.

## Main results

* `filesOf_walk_withoutIgnored` : the files that are met when ignored files are deleted.
* `read_withoutIgnored` : files that are not ignored hold what they held.
* `Project.loaded_of_withoutIgnored` : leaving files out is like deleting them.
-/

namespace StringsAudit

/-- Whether names lead to a file below a folder that patterns match. -/
def Scan.isIgnoredBelow (globs : List Glob) (root : Path) (base names : List String) : Bool :=
  base.isPrefixOf names && isIgnored globs (.ofNames root (names.drop base.length))

/-- A world without the files below a folder that patterns match. -/
def World.withoutIgnored (globs : List Glob) (root : Path) (world : World) : World :=
  match world.resolve root with
  | .ok base => world.withoutFiles (Scan.isIgnoredBelow globs root base)
  | .error _ => world

section Walk

variable {world : World} {root : Path} {globs : List Glob}

open Scan

theorem isIgnoredBelow_append
    (globs : List Glob)
    (root : Path)
    (base names : List String) :
    isIgnoredBelow globs root base (base ++ names) = isIgnored globs (.ofNames root names) := by
  rw [isIgnoredBelow, List.isPrefixOf_iff_prefix.mpr (List.prefix_append base names),
    Bool.true_and, List.drop_left]

theorem keep_nil
    (files : List ProjectFile) :
    keep [] files = files := by
  simp [keep, isIgnored]

/-- The files that are met when ignored files are deleted are those that are not left out. -/
theorem filesOf_walk_withoutIgnored
    (globs : List Glob)
    (root : Path)
    (htree : world.IsTree) :
    filesOf root ((world.withoutIgnored globs root).walk root) =
      keep globs (filesOf root (world.walk root)) := by
  rw [filesOf_walk, filesOf_walk, keep, List.filter_map, World.withoutIgnored]
  cases hbase : world.resolve root with
  | error error =>
      have hlookup : world.lookup root = .error error := by
        rw [World.lookup, hbase]
        rfl
      rw [hlookup]
      rfl
  | ok base =>
      dsimp only
      rw [World.toOption_lookup_withoutFiles htree hbase]
      cases hlookup : world.lookup root with
      | error error => rfl
      | ok node =>
          obtain ⟨found, -, hfound⟩ := World.lookup_eq_ok_iff.mp hlookup
          have hnode : node.IsTree := htree.isTree.of_find? hfound
          rw [Except.toOption, Option.bind_some, Node.filePaths_withoutFiles? _ hnode,
            Option.elim_some]
          simp only [isIgnoredBelow_append, Function.comp_def]

/-- A file that is met and not left out holds what it held before the others were deleted. -/
theorem read_withoutIgnored
    {file : ProjectFile}
    (htree : world.IsTree)
    (hfile : file ∈ keep globs (filesOf root (world.walk root))) :
    (world.withoutIgnored globs root).read file.path = world.read file.path := by
  obtain ⟨hmet, hkept⟩ := List.mem_filter.mp hfile
  obtain ⟨node, names, hlookup, hnames, rfl⟩ := mem_filesOf_walk.mp hmet
  obtain ⟨base, hbase, hnode⟩ := World.lookup_eq_ok_iff.mp hlookup
  rw [World.withoutIgnored, hbase]
  refine World.read_withoutFiles htree hbase hnode hnames ?_
  rw [isIgnoredBelow_append]
  simpa using hkept

end Walk

namespace Project

/-- Files that hold the same are read with the same outcomes. -/
theorem outcomeOf_congr
    {α : Type}
    {files other : Files Id}
    {failure : Path → FileError → Failure}
    {parse : (content file : String) → α}
    {file : ProjectFile}
    (hread : files.read file.path = other.read file.path) :
    outcomeOf files failure parse file = outcomeOf other failure parse file := by
  rw [outcomeOf, outcomeOf, hread]

/--
Leaving files out is like deleting them. Where the files below a folder that the patterns of a
configuration match are deleted, a scan without patterns finds the same strings files, the same
sources and the same strings files outside of locale folders, each in the same order, and what is
loaded from these is the same: groups, used keys and the findings made while loading.
-/
theorem loaded_of_withoutIgnored
    [Compilers]
    (config : Config)
    (root : Path)
    (world : World)
    (htree : world.IsTree) :
    let plain := { config with ignores := [] }
    let cleared := world.withoutIgnored (Scan.globs config) root
    let scan := Scan.ofVisits config root (world.walk root)
    let clearedScan := Scan.ofVisits plain root (cleared.walk root)
    clearedScan.resources = scan.resources ∧
    clearedScan.sources = scan.sources ∧
    clearedScan.unlocalized = scan.unlocalized ∧
    groupsFrom cleared.still plain clearedScan.resources =
      groupsFrom world.still config scan.resources ∧
    usedKeysFrom cleared.still plain clearedScan.sources =
      usedKeysFrom world.still config scan.sources ∧
    ∀ pattern,
      loadIssuesFrom cleared.still plain pattern clearedScan.resources clearedScan.sources =
        loadIssuesFrom world.still config pattern scan.resources scan.sources := by
  intro plain cleared scan clearedScan
  have hfiles : Scan.keep (Scan.globs plain) (Scan.filesOf root (cleared.walk root)) =
      Scan.keep (Scan.globs config) (Scan.filesOf root (world.walk root)) :=
    (keep_nil _).trans (filesOf_walk_withoutIgnored (Scan.globs config) root htree)
  have hlist (role : FileRole) :
      Scan.withRole plain role (Scan.keep (Scan.globs plain)
          (Scan.filesOf root (cleared.walk root))) =
        Scan.withRole config role (Scan.keep (Scan.globs config)
          (Scan.filesOf root (world.walk root))) := by
    rw [hfiles]
    rfl
  have hresources : clearedScan.resources = scan.resources := hlist .resource
  have hsources : clearedScan.sources = scan.sources := hlist .source
  have hread {role : FileRole} {file : ProjectFile}
      (hfile : file ∈ Scan.withRole config role (Scan.keep (Scan.globs config)
        (Scan.filesOf root (world.walk root)))) :
      cleared.still.read file.path = world.still.read file.path :=
    read_withoutIgnored htree (List.mem_of_mem_filter hfile)
  have hresourceOutcomes : resourceOutcomes cleared.still plain scan.resources =
      resourceOutcomes world.still config scan.resources := by
    rw [resourceOutcomes_eq_map, resourceOutcomes_eq_map]
    exact List.map_congr_left fun file hfile => outcomeOf_congr (hread hfile)
  have hsourceOutcomes (pattern : UsagePattern) :
      sourceOutcomes cleared.still plain pattern scan.sources =
        sourceOutcomes world.still config pattern scan.sources := by
    rw [sourceOutcomes_eq_map, sourceOutcomes_eq_map]
    exact List.map_congr_left fun file hfile => outcomeOf_congr (hread hfile)
  refine ⟨hresources, hsources, hlist .unlocalized, ?groups, ?usedKeys, fun pattern => ?issues⟩
  case groups =>
    rw [hresources, groupsFrom, hresourceOutcomes]
    rfl
  case usedKeys =>
    simp only [usedKeysFrom, hsources, hsourceOutcomes]
    rfl
  case issues =>
    rw [hresources, hsources, loadIssuesFrom, hresourceOutcomes, hsourceOutcomes]
    rfl

/-- A folder with a source file that is not text, a library and a strings file. -/
def vendoredFolder : Node :=
  .directory
    [("B.swift", .file .binary),
     ("Pods", .directory [("A.swift", .file (.text "let t = \"ok\".localized\n"))]),
     ("en.lproj", .directory [("L.strings", .file (.text "\"ok\" = \"OK\";\n"))])]

/-- A world with the folder as its current directory. -/
def vendoredWorld : World :=
  ⟨.directory [("app", vendoredFolder)], ["app"]⟩

theorem walk_vendoredWorld :
    vendoredWorld.walk ⟨"."⟩ =
      [["B.swift"], ["Pods", "A.swift"], ["en.lproj", "L.strings"]].map Visit.file := by
  have hpaths : vendoredFolder.filePaths =
      [["B.swift"], ["Pods", "A.swift"], ["en.lproj", "L.strings"]] := by
    simp only [vendoredFolder, Node.filePaths, Node.entryPaths,
      sortBy_eq_self (List.pairwise_singleton ..)]
    rw [sortBy_eq_self (by decide +kernel)]
    rfl
  rw [← hpaths]
  rfl

/-- The library is what the standard patterns leave out, and its source is what is deleted. -/
theorem loaded_of_deleted_library :
    let plain := { Config.standard with ignores := [] }
    let cleared := vendoredWorld.withoutIgnored (Scan.globs .standard) ⟨"."⟩
    let clearedScan := Scan.ofVisits plain ⟨"."⟩ (cleared.walk ⟨"."⟩)
    vendoredWorld.IsTree ∧
    cleared.find? ["app", "Pods", "A.swift"] = none ∧
    clearedScan.resources.map (·.display) = ["en.lproj/L.strings"] ∧
    clearedScan.sources.map (·.display) = ["B.swift"] ∧
    groupsFrom cleared.still plain clearedScan.resources =
      groupsFrom vendoredWorld.still .standard clearedScan.resources ∧
    usedKeysFrom cleared.still plain clearedScan.sources =
      usedKeysFrom vendoredWorld.still .standard clearedScan.sources := by
  intro plain cleared clearedScan
  have htree : vendoredWorld.IsTree := by
    refine ⟨?_, _, rfl⟩
    simp only [vendoredWorld, vendoredFolder, Node.isTree_directory_iff, List.forall_mem_cons,
      List.not_mem_nil, false_implies, implies_true, Node.IsTree.file, and_true]
    decide +kernel
  obtain ⟨hresources, hsources, -, hgroups, husedKeys, -⟩ :=
    loaded_of_withoutIgnored .standard ⟨"."⟩ vendoredWorld htree
  refine ⟨htree, rfl, ?_, ?_, ?_, ?_⟩
  · rw [hresources, walk_vendoredWorld]
    decide +kernel
  · rw [hsources, walk_vendoredWorld]
    decide +kernel
  · rw [hgroups, hresources]
  · rw [husedKeys, hsources]

end Project
end StringsAudit
