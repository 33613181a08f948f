import StringsAudit.Proofs.LocaleFolder.FirstFolder
import StringsAudit.Proofs.World.Deletion
import StringsAudit.Proofs.World.Walk
import StringsAudit.Scan

/-!
# The lists of a scan

A scan of a tree meets each of its files once, in the order of their paths, and each file has at
most one role. So its lists are in strict order and have no file in common, and together they hold
the files that have a role and are not left out. Whether a file has a role is told by its extension
alone. The extension of strings files comes first, and two lists tell the strings files that have a
locale folder from those that have none.

## Main definitions

* `World.HasFile` : a file below a folder, as a scan shows it.

## Main results

* `Scan.mem_filesOf_walk_iff`, `Scan.pairwise_filesOf_walk` : the files that a walk meets.
* `FileRole.exists_of?_iff` : the files that have a role.
* `Scan.exists_localePath` : a file in a locale folder is named and grouped by it.
* `Scan.lists_of_tree` : the lists of the scan of a tree.
-/

namespace StringsAudit

/-- A file below a folder, as a scan shows it. -/
def World.HasFile (world : World) (root : Path) (file : ProjectFile) : Prop :=
  ∃ base names content,
    world.resolve root = .ok base ∧
    world.find? (base ++ names) = some (.file content) ∧
    file = .ofNames root names

/-! ### Roles -/

namespace FileRole

variable {config : Config} {file : ProjectFile}

/-- A file with an extension has a role by it alone, but for the folder of a strings file. -/
theorem of?_eq_some_iff
    {role : FileRole} :
    of? config file = some role ↔
      ∃ ext, file.path.fileExtension? = some ext ∧
        (ext = config.resourceExtension ∧
            (if (LocaleFolder.ofPath? config.localeFolderSuffix ⟨file.display⟩).isSome
              then .resource else .unlocalized) = role ∨
          ext ≠ config.resourceExtension ∧ ext ∈ config.sourceExtensions ∧ .source = role) := by
  rw [of?]
  cases file.path.fileExtension? with
  | none => simp
  | some ext =>
      simp only [beq_iff_eq, Option.some.injEq, exists_eq_left', List.contains_iff_mem]
      split_ifs <;> simp_all

/-- Strings files in a locale folder are told by the extension and the folder. -/
theorem of?_eq_resource_iff :
    of? config file = some .resource ↔
      file.path.fileExtension? = some config.resourceExtension ∧
        (LocaleFolder.ofPath? config.localeFolderSuffix ⟨file.display⟩).isSome = true := by
  rw [of?_eq_some_iff]
  split <;> simp_all

/-- Source files have one of the extensions of source files, and not that of strings files. -/
theorem of?_eq_source_iff :
    of? config file = some .source ↔
      ∃ ext, file.path.fileExtension? = some ext ∧ ext ≠ config.resourceExtension ∧
        ext ∈ config.sourceExtensions := by
  rw [of?_eq_some_iff]
  split <;> simp

/-- The files that have a role are told by their extension. -/
theorem exists_of?_iff :
    (∃ role, of? config file = some role) ↔
      ∃ ext, file.path.fileExtension? = some ext ∧
        (ext = config.resourceExtension ∨ ext ∈ config.sourceExtensions) := by
  simp only [of?_eq_some_iff]
  constructor
  · rintro ⟨role, ext, hext, ⟨hown, -⟩ | ⟨-, hsource, -⟩⟩
    · exact ⟨ext, hext, .inl hown⟩
    · exact ⟨ext, hext, .inr hsource⟩
  · rintro ⟨ext, hext, hrole⟩
    by_cases hown : ext = config.resourceExtension
    · exact ⟨_, ext, hext, .inl ⟨hown, rfl⟩⟩
    · exact ⟨_, ext, hext, .inr ⟨hown, hrole.resolve_left hown, rfl⟩⟩

end FileRole

namespace Scan

variable {config : Config} {root : Path} {world : World}

/-! ### The files that are met -/

theorem filesOf_walk
    (world : World)
    (root : Path) :
    filesOf root (world.walk root) =
      ((world.lookup root).toOption.elim [] Node.filePaths).map (ProjectFile.ofNames root) := by
  rw [World.walk, filesOf]
  cases world.lookup root with
  | error error => rfl
  | ok node => simp [List.filterMap_map, Except.toOption]

theorem mem_filesOf_walk
    {file : ProjectFile} :
    file ∈ filesOf root (world.walk root) ↔
      ∃ node names, world.lookup root = .ok node ∧ names ∈ node.filePaths ∧
        file = .ofNames root names := by
  rw [filesOf_walk, List.mem_map]
  cases world.lookup root with
  | error error => simp [Except.toOption]
  | ok node => simp [Except.toOption, eq_comm]

/-- The files that a walk meets are those below its folder. -/
theorem mem_filesOf_walk_iff
    {file : ProjectFile}
    (htree : world.IsTree) :
    file ∈ filesOf root (world.walk root) ↔ world.HasFile root file := by
  rw [mem_filesOf_walk]
  constructor
  · rintro ⟨node, names, hlookup, hnames, rfl⟩
    obtain ⟨base, hbase, hnode⟩ := World.lookup_eq_ok_iff.mp hlookup
    obtain ⟨content, hcontent⟩ := (htree.isTree.of_find? hnode).mem_filePaths_iff.mp hnames
    refine ⟨base, names, content, hbase, ?_, rfl⟩
    rw [World.find?] at hnode ⊢
    rw [Node.find?_append, hnode, Option.bind_some, hcontent]
  · rintro ⟨base, names, content, hbase, hcontent, rfl⟩
    rw [World.find?, Node.find?_append] at hcontent
    obtain ⟨node, hnode, hfile⟩ := Option.bind_eq_some_iff.mp hcontent
    exact ⟨node, names, World.lookup_eq_ok_iff.mpr ⟨base, hbase, hnode⟩,
      Node.mem_filePaths_of_find? hfile, rfl⟩

theorem isName_of_lookup
    {node : Node}
    (htree : world.IsTree)
    (hlookup : world.lookup root = .ok node) :
    ∀ names ∈ node.filePaths, ∀ name ∈ names, Path.IsName name := by
  intro names hnames name hname
  obtain ⟨base, -, hnode⟩ := World.lookup_eq_ok_iff.mp hlookup
  exact ((htree.isTree.of_find? hnode).isEntryName_of_mem_filePaths hnames name hname).isName

/-- A walk meets files that are shown by names. -/
theorem exists_names_of_mem_filesOf
    {file : ProjectFile}
    (htree : world.IsTree)
    (hfile : file ∈ filesOf root (world.walk root)) :
    ∃ names, (∀ name ∈ names, Path.IsName name) ∧ file = .ofNames root names := by
  obtain ⟨node, names, hlookup, hnames, rfl⟩ := mem_filesOf_walk.mp hfile
  exact ⟨names, isName_of_lookup htree hlookup names hnames, rfl⟩

/-- A walk meets files in strict order of their paths. -/
theorem pairwise_filesOf_walk
    (root : Path)
    (htree : world.IsTree) :
    (filesOf root (world.walk root)).Pairwise fun a b => Path.cmp a.path b.path = .lt := by
  rw [filesOf_walk]
  cases hlookup : world.lookup root with
  | error error => exact .nil
  | ok node =>
      obtain ⟨base, -, hnode⟩ := World.lookup_eq_ok_iff.mp hlookup
      have hnames := isName_of_lookup htree hlookup
      rw [Except.toOption, Option.elim_some, List.pairwise_map]
      refine (htree.isTree.of_find? hnode).pairwise_filePaths.imp_of_mem fun ha hb hlt => ?_
      rw [ProjectFile.cmp_ofNames root (hnames _ ha) (hnames _ hb)]
      exact hlt

/-! ### The lists -/

theorem isIgnored_eq_false_iff
    [Compilers]
    {file : ProjectFile} :
    isIgnored (globs config) file = false ↔
      ∀ pattern ∈ config.ignores, ∀ glob, Compilers.glob pattern = .ok glob →
        glob.accepts file.display = false := by
  have hcompile (pattern : String) (glob : Glob) :
      (Compilers.glob pattern).toOption = some glob ↔ Compilers.glob pattern = .ok glob := by
    cases Compilers.glob pattern <;> simp [Except.toOption]
  simp only [isIgnored, globs, List.any_eq_false, List.mem_filterMap, hcompile, Bool.not_eq_true]
  constructor
  · intro h pattern hpattern glob hglob
    exact h glob ⟨pattern, hpattern, hglob⟩
  · rintro h glob ⟨pattern, hpattern, hglob⟩
    exact h pattern hpattern glob hglob

theorem mem_withRole_iff
    {role : FileRole}
    {files : List ProjectFile}
    {file : ProjectFile} :
    file ∈ withRole config role files ↔ file ∈ files ∧ FileRole.of? config file = some role := by
  rw [withRole, List.mem_filter, beq_iff_eq]

/-- No file has two roles. -/
theorem disjoint_withRole
    {role other : FileRole}
    (hne : role ≠ other)
    (files : List ProjectFile) :
    (withRole config role files).Disjoint (withRole config other files) := by
  intro file hfile hother
  have hrole := (mem_withRole_iff.mp hfile).2
  rw [(mem_withRole_iff.mp hother).2, Option.some.injEq] at hrole
  exact hne hrole.symm

/-- A file with a locale folder is named for it, and its group is named for what is around it. -/
theorem exists_localePath
    {file : ProjectFile}
    (htree : world.IsTree)
    (hfile : file ∈ filesOf root (world.walk root))
    (hrole : FileRole.of? config file = some .resource) :
    ∃ (path : LocalePath config.localeFolderSuffix) (locale : String),
      path.text = file.display ∧
      locale ++ config.localeFolderSuffix = path.folder ∧
      LocaleFolder.ofPath? config.localeFolderSuffix ⟨file.display⟩ =
        some ⟨path.folderName, locale⟩ := by
  obtain ⟨names, hnames, rfl⟩ := exists_names_of_mem_filesOf htree hfile
  obtain ⟨path, hpath⟩ := (LocalePath.exists_segments_eq_iff hnames).mpr
    (FileRole.of?_eq_resource_iff.mp hrole).2
  have htext : path.text = (ProjectFile.ofNames root names).display := by
    rw [LocalePath.text, hpath, ProjectFile.ofNames]
  obtain ⟨locale, hlocale, hfolder⟩ := path.ofPath?_text
  exact ⟨path, locale, htext, hlocale, htext ▸ hfolder⟩

/--
The lists of the scan of a tree have no file in common, and each is in strict order of the paths.
Together they hold the files below the folder that no pattern matches and that have the extension of
strings files or of source files. No source file has the extension of strings files. Each file of
the first list has a locale folder, so it is never named or grouped like a file without one: its
database has the name and the locale of the folder, and the name of its group is put together from
what is before and behind the folder.
-/
theorem lists_of_tree
    [Compilers]
    (config : Config)
    (root : Path)
    (world : World)
    (htree : world.IsTree) :
    let scan := ofVisits config root (world.walk root)
    (scan.resources.Disjoint scan.sources ∧
      scan.resources.Disjoint scan.unlocalized ∧
      scan.sources.Disjoint scan.unlocalized) ∧
    (∀ list ∈ [scan.resources, scan.sources, scan.unlocalized],
      list.Pairwise fun a b => Path.cmp a.path b.path = .lt) ∧
    (∀ file, (file ∈ scan.resources ∨ file ∈ scan.sources ∨ file ∈ scan.unlocalized) ↔
      world.HasFile root file ∧
      (∀ pattern ∈ config.ignores, ∀ glob, Compilers.glob pattern = .ok glob →
        glob.accepts file.display = false) ∧
      ∃ ext, file.path.fileExtension? = some ext ∧
        (ext = config.resourceExtension ∨ ext ∈ config.sourceExtensions)) ∧
    (∀ file ∈ scan.sources, file.path.fileExtension? ≠ some config.resourceExtension) ∧
    ∀ file ∈ scan.resources,
      ∃ (path : LocalePath config.localeFolderSuffix) (locale : String),
        path.text = file.display ∧
        locale ++ config.localeFolderSuffix = path.folder ∧
        LocaleFolder.ofPath? config.localeFolderSuffix ⟨file.display⟩ =
          some ⟨path.folderName, locale⟩ ∧
        groupName config.localeFolderSuffix file.display =
          "/".intercalate (path.before ++ path.after) ∧
        ∀ content limit,
          let parsed := StringsFile.parse content file.display config.localeFolderSuffix limit
          parsed.database.name = path.folderName ∧ parsed.database.locale = locale := by
  intro scan
  have hmem {file : ProjectFile} (role : FileRole) :
      file ∈ withRole config role (keep (globs config) (filesOf root (world.walk root))) ↔
        (world.HasFile root file ∧ isIgnored (globs config) file = false) ∧
          FileRole.of? config file = some role := by
    rw [mem_withRole_iff, keep, List.mem_filter, mem_filesOf_walk_iff htree, Bool.not_eq_true']
  have hordered (role : FileRole) :
      (withRole config role (keep (globs config) (filesOf root (world.walk root)))).Pairwise
        fun a b => Path.cmp a.path b.path = .lt :=
    ((pairwise_filesOf_walk root htree).filter _).filter _
  refine ⟨⟨?_, ?_, ?_⟩, ?ordered, fun file => ?together, fun file hfile => ?source,
    fun file hfile => ?resource⟩
  · exact disjoint_withRole (by decide) _
  · exact disjoint_withRole (by decide) _
  · exact disjoint_withRole (by decide) _
  case ordered =>
    simp only [List.forall_mem_cons, List.not_mem_nil, false_implies, implies_true, and_true]
    exact ⟨hordered .resource, hordered .source, hordered .unlocalized⟩
  case together =>
    rw [← isIgnored_eq_false_iff, ← FileRole.exists_of?_iff, ← and_assoc]
    constructor
    · rintro (hfile | hfile | hfile)
      · exact ((hmem .resource).mp hfile).imp_right fun hrole => ⟨_, hrole⟩
      · exact ((hmem .source).mp hfile).imp_right fun hrole => ⟨_, hrole⟩
      · exact ((hmem .unlocalized).mp hfile).imp_right fun hrole => ⟨_, hrole⟩
    · rintro ⟨hkept, role, hrole⟩
      cases role with
      | resource => exact .inl ((hmem .resource).mpr ⟨hkept, hrole⟩)
      | source => exact .inr (.inl ((hmem .source).mpr ⟨hkept, hrole⟩))
      | unlocalized => exact .inr (.inr ((hmem .unlocalized).mpr ⟨hkept, hrole⟩))
  case source =>
    obtain ⟨ext, hext, hne, -⟩ := FileRole.of?_eq_source_iff.mp ((hmem .source).mp hfile).2
    rw [hext, ne_eq, Option.some.injEq]
    exact hne
  case resource =>
    obtain ⟨⟨hmet, -⟩, hrole⟩ := (hmem .resource).mp hfile
    obtain ⟨path, locale, htext, hlocale, hfolder⟩ :=
      exists_localePath htree ((mem_filesOf_walk_iff htree).mpr hmet) hrole
    refine ⟨path, locale, htext, hlocale, hfolder, htext ▸ path.groupName_text, ?_⟩
    exact fun content limit => StringsFile.folder_database_parse hfolder content limit

/-- A folder with a library, and a file that is named like a folder beside it. -/
def mixedFolder : Node :=
  .directory
    [("M.strings", .file (.text "\"ok\" = \"OK\";\n")),
     ("Pods", .directory [("A.swift", .file (.text "let t = \"ok\".localized\n"))]),
     ("a", .directory [("b.swift", .file .binary)]),
     ("a.swift", .file (.text "let t = \"ok\".localized\n")),
     ("en.lproj", .directory [("L.strings", .file (.text "\"ok\" = \"OK\";\n"))])]

/-- A world with the folder as its current directory. -/
def mixedWorld : World :=
  ⟨.directory [("app", mixedFolder)], ["app"]⟩

theorem walk_mixedWorld :
    mixedWorld.walk ⟨"."⟩ =
      [["M.strings"], ["Pods", "A.swift"], ["a", "b.swift"], ["a.swift"],
        ["en.lproj", "L.strings"]].map Visit.file := by
  have hpaths : mixedFolder.filePaths =
      [["M.strings"], ["Pods", "A.swift"], ["a", "b.swift"], ["a.swift"],
        ["en.lproj", "L.strings"]] := by
    simp only [mixedFolder, Node.filePaths, Node.entryPaths,
      sortBy_eq_self (List.pairwise_singleton ..)]
    rw [sortBy_eq_self (by decide +kernel)]
    rfl
  rw [← hpaths]
  rfl

/-- What is in a folder comes before the file that is named like it, and the library is left out. -/
theorem lists_of_mixed_tree :
    let config := { Config.standard with sourceExtensions := ["swift", "strings"] }
    let scan := ofVisits config ⟨"."⟩ (mixedWorld.walk ⟨"."⟩)
    mixedWorld.IsTree ∧
    scan.resources.map (·.display) = ["en.lproj/L.strings"] ∧
    scan.sources.map (·.display) = ["a/b.swift", "a.swift"] ∧
    scan.unlocalized.map (·.display) = ["M.strings"] ∧
    (scan.sources.Pairwise fun a b => Path.cmp a.path b.path = .lt) ∧
    ∀ file ∈ scan.sources, file.path.fileExtension? ≠ some "strings" := by
  intro config scan
  have htree : mixedWorld.IsTree := by
    refine ⟨?_, _, rfl⟩
    simp only [mixedWorld, mixedFolder, Node.isTree_directory_iff, List.forall_mem_cons,
      List.not_mem_nil, false_implies, implies_true, Node.IsTree.file, and_true]
    decide +kernel
  obtain ⟨-, hordered, -, hsources, -⟩ := lists_of_tree config ⟨"."⟩ mixedWorld htree
  refine ⟨htree, ?_, ?_, ?_, hordered _ (by simp [scan]), hsources⟩
  all_goals
    simp only [scan, config, walk_mixedWorld]
    decide +kernel

end Scan
end StringsAudit
