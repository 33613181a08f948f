import StringsAudit.Proofs.Path.Segments
import StringsAudit.Proofs.Sorting
import StringsAudit.World

/-!
# Trees of files and directories, and trees without some of their files

In a tree, the entries of a directory have names that can stand in a path, and no two have the same
name. If files are deleted, all directories stay: what names lead to is what they led to, and the
files that are met are those that were met before, in the same order.

## Main definitions

* `IsEntryName` : a name that an entry of a directory can have.
* `Node.IsTree` : a node in which names tell entries apart.
* `Node.withoutFiles?` : a node without the files below it whose names are dropped.

## Main results

* `Node.find?_withoutFiles?` : what names lead to when files are deleted.
* `Node.filePaths_withoutFiles?` : the files that are left.
* `Node.IsTree.exists_child_of_mem_filePaths` : the first name of a file leads towards it.
-/

namespace StringsAudit

/-- A name that an entry of a directory can have. -/
structure IsEntryName (name : String) : Prop where
  isName : Path.IsName name
  size_le : name.utf8ByteSize ≤ World.maxName

instance (name : String) : Decidable (IsEntryName name) :=
  decidable_of_iff (Path.IsName name ∧ name.utf8ByteSize ≤ World.maxName)
    ⟨fun h => ⟨h.1, h.2⟩, fun h => ⟨h.isName, h.size_le⟩⟩

namespace Node

/-- A node in which names tell entries apart. -/
inductive IsTree : Node → Prop
  | file
      (content : Content) :
      IsTree (.file content)
  | directory
      {entries : List (String × Node)}
      (distinct : (entries.map (·.1)).Nodup)
      (names : ∀ entry ∈ entries, IsEntryName entry.1)
      (nodes : ∀ entry ∈ entries, IsTree entry.2) :
      IsTree (.directory entries)

theorem isTree_directory_iff
    {entries : List (String × Node)} :
    (directory entries).IsTree ↔ (entries.map (·.1)).Nodup ∧
      ∀ entry ∈ entries, IsEntryName entry.1 ∧ entry.2.IsTree := by
  constructor
  · rintro ⟨⟩
    rename_i distinct names nodes
    exact ⟨distinct, fun entry hentry => ⟨names entry hentry, nodes entry hentry⟩⟩
  · rintro ⟨distinct, hentries⟩
    exact .directory distinct (fun entry hentry => (hentries entry hentry).1)
      fun entry hentry => (hentries entry hentry).2

mutual

/-- A node without the files below it whose names are dropped. -/
def withoutFiles? (drop : List String → Bool) : Node → Option Node
  | file content => if drop [] then none else some (file content)
  | directory entries => some (directory (entriesWithoutFiles drop entries))

/-- Entries without the files below them whose names are dropped. -/
def entriesWithoutFiles (drop : List String → Bool) :
    List (String × Node) → List (String × Node)
  | [] => []
  | (name, node) :: rest =>
      match node.withoutFiles? fun names => drop (name :: names) with
      | some left => (name, left) :: entriesWithoutFiles drop rest
      | none => entriesWithoutFiles drop rest

end

variable {node : Node} {entries : List (String × Node)} {drop : List String → Bool}

/-! ### What names lead to -/

theorem fst_mem_of_mem_entriesWithoutFiles
    {name : String}
    (h : name ∈ (entriesWithoutFiles drop entries).map (·.1)) :
    name ∈ entries.map (·.1) := by
  induction entries with
  | nil => exact h
  | cons entry rest ih =>
      obtain ⟨other, node⟩ := entry
      rw [List.map_cons, List.mem_cons]
      rw [entriesWithoutFiles] at h
      split at h
      next left _ =>
        rw [List.map_cons, List.mem_cons] at h
        exact h.imp_right ih
      next => exact .inr (ih h)

theorem mem_of_lookup_eq_some
    {name : String}
    (h : entries.lookup name = some node) :
    (name, node) ∈ entries := by
  obtain ⟨before, after, heq, -⟩ := List.lookup_eq_some_iff.mp h
  simp [heq]

/-- An entry of a directory without some files is what is left of the entry of that name. -/
theorem lookup_entriesWithoutFiles
    (name : String)
    (hdistinct : (entries.map (·.1)).Nodup) :
    (entriesWithoutFiles drop entries).lookup name =
      (entries.lookup name).bind (withoutFiles? fun names => drop (name :: names)) := by
  induction entries with
  | nil => rfl
  | cons entry rest ih =>
      obtain ⟨other, node⟩ := entry
      rw [List.map_cons, List.nodup_cons] at hdistinct
      rw [entriesWithoutFiles]
      by_cases heq : name = other
      · subst heq
        rw [List.lookup_cons_self, Option.bind_some]
        split
        next left hleft => rw [List.lookup_cons_self, hleft]
        next hnone =>
          -- no entry behind a deleted one has its name
          rw [hnone, List.lookup_eq_none_iff]
          intro entry hentry
          have hfirst : entry.1 ∈ (entriesWithoutFiles drop rest).map (·.1) :=
            List.mem_map_of_mem hentry
          have hother : name ≠ entry.1 := fun hname =>
            hdistinct.1 (hname ▸ fst_mem_of_mem_entriesWithoutFiles hfirst)
          simpa using hother
      · have hne : (name == other) = false := by simpa using heq
        rw [List.lookup_cons, hne]
        dsimp only
        rw [← ih hdistinct.2]
        split
        next => rw [List.lookup_cons, hne]
        next => rfl

/-- What names lead to when files are deleted is what is left of what they led to. -/
theorem find?_withoutFiles?
    (drop : List String → Bool)
    (names : List String)
    (htree : node.IsTree) :
    (node.withoutFiles? drop).bind (·.find? names) =
      (node.find? names).bind (withoutFiles? fun rest => drop (names ++ rest)) := by
  induction names generalizing node drop with
  | nil => simp [find?]
  | cons name rest ih =>
      cases htree with
      | file content =>
          rw [withoutFiles?]
          split <;> rfl
      | directory distinct names nodes =>
          rename_i entries
          rw [withoutFiles?, Option.bind_some, find?, find?, child?, child?,
            lookup_entriesWithoutFiles name distinct, Option.bind_assoc, Option.bind_assoc]
          cases hchild : entries.lookup name with
          | none => rfl
          | some child =>
              exact ih _ (nodes _ (mem_of_lookup_eq_some hchild))

/-! ### The files that are met -/

/-- The names of files below a name. -/
def pathsBelow (entry : String × List (List String)) : List (List String) :=
  entry.2.map (entry.1 :: ·)

/-- The names below a name that are not dropped. -/
def keepBelow (drop : List String → Bool) (entry : String × List (List String)) :
    String × List (List String) :=
  (entry.1, entry.2.filter fun names => !drop (entry.1 :: names))

theorem pathsBelow_keepBelow
    (drop : List String → Bool)
    (entry : String × List (List String)) :
    pathsBelow (keepBelow drop entry) = (pathsBelow entry).filter fun names => !drop names := by
  rw [pathsBelow, pathsBelow, keepBelow, List.filter_map]
  rfl

theorem filePaths_directory
    (entries : List (String × Node)) :
    (directory entries).filePaths =
      (sortBy (compareOn (·.1)) (entryPaths entries)).flatMap pathsBelow := by
  rw [filePaths]
  rfl

/-- Names below which there is no file have no part in a walk. -/
theorem flatMap_pathsBelow_sortBy_filter
    (list : List (String × List (List String))) :
    (sortBy (compareOn (·.1)) (list.filter fun entry => !entry.2.isEmpty)).flatMap pathsBelow =
      (sortBy (compareOn (·.1)) list).flatMap pathsBelow := by
  rw [← filter_sortBy]
  induction sortBy (compareOn (·.1)) list with
  | nil => rfl
  | cons entry rest ih =>
      rw [List.filter_cons, List.flatMap_cons, ← ih]
      cases hpaths : entry.2 <;> simp [pathsBelow, hpaths]

theorem entryPaths_entriesWithoutFiles
    (h : ∀ entry ∈ entries, ∀ drop,
      ((entry.2.withoutFiles? drop).elim [] filePaths) =
        entry.2.filePaths.filter fun names => !drop names) :
    (entryPaths (entriesWithoutFiles drop entries)).filter (fun entry => !entry.2.isEmpty) =
      ((entryPaths entries).map (keepBelow drop)).filter fun entry => !entry.2.isEmpty := by
  induction entries with
  | nil => rfl
  | cons entry rest ih =>
      obtain ⟨name, node⟩ := entry
      have hrest := ih fun entry hentry => h entry (List.mem_cons_of_mem _ hentry)
      have hnode := h (name, node) List.mem_cons_self fun names => drop (name :: names)
      have hkept : keepBelow drop (name, node.filePaths) =
          (name, (node.withoutFiles? fun names => drop (name :: names)).elim [] filePaths) := by
        rw [hnode]
        rfl
      rw [entriesWithoutFiles, entryPaths, List.map_cons, hkept]
      cases node.withoutFiles? fun names => drop (name :: names) with
      | some left => simp only [entryPaths, List.filter_cons, hrest, Option.elim_some]
      | none => simpa using hrest

/-- The files that are left are those whose names are not dropped, in the same order. -/
theorem filePaths_withoutFiles?
    (drop : List String → Bool)
    (htree : node.IsTree) :
    (node.withoutFiles? drop).elim [] filePaths =
      node.filePaths.filter fun names => !drop names := by
  induction htree generalizing drop with
  | file content => cases hdrop : drop [] <;> simp [withoutFiles?, filePaths, hdrop]
  | @directory entries distinct names nodes ih =>
      have hsame (a b : String × List (List String)) :
          compareOn (·.1) a b = compareOn (·.1) (keepBelow drop a) (keepBelow drop b) :=
        rfl
      rw [withoutFiles?, Option.elim_some, filePaths_directory, filePaths_directory,
        ← flatMap_pathsBelow_sortBy_filter, entryPaths_entriesWithoutFiles ih,
        flatMap_pathsBelow_sortBy_filter, ← map_sortBy hsame, List.flatMap_map,
        List.filter_flatMap]
      simp only [pathsBelow_keepBelow]

theorem mem_entryPaths_iff
    {entry : String × List (List String)} :
    entry ∈ entryPaths entries ↔ ∃ name node, (name, node) ∈ entries ∧
      entry = (name, node.filePaths) := by
  induction entries with
  | nil => simp [entryPaths]
  | cons first rest ih =>
      obtain ⟨name, node⟩ := first
      rw [entryPaths, List.mem_cons, ih]
      constructor
      · rintro (rfl | ⟨other, child, hmem, rfl⟩)
        · exact ⟨name, node, List.mem_cons_self, rfl⟩
        · exact ⟨other, child, List.mem_cons_of_mem _ hmem, rfl⟩
      · rintro ⟨other, child, hmem, rfl⟩
        rcases List.mem_cons.mp hmem with heq | hmem
        · cases heq
          exact .inl rfl
        · exact .inr ⟨other, child, hmem, rfl⟩

theorem lookup_of_mem
    {name : String}
    (hdistinct : (entries.map (·.1)).Nodup)
    (hmem : (name, node) ∈ entries) :
    entries.lookup name = some node := by
  obtain ⟨before, after, rfl⟩ := List.append_of_mem hmem
  rw [List.lookup_eq_some_iff]
  refine ⟨before, after, rfl, fun entry hentry => ?_⟩
  rw [List.map_append, List.nodup_append] at hdistinct
  have hne := hdistinct.2.2 entry.1 (List.mem_map_of_mem hentry) name (by simp)
  simpa using Ne.symm hne

/-- The first name of a file leads to an entry, and the others from there to the file. -/
theorem IsTree.exists_child_of_mem_filePaths
    {name : String}
    {rest : List String}
    (htree : node.IsTree)
    (h : name :: rest ∈ node.filePaths) :
    ∃ child, IsEntryName name ∧ node.child? name = some child ∧ child.IsTree ∧
      rest ∈ child.filePaths := by
  cases htree with
  | file content => simp [filePaths] at h
  | @directory entries distinct names nodes =>
      rw [filePaths_directory, List.mem_flatMap] at h
      obtain ⟨entry, hentry, hbelow⟩ := h
      obtain ⟨other, child, hmem, rfl⟩ := mem_entryPaths_iff.mp (mem_sortBy.mp hentry)
      obtain ⟨tail, htail, heq⟩ := List.mem_map.mp hbelow
      obtain ⟨rfl, rfl⟩ := List.cons.inj heq
      exact ⟨child, names _ hmem, lookup_of_mem distinct hmem, nodes _ hmem, htail⟩

theorem IsTree.of_child?
    {name : String}
    {child : Node}
    (htree : node.IsTree)
    (hchild : node.child? name = some child) :
    child.IsTree := by
  cases htree with
  | file content => cases hchild
  | directory distinct names nodes => exact nodes _ (mem_of_lookup_eq_some hchild)

theorem IsTree.of_find?
    {names : List String}
    {found : Node}
    (htree : node.IsTree)
    (hfind : node.find? names = some found) :
    found.IsTree := by
  induction names generalizing node with
  | nil => exact Option.some.inj hfind ▸ htree
  | cons name rest ih =>
      obtain ⟨child, hchild, hrest⟩ := Option.bind_eq_some_iff.mp hfind
      exact ih (htree.of_child? hchild) hrest

theorem IsTree.isEntryName_of_mem_filePaths
    {names : List String}
    (htree : node.IsTree)
    (h : names ∈ node.filePaths) :
    ∀ name ∈ names, IsEntryName name := by
  induction names generalizing node with
  | nil => simp
  | cons name rest ih =>
      obtain ⟨child, hname, -, hchild, hrest⟩ := htree.exists_child_of_mem_filePaths h
      exact List.forall_mem_cons.mpr ⟨hname, ih hchild hrest⟩

theorem exists_file_of_nil_mem_filePaths
    (h : [] ∈ node.filePaths) :
    ∃ content, node = file content := by
  cases node with
  | file content => exact ⟨content, rfl⟩
  | directory entries =>
      rw [filePaths_directory, List.mem_flatMap] at h
      obtain ⟨entry, -, hbelow⟩ := h
      obtain ⟨tail, -, heq⟩ := List.mem_map.mp hbelow
      cases heq

end Node
end StringsAudit
