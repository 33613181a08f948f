import StringsAudit.Proofs.World.Tree

/-!
# The files that a walk meets

A walk meets each file of a tree once. Every directory is walked through in the order of the names
of its entries, so files are met in the order of the names that lead to them, compared name by name.

## Main results

* `Node.IsTree.mem_filePaths_iff` : the files that are met are those that names lead to.
* `Node.IsTree.pairwise_filePaths` : files are met in the order of their names.
-/

namespace StringsAudit
namespace Node

variable {node : Node} {entries : List (String × Node)}

/-- Names that lead to a file are met. -/
theorem mem_filePaths_of_find?
    {names : List String}
    {content : Content}
    (h : node.find? names = some (.file content)) :
    names ∈ node.filePaths := by
  induction names generalizing node with
  | nil =>
      rw [Option.some.inj h, filePaths]
      exact List.mem_singleton_self []
  | cons name rest ih =>
      obtain ⟨child, hchild, hrest⟩ := Option.bind_eq_some_iff.mp h
      cases node with
      | file other => cases hchild
      | directory entries =>
          rw [filePaths_directory, List.mem_flatMap]
          refine ⟨(name, child.filePaths), mem_sortBy.mpr ?_, List.mem_map_of_mem (ih hrest)⟩
          exact mem_entryPaths_iff.mpr ⟨name, child, mem_of_lookup_eq_some hchild, rfl⟩

/-- The files that are met are those that names lead to. -/
theorem IsTree.mem_filePaths_iff
    {names : List String}
    (htree : node.IsTree) :
    names ∈ node.filePaths ↔ ∃ content, node.find? names = some (.file content) := by
  constructor
  · intro h
    induction names generalizing node with
    | nil =>
        obtain ⟨content, rfl⟩ := exists_file_of_nil_mem_filePaths h
        exact ⟨content, rfl⟩
    | cons name rest ih =>
        obtain ⟨child, -, hchild, hchildTree, hrest⟩ := htree.exists_child_of_mem_filePaths h
        obtain ⟨content, hcontent⟩ := ih hchildTree hrest
        exact ⟨content, by rw [find?, hchild, Option.bind_some, hcontent]⟩
  · rintro ⟨content, hcontent⟩
    exact mem_filePaths_of_find? hcontent

theorem map_fst_entryPaths
    (entries : List (String × Node)) :
    (entryPaths entries).map (·.1) = entries.map (·.1) := by
  induction entries with
  | nil => rfl
  | cons entry rest ih => rw [entryPaths, List.map_cons, ih, List.map_cons]

/-- The names of the entries of a directory are strictly increasing once they are sorted. -/
theorem pairwise_sortBy_entryPaths
    (hdistinct : (entries.map (·.1)).Nodup) :
    (sortBy (compareOn (·.1)) (entryPaths entries)).Pairwise fun a b =>
      compare a.1 b.1 = .lt := by
  rw [← map_fst_entryPaths, List.Nodup, List.pairwise_map] at hdistinct
  exact pairwise_lt_sortBy (compareOn (·.1)) (hdistinct.imp fun hne heq =>
    hne (Std.LawfulEqCmp.eq_of_compare heq))

/-- Files are met in the order of their names, and none is met twice. -/
theorem IsTree.pairwise_filePaths
    (htree : node.IsTree) :
    node.filePaths.Pairwise fun a b => List.compareLex compare a b = .lt := by
  induction htree with
  | file content =>
      rw [filePaths]
      exact List.pairwise_singleton ..
  | @directory entries distinct names nodes ih =>
      rw [filePaths_directory, List.pairwise_flatMap]
      refine ⟨fun entry hentry => ?below, ?between⟩
      case below =>
        obtain ⟨name, child, hmem, rfl⟩ := mem_entryPaths_iff.mp (mem_sortBy.mp hentry)
        rw [pathsBelow, List.pairwise_map]
        refine (ih _ hmem).imp fun hlt => ?_
        have hself : compare name name = .eq := Std.ReflCmp.compare_self
        rw [List.compareLex_cons_cons, hself]
        exact hlt
      case between =>
        refine (pairwise_sortBy_entryPaths distinct).imp fun hlt first hfirst second hsecond => ?_
        -- files below different entries are told apart by the names of these
        obtain ⟨_, -, rfl⟩ := List.mem_map.mp hfirst
        obtain ⟨_, -, rfl⟩ := List.mem_map.mp hsecond
        rw [List.compareLex_cons_cons, hlt]
        rfl

end Node
end StringsAudit
