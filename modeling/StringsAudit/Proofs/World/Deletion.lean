import StringsAudit.Proofs.World.Resolve
import StringsAudit.Proofs.World.Tree

/-!
# A world without some of its files

Deleting files leaves all directories in place. So a path that leads to something that is left leads
there as before, a walk meets the files that are left in the order in which it met them before, and
each of them is read as before.

## Main definitions

* `World.IsTree` : a world in which names tell entries apart.
* `World.withoutFiles` : a world without the files whose names are dropped.

## Main results

* `find?_withoutFiles` : what names lead to when files are deleted.
* `lookup_withoutFiles_iff` : what stands at a path when files are deleted.
* `resolve_childPath` : the path of a file that is met on a walk leads to it.
* `read_withoutFiles` : what a file that is left holds.
-/

namespace StringsAudit
namespace World

open StringsAudit.Path

/-- A world in which names tell entries apart. -/
structure IsTree (world : World) : Prop where
  isTree : world.top.IsTree
  isDirectory : world.IsDirectory []

/-- A world without the files whose names are dropped. -/
def withoutFiles (drop : List String → Bool) (world : World) : World :=
  { world with top := (world.top.withoutFiles? drop).getD .empty }

variable {world : World} {names target : List String} {drop : List String → Bool}

/-! ### Where paths lead -/

/-- What names lead to when files are deleted is what is left of what they led to. -/
theorem find?_withoutFiles
    (drop : List String → Bool)
    (names : List String)
    (htree : world.IsTree) :
    (world.withoutFiles drop).find? names =
      (world.find? names).bind (Node.withoutFiles? fun rest => drop (names ++ rest)) := by
  obtain ⟨entries, hentries⟩ := htree.isDirectory
  have htop : world.top = .directory entries := Option.some.inj hentries
  have hleft := Node.find?_withoutFiles? drop names htree.isTree
  rw [find?, find?, withoutFiles, ← hleft, htop, Node.withoutFiles?, Option.getD_some,
    Option.bind_some]

theorem isDirectory_withoutFiles_iff
    (htree : world.IsTree) :
    (world.withoutFiles drop).IsDirectory names ↔ world.IsDirectory names := by
  rw [IsDirectory, IsDirectory, find?_withoutFiles drop names htree]
  cases world.find? names with
  | none => simp
  | some node =>
      cases node with
      | file content =>
          rw [Option.bind_some, Node.withoutFiles?]
          split <;> simp
      | directory entries => simp [Node.withoutFiles?]

/-- What is found when files are deleted was found before. -/
theorem isSome_find?_of_withoutFiles
    (htree : world.IsTree)
    (h : ((world.withoutFiles drop).find? names).isSome = true) :
    (world.find? names).isSome = true := by
  rw [find?_withoutFiles drop names htree] at h
  exact Option.isSome_of_isSome_bind h

theorem IsDirectory.isSome_find?
    (h : world.IsDirectory names) :
    (world.find? names).isSome = true := by
  obtain ⟨entries, hfind⟩ := h
  rw [hfind]
  rfl

theorem isSome_find?_dropLast
    (h : (world.find? names).isSome = true) :
    (world.find? names.dropLast).isSome = true := by
  cases names using List.reverseRecOn with
  | nil => exact h
  | append_singleton before name =>
      rw [find?, Node.find?_append] at h
      rw [List.dropLast_concat]
      exact Option.isSome_of_isSome_bind h

/-- A segment leads where it led, if that is left. -/
theorem step_withoutFiles_iff
    {segment : String}
    (htree : world.IsTree) :
    (world.withoutFiles drop).step names segment = .ok target ↔
      world.step names segment = .ok target ∧
        ((world.withoutFiles drop).find? target).isSome = true := by
  rw [step_eq_ok_iff, step_eq_ok_iff, isDirectory_withoutFiles_iff htree, and_assoc]
  refine and_congr_right fun hdirectory => ?_
  have hleft : ((world.withoutFiles drop).find? names).isSome = true :=
    ((isDirectory_withoutFiles_iff htree).mpr hdirectory).isSome_find?
  split
  next => exact ⟨fun heq => ⟨heq, heq ▸ hleft⟩, And.left⟩
  next =>
    split
    next => exact ⟨fun heq => ⟨heq, heq ▸ isSome_find?_dropLast hleft⟩, And.left⟩
    next =>
      constructor
      · rintro ⟨hsize, hholds, rfl⟩
        exact ⟨⟨hsize, isSome_find?_of_withoutFiles htree hholds, rfl⟩, hholds⟩
      · rintro ⟨⟨hsize, -, rfl⟩, hholds⟩
        exact ⟨hsize, hholds, rfl⟩

/-- Segments lead where they led, if that is left. -/
theorem follow_withoutFiles_iff
    {segments : List String}
    (htree : world.IsTree)
    (htarget : ((world.withoutFiles drop).find? target).isSome = true) :
    (world.withoutFiles drop).follow names segments = .ok target ↔
      world.follow names segments = .ok target := by
  induction segments generalizing names with
  | nil => rfl
  | cons segment rest ih =>
      simp only [follow_cons_eq_ok_iff, ih, step_withoutFiles_iff htree]
      constructor
      · rintro ⟨next, ⟨hstep, -⟩, hrest⟩
        exact ⟨next, hstep, hrest⟩
      · rintro ⟨next, hstep, hrest⟩
        refine ⟨next, ⟨hstep, ?_⟩, hrest⟩
        -- what has segments behind it is a directory, and these are left
        cases rest with
        | nil => exact Except.ok.inj hrest ▸ htarget
        | cons other rest =>
            obtain ⟨_, hother, -⟩ := follow_cons_eq_ok_iff.mp hrest
            exact ((isDirectory_withoutFiles_iff htree).mpr
              (isDirectory_of_step hother)).isSome_find?

/-- What stands at a path when files are deleted is what is left of what stood there. -/
theorem lookup_withoutFiles_iff
    {path : Path}
    {left : Node}
    (htree : world.IsTree) :
    (world.withoutFiles drop).lookup path = .ok left ↔
      ∃ found node, world.resolve path = .ok found ∧ world.find? found = some node ∧
        node.withoutFiles? (fun rest => drop (found ++ rest)) = some left := by
  rw [lookup_eq_ok_iff]
  refine exists_congr fun found => ?_
  have hresolve (hfound : (world.withoutFiles drop).find? found = some left) :
      (world.withoutFiles drop).resolve path = .ok found ↔ world.resolve path = .ok found := by
    rw [resolve_eq_ok_iff, resolve_eq_ok_iff]
    exact and_congr_right fun _ => follow_withoutFiles_iff htree (by rw [hfound]; rfl)
  have hfind : (world.withoutFiles drop).find? found = some left ↔
      ∃ node, world.find? found = some node ∧
        node.withoutFiles? (fun rest => drop (found ++ rest)) = some left := by
    rw [find?_withoutFiles drop found htree, Option.bind_eq_some_iff]
  rw [and_congr_left hresolve, hfind]
  constructor
  · rintro ⟨hpath, node, hnode, hleft⟩
    exact ⟨node, hpath, hnode, hleft⟩
  · rintro ⟨node, hpath, hnode, hleft⟩
    exact ⟨hpath, node, hnode, hleft⟩

/-- What stands at a path that leads somewhere is what is left of what stood there. -/
theorem toOption_lookup_withoutFiles
    {path : Path}
    {base : List String}
    (htree : world.IsTree)
    (hbase : world.resolve path = .ok base) :
    ((world.withoutFiles drop).lookup path).toOption =
      (world.lookup path).toOption.bind (Node.withoutFiles? fun rest => drop (base ++ rest)) := by
  cases hafter : (world.withoutFiles drop).lookup path with
  | ok left =>
      obtain ⟨found, node, hfound, hnode, hleft⟩ := (lookup_withoutFiles_iff htree).mp hafter
      obtain rfl : base = found := Except.ok.inj (hbase.symm.trans hfound)
      rw [lookup_eq_ok_iff.mpr ⟨base, hbase, hnode⟩]
      exact hleft.symm
  | error fault =>
      cases hbefore : world.lookup path with
      | error error => rfl
      | ok node =>
          obtain ⟨found, hfound, hnode⟩ := lookup_eq_ok_iff.mp hbefore
          obtain rfl : base = found := Except.ok.inj (hbase.symm.trans hfound)
          -- if anything were left, it would still be found
          cases hleft : node.withoutFiles? fun rest => drop (base ++ rest) with
          | none => exact hleft.symm
          | some left =>
              rw [(lookup_withoutFiles_iff htree).mpr ⟨base, node, hbase, hnode, hleft⟩] at hafter
              cases hafter

/-! ### The paths of files that are met on a walk -/

theorem exists_text_foldl_child
    (path : Path)
    (hnames : ∀ name ∈ names, IsEntryName name) :
    ∃ tail, (names.foldl Path.child path).text = path.text ++ tail := by
  induction names generalizing path with
  | nil => exact ⟨"", (String.append_empty ..).symm⟩
  | cons name rest ih =>
      rw [List.forall_mem_cons] at hnames
      obtain ⟨tail, htail⟩ := ih (path.child name) hnames.2
      rw [List.foldl_cons, htail]
      rcases child_text_cases path hnames.1.isName with ⟨htext, -⟩ | ⟨htext, -⟩
      · exact ⟨name ++ tail, by rw [htext, String.append_assoc]⟩
      · exact ⟨"/" ++ name ++ tail, by simp only [htext, String.append_assoc]⟩

/-- A path that begins a usable one is usable. -/
theorem pathFault?_of_append
    {path longer : Path}
    {tail : String}
    (htext : longer.text = path.text ++ tail)
    (hne : path.text ≠ "")
    (hfault : pathFault? longer = none) :
    pathFault? path = none := by
  rw [pathFault?] at hfault
  split at hfault
  next => cases hfault
  next hnull =>
    split at hfault
    next => cases hfault
    next =>
      split at hfault
      next => cases hfault
      next hlong =>
        rw [htext, List.contains_iff_mem, String.toList_append, List.mem_append, not_or] at hnull
        rw [htext, String.utf8ByteSize_append] at hlong
        rw [pathFault?, if_neg, if_neg (by simpa using hne), if_neg (by omega)]
        rw [List.contains_iff_mem]
        exact hnull.1

theorem text_child_ne
    {name : String}
    (path : Path)
    (hname : IsName name) :
    (path.child name).text ≠ "" := by
  rcases child_text_cases path hname with ⟨htext, -⟩ | ⟨htext, -⟩ <;>
    rw [htext, ne_eq, String.append_eq_empty_iff] <;>
    exact fun h => hname.ne_empty h.2

/-- The path of a file that is met on a walk leads to it, unless it is too long for a path. -/
theorem resolve_childPath
    {path : Path}
    {base : List String}
    {node : Node}
    (hbase : world.resolve path = .ok base)
    (hnode : world.find? base = some node)
    (htree : node.IsTree)
    (hnames : names ∈ node.filePaths)
    (hfault : pathFault? (names.foldl Path.child path) = none) :
    world.resolve (names.foldl Path.child path) = .ok (base ++ names) ∧
      ∃ content, world.find? (base ++ names) = some (.file content) := by
  induction names generalizing path base node with
  | nil =>
      obtain ⟨content, rfl⟩ := Node.exists_file_of_nil_mem_filePaths hnames
      rw [List.append_nil]
      exact ⟨hbase, content, hnode⟩
  | cons name rest ih =>
      obtain ⟨child, hname, hchild, hchildTree, hrest⟩ := htree.exists_child_of_mem_filePaths hnames
      have hdirectory : world.IsDirectory base := by
        cases node with
        | file content => cases hchild
        | directory entries => exact ⟨entries, hnode⟩
      have hfound : world.find? (base ++ [name]) = some child := by
        rw [find?] at hnode ⊢
        rw [Node.find?_append, hnode, Option.bind_some, Node.find?, hchild]
        rfl
      have hholds : world.Holds base name := by
        rw [Holds, hfound]
        rfl
      rw [List.foldl_cons] at hfault ⊢
      obtain ⟨tail, htail⟩ := exists_text_foldl_child (path.child name)
        (hchildTree.isEntryName_of_mem_filePaths hrest)
      have hstep : world.resolve (path.child name) = .ok (base ++ [name]) :=
        (resolve_child (follow_steps_of_resolve hbase hdirectory).2 hdirectory hname.isName
          hname.size_le (pathFault?_of_append htail (text_child_ne path hname.isName) hfault)).mpr
          ⟨hholds, rfl⟩
      have hbelow := ih hstep hfound hchildTree hrest hfault
      rwa [List.append_assoc, List.singleton_append] at hbelow

/-- A file that is left holds what it held. -/
theorem read_withoutFiles
    {path : Path}
    {base : List String}
    {node : Node}
    (htree : world.IsTree)
    (hbase : world.resolve path = .ok base)
    (hnode : world.find? base = some node)
    (hnames : names ∈ node.filePaths)
    (hkept : drop (base ++ names) = false) :
    (world.withoutFiles drop).read (names.foldl Path.child path) =
      world.read (names.foldl Path.child path) := by
  have hlookup : (world.withoutFiles drop).lookup (names.foldl Path.child path) =
      world.lookup (names.foldl Path.child path) := by
    cases hfault : pathFault? (names.foldl Path.child path) with
    | some error =>
        rw [lookup, lookup, resolve, resolve, hfault]
        rfl
    | none =>
        obtain ⟨hresolve, content, hfile⟩ :=
          resolve_childPath hbase hnode (htree.isTree.of_find? hnode) hnames hfault
        rw [lookup_eq_ok_iff.mpr ⟨_, hresolve, hfile⟩, lookup_withoutFiles_iff htree]
        refine ⟨_, _, hresolve, hfile, ?_⟩
        rw [Node.withoutFiles?, List.append_nil, hkept]
        rfl
  rw [read, read, hlookup]

end World
end StringsAudit
