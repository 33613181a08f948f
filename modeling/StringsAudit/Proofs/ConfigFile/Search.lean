import Mathlib.Data.List.Infix
import StringsAudit.ConfigFile
import StringsAudit.Proofs.World.Resolve

/-!
# Where the search for a configuration comes to

The search goes up a path by its text, so it comes to the directories to which the initial steps of
the path lead. Where the path has no step that leads up, these are the folder and the directories
above it, as far as the directory in which the path starts; elsewhere they need not be above it.

## Main definitions

* `nearest` : the first directory on a way that holds a configuration, up to a repository's top.
* `IsConfiguredBy` : a directory that holds the configuration of a folder.
* `visited` : the directories that the search comes to.
* `Finds` : a directory whose configuration the search finds.

## Main results

* `map_resolve_findIn?_upward` : what the search finds on the way up.
* `nearest_eq_some_iff` : on the way up from a folder, its configuration is the nearest.
* `find?_of_resolve` : when the search finds the configuration of the folder.
-/

namespace StringsAudit
namespace ConfigFile

open StringsAudit.Path World

/-- The first directory on a way that holds a configuration, up to a repository's top. -/
def nearest (world : World) : List (List String) → Option (List String)
  | [] => none
  | directory :: rest =>
      if world.Holds directory name then some directory
      else if world.Holds directory repositoryMark then none
      else nearest world rest

/--
A directory that holds the configuration of a folder. It is the folder or a directory above it, and
on the way to it there is neither a configuration nor the top of a repository.
-/
structure IsConfiguredBy (world : World) (folder holder : List String) : Prop where
  above : holder <+: folder
  holds : world.Holds holder name
  first : ∀ between, holder <+: between → between <+: folder → between ≠ holder →
    ¬ world.Holds between name
  inside : ∀ between, holder <+: between → between <+: folder → between ≠ holder →
    ¬ world.Holds between repositoryMark

/-- The directories that the search from a path comes to, from the inside out. -/
def visited (world : World) (start : Path) : List (List String) :=
  start.steps.inits.reverse.map (lead (world.start start))

/-- A directory whose configuration the search from a path finds. -/
def Finds (world : World) (start : Path) (holder : List String) : Prop :=
  ∃ path, (find? files start world).1 = some path ∧ world.resolve path = .ok (holder ++ [name])

variable {world : World}

/-! ### The way up from a directory -/

theorem reverse_inits_concat
    (steps : List String)
    (last : String) :
    (steps ++ [last]).inits.reverse = (steps ++ [last]) :: steps.inits.reverse := by
  rw [List.inits_append]
  simp

theorem isConfiguredBy_self_iff
    {directory : List String} :
    IsConfiguredBy world directory directory ↔ world.Holds directory name := by
  constructor
  · exact IsConfiguredBy.holds
  · intro hholds
    have hsame (between : List String) (hlow : directory <+: between)
        (hhigh : between <+: directory) : between = directory :=
      hhigh.eq_of_length_le hlow.length_le
    exact ⟨List.prefix_rfl, hholds,
      fun between hlow hhigh hne => absurd (hsame between hlow hhigh) hne,
      fun between hlow hhigh hne => absurd (hsame between hlow hhigh) hne⟩

/-- A configuration is that of a folder, or that of the directory above it. -/
theorem isConfiguredBy_concat_iff
    {directory holder : List String}
    {last : String} :
    IsConfiguredBy world (directory ++ [last]) holder ↔
      (world.Holds (directory ++ [last]) name ∧ holder = directory ++ [last]) ∨
      (¬ world.Holds (directory ++ [last]) name ∧
        ¬ world.Holds (directory ++ [last]) repositoryMark ∧
        IsConfiguredBy world directory holder) := by
  constructor
  · intro h
    by_cases heq : holder = directory ++ [last]
    · exact .inl ⟨heq ▸ h.holds, heq⟩
    · have habove : holder <+: directory := (List.prefix_concat_iff.mp h.above).resolve_left heq
      have hup {between : List String} (hbetween : between <+: directory) :
          between <+: directory ++ [last] :=
        hbetween.trans (List.prefix_append directory [last])
      refine .inr ⟨h.first _ h.above List.prefix_rfl (Ne.symm heq),
        h.inside _ h.above List.prefix_rfl (Ne.symm heq), habove, h.holds, ?_, ?_⟩
      · exact fun between hlow hhigh => h.first between hlow (hup hhigh)
      · exact fun between hlow hhigh => h.inside between hlow (hup hhigh)
  · rintro (⟨hholds, rfl⟩ | ⟨hname, hmark, h⟩)
    · exact isConfiguredBy_self_iff.mpr hholds
    · refine ⟨h.above.trans (List.prefix_append directory [last]), h.holds, ?_, ?_⟩
      · intro between hlow hhigh hne
        rcases List.prefix_concat_iff.mp hhigh with rfl | hhigh
        · exact hname
        · exact h.first between hlow hhigh hne
      · intro between hlow hhigh hne
        rcases List.prefix_concat_iff.mp hhigh with rfl | hhigh
        · exact hmark
        · exact h.inside between hlow hhigh hne

/-- On the way up from a folder to a directory above, the nearest configuration is its own. -/
theorem nearest_eq_some_iff
    {base steps holder : List String} :
    nearest world (steps.inits.reverse.map (base ++ ·)) = some holder ↔
      IsConfiguredBy world (base ++ steps) holder ∧ base <+: holder := by
  induction steps using List.reverseRecOn with
  | nil =>
      have hnearest : nearest world [base] = some holder ↔
          world.Holds base name ∧ base = holder := by
        simp only [nearest]
        split <;> simp [*]
      have hway : [].inits.reverse.map (base ++ ·) = [base] := by
        simp
      rw [hway, hnearest, List.append_nil]
      constructor
      · rintro ⟨hholds, rfl⟩
        exact ⟨isConfiguredBy_self_iff.mpr hholds, List.prefix_rfl⟩
      · rintro ⟨h, hbase⟩
        have heq : base = holder := hbase.eq_of_length_le h.above.length_le
        exact ⟨heq ▸ h.holds, heq⟩
  | append_singleton steps last ih =>
      have hbase : base <+: base ++ steps ++ [last] := by
        rw [List.append_assoc]
        exact List.prefix_append base (steps ++ [last])
      rw [reverse_inits_concat, List.map_cons, nearest, ← List.append_assoc,
        isConfiguredBy_concat_iff]
      generalize base ++ steps ++ [last] = lowest at hbase ⊢
      by_cases hname : world.Holds lowest name
      · simp only [hname, if_true, Option.some.injEq, true_and, not_true_eq_false, false_and,
          or_false]
        constructor
        · rintro rfl
          exact ⟨rfl, hbase⟩
        · exact fun h => h.1.symm
      · by_cases hmark : world.Holds lowest repositoryMark
        · simp [hname, hmark]
        · simpa [hname, hmark] using ih

/-! ### What the search finds -/

theorem isName_name : IsName name := by decide

theorem isName_repositoryMark : IsName repositoryMark := by decide

theorem findIn?_cons
    {start path : Path}
    {names : List String}
    (habove : IsAbove path start)
    (hfault : pathFault? start = none)
    (hroom : (start.text ++ "/" ++ name).utf8ByteSize < maxPath)
    (hfollow : world.follow (world.start path) path.steps = .ok names)
    (hdirectory : world.IsDirectory names)
    (rest : List Path) :
    findIn? files (path :: rest) world =
      if world.Holds names name then (some (path.child name), world)
      else if world.Holds names repositoryMark then (none, world)
      else findIn? files rest world := by
  have hmarkRoom : (start.text ++ "/" ++ repositoryMark).utf8ByteSize < maxPath := by
    have hshorter : repositoryMark.utf8ByteSize ≤ name.utf8ByteSize := by decide
    simp only [String.utf8ByteSize_append] at hroom ⊢
    omega
  have hname := exists?_child hfollow hdirectory isName_name (by decide)
    (pathFault?_child habove isName_name (by decide) hfault hroom)
  have hmark := exists?_child hfollow hdirectory isName_repositoryMark (by decide)
    (pathFault?_child habove isName_repositoryMark (by decide) hfault hmarkRoom)
  simp only [findIn?, bind, StateT.bind, hname]
  by_cases hholds : world.Holds names name
  · simp only [hholds, decide_true, if_true]
    rfl
  · simp only [hholds, decide_false, Bool.false_eq_true, if_false, StateT.bind, hmark]
    by_cases hends : world.Holds names repositoryMark
    · simp only [hends, decide_true, if_true]
      rfl
    · simp only [hends, decide_false, if_false]
      rfl

theorem map_resolve_findIn?_cons
    {start path : Path}
    {names : List String}
    (habove : IsAbove path start)
    (hfault : pathFault? start = none)
    (hroom : (start.text ++ "/" ++ name).utf8ByteSize < maxPath)
    (hfollow : world.follow (world.start path) path.steps = .ok names)
    (hdirectory : world.IsDirectory names)
    {rest : List Path}
    {more : List (List String)}
    (hrest : ¬ world.Holds names name →
      (findIn? files rest world).1.map world.resolve =
        (nearest world more).map fun holder => .ok (holder ++ [name])) :
    (findIn? files (path :: rest) world).1.map world.resolve =
      (nearest world (names :: more)).map fun holder => .ok (holder ++ [name]) := by
  rw [findIn?_cons habove hfault hroom hfollow hdirectory, nearest]
  by_cases hholds : world.Holds names name
  · have hentry : world.resolve (path.child name) = .ok (names ++ [name]) :=
      (resolve_child hfollow hdirectory isName_name (by decide)
        (pathFault?_child habove isName_name (by decide) hfault hroom)).mpr ⟨hholds, rfl⟩
    simp [hholds, hentry]
  · by_cases hends : world.Holds names repositoryMark
    · simp [hholds, hends]
    · simpa [hholds, hends] using hrest hholds

theorem start_of_parent?
    {path parent : Path}
    (hparent : path.parent? = some parent) :
    world.start parent = world.start path := by
  rw [World.start, (parent?_eq_some hparent).2.2, World.start]

theorem names_eq_lead
    {path : Path}
    {names : List String}
    (hfollow : world.follow (world.start path) path.steps = .ok names) :
    names = lead (world.start path) path.steps :=
  follow_eq_lead (fun _ hsegment => (List.mem_filter.mp hsegment).2) hfollow

theorem visited_of_steps_eq_nil
    {path : Path}
    {names : List String}
    (hfollow : world.follow (world.start path) path.steps = .ok names)
    (hsteps : path.steps = []) :
    visited world path = [names] := by
  rw [names_eq_lead hfollow, visited, hsteps]
  rfl

theorem visited_of_parent?
    {path parent : Path}
    (hparent : path.parent? = some parent)
    (hne : path.steps ≠ []) :
    visited world path = lead (world.start path) path.steps :: visited world parent := by
  have hway := reverse_inits_concat path.steps.dropLast (path.steps.getLast hne)
  rw [List.dropLast_concat_getLast hne] at hway
  rw [visited, hway, List.map_cons, visited, (parent?_eq_some hparent).1, start_of_parent? hparent]

/-- What the search finds on the way up from a path that leads to a directory. -/
theorem map_resolve_findIn?_upward
    {start path : Path}
    {names : List String}
    {fuel : Nat}
    (habove : IsAbove path start)
    (hfault : pathFault? start = none)
    (hroom : (start.text ++ "/" ++ name).utf8ByteSize < maxPath)
    (hfollow : world.follow (world.start path) path.steps = .ok names)
    (hdirectory : world.IsDirectory names)
    (hfuel : path.steps.length ≤ fuel) :
    (findIn? files (upward fuel path) world).1.map world.resolve =
      (nearest world (visited world path)).map fun holder => .ok (holder ++ [name]) := by
  induction fuel generalizing path names with
  | zero =>
      have hsteps : path.steps = [] := List.eq_nil_of_length_eq_zero (Nat.le_zero.mp hfuel)
      rw [upward, visited_of_steps_eq_nil hfollow hsteps]
      exact map_resolve_findIn?_cons habove hfault hroom hfollow hdirectory fun _ => rfl
  | succ fuel ih =>
      rw [upward]
      cases hparent : path.parent? with
      | none =>
          rw [visited_of_steps_eq_nil hfollow (steps_eq_nil_of_parent? hparent)]
          exact map_resolve_findIn?_cons habove hfault hroom hfollow hdirectory fun _ => rfl
      | some parent =>
          have hdropLast := (parent?_eq_some hparent).1
          obtain ⟨next, hnext, hnextDirectory⟩ := exists_isDirectory_of_initial hdirectory hfollow
            (hdropLast ▸ List.dropLast_prefix path.steps : parent.steps <+: path.steps)
          rw [← start_of_parent? hparent] at hnext
          have hrest := ih (habove.parent hparent) hnext hnextDirectory
            (by rw [hdropLast, List.length_dropLast]; omega)
          by_cases hsteps : path.steps = []
          · -- the text has a last point to lose, and the directory is searched once more
            have hparentSteps : parent.steps = [] := by
              rw [hdropLast, hsteps, List.dropLast_nil]
            have hsame : next = names := by
              rw [names_eq_lead hnext, names_eq_lead hfollow, hparentSteps, hsteps,
                start_of_parent? hparent]
            rw [visited_of_steps_eq_nil hnext hparentSteps, hsame] at hrest
            rw [visited_of_steps_eq_nil hfollow hsteps]
            refine map_resolve_findIn?_cons habove hfault hroom hfollow hdirectory fun hholds => ?_
            rw [hrest]
            simp [nearest, hholds]
          · rw [visited_of_parent? hparent hsteps, ← names_eq_lead hfollow]
            exact map_resolve_findIn?_cons habove hfault hroom hfollow hdirectory fun _ => hrest

/-! ### The law of the search -/

theorem length_steps_le
    (path : Path) :
    path.steps.length ≤ path.components.length := by
  have hsteps : path.steps.length = (path.beginning.2.filterMap componentOf?).length := by
    rw [steps_eq_filter_beginning, List.length_filterMap_eq_countP, List.countP_eq_length_filter]
    rfl
  rw [components, List.length_append, hsteps]
  exact Nat.le_add_left _ _

theorem map_resolve_find?
    {start : Path}
    {folder : List String}
    (hfolder : world.resolve start = .ok folder)
    (hdirectory : world.IsDirectory folder)
    (hroom : (start.text ++ "/" ++ name).utf8ByteSize < maxPath) :
    (find? files start world).1.map world.resolve =
      (nearest world (visited world start)).map fun holder => .ok (holder ++ [name]) := by
  obtain ⟨hfault, hfollow⟩ := follow_steps_of_resolve hfolder hdirectory
  exact map_resolve_findIn?_upward (IsAbove.refl start) hfault hroom hfollow hdirectory
    (length_steps_le start)

theorem finds_iff_nearest
    {start : Path}
    {folder holder : List String}
    (hfolder : world.resolve start = .ok folder)
    (hdirectory : world.IsDirectory folder)
    (hroom : (start.text ++ "/" ++ name).utf8ByteSize < maxPath) :
    Finds world start holder ↔ nearest world (visited world start) = some holder := by
  have hmap := map_resolve_find? hfolder hdirectory hroom
  have hinjective : Function.Injective fun holder : List String =>
      (.ok (holder ++ [name]) : Except FileError (List String)) := by
    intro first second heq
    exact List.append_cancel_right (Except.ok.inj heq)
  rw [Finds, ← Option.map_eq_some_iff, hmap]
  exact (Option.map_injective hinjective).eq_iff (b := some holder)

theorem nearest_inits_eq_some_iff
    {folder holder : List String} :
    nearest world folder.inits.reverse = some holder ↔ IsConfiguredBy world folder holder := by
  have hway : nearest world (folder.inits.reverse.map ([] ++ ·)) = some holder ↔
      IsConfiguredBy world ([] ++ folder) holder ∧ [] <+: holder :=
    nearest_eq_some_iff
  simpa using hway

theorem visited_of_not_mem
    {start : Path}
    (hup : ".." ∉ start.steps) :
    visited world start = start.steps.inits.reverse.map (world.start start ++ ·) := by
  refine List.map_congr_left fun initial hinitial => lead_of_not_mem fun hmem => hup ?_
  rw [List.mem_reverse, List.mem_inits] at hinitial
  exact hinitial.subset hmem

/--
The search finds the configuration of the folder exactly where the nearest on the way that it goes
is the nearest on the way to the top. On a path that nowhere leads up, it finds it unless it stands
above the directory in which the path starts.
-/
theorem find?_of_resolve
    {start : Path}
    {folder : List String}
    (hfolder : world.resolve start = .ok folder)
    (hdirectory : world.IsDirectory folder)
    (hroom : (start.text ++ "/" ++ name).utf8ByteSize < maxPath) :
    (find? files start world).1.map world.resolve =
        (nearest world (visited world start)).map (fun holder => .ok (holder ++ [name])) ∧
      ((∀ holder, Finds world start holder ↔ IsConfiguredBy world folder holder) ↔
        nearest world (visited world start) = nearest world folder.inits.reverse) ∧
      (".." ∉ start.steps → ∀ holder, Finds world start holder ↔
        IsConfiguredBy world folder holder ∧ world.start start <+: holder) := by
  refine ⟨map_resolve_find? hfolder hdirectory hroom, ?_, ?_⟩
  · simp only [finds_iff_nearest hfolder hdirectory hroom, ← nearest_inits_eq_some_iff]
    exact Option.ext_iff.symm
  · intro hup holder
    have hfollow := (follow_steps_of_resolve hfolder hdirectory).2
    rw [finds_iff_nearest hfolder hdirectory hroom, visited_of_not_mem hup, nearest_eq_some_iff,
      names_eq_lead hfollow, lead_of_not_mem hup]

/-- A repository with a configuration at its top, and one in a folder of its own. -/
def repository : World where
  top := .directory
    [("top", .directory
      [(".git", .empty),
       (name, .file (.text "{}")),
       ("App", .directory
         [("Sub", .directory [(name, .file (.text "{}"))]),
          ("Tests", .empty)])])]
  current := ["top", "App"]

theorem finds_of_absolute :
    repository.resolve ⟨"/top/App/./Tests/"⟩ = .ok ["top", "App", "Tests"] ∧
      Finds repository ⟨"/top/App/./Tests/"⟩ ["top"] := by
  have hfolder : repository.resolve ⟨"/top/App/./Tests/"⟩ = .ok ["top", "App", "Tests"] := by
    decide +kernel
  have hconfigured : IsConfiguredBy repository ["top", "App", "Tests"] ["top"] :=
    nearest_inits_eq_some_iff.mp (by decide +kernel)
  have hlaw := (find?_of_resolve hfolder ⟨[], rfl⟩ (by decide +kernel)).2.2 (by decide +kernel)
  exact ⟨hfolder, (hlaw ["top"]).mpr ⟨hconfigured, List.nil_prefix⟩⟩

/-- Behind a step that leads up, the search comes to a folder that is not above. -/
theorem finds_below_folder :
    repository.resolve ⟨"Sub/.."⟩ = .ok ["top", "App"] ∧
      IsConfiguredBy repository ["top", "App"] ["top"] ∧
      ¬ Finds repository ⟨"Sub/.."⟩ ["top"] ∧
      Finds repository ⟨"Sub/.."⟩ ["top", "App", "Sub"] := by
  have hfolder : repository.resolve ⟨"Sub/.."⟩ = .ok ["top", "App"] := by decide +kernel
  have hdirectory : repository.IsDirectory ["top", "App"] := ⟨_, rfl⟩
  have hroom : ((⟨"Sub/.."⟩ : Path).text ++ "/" ++ name).utf8ByteSize < maxPath := by
    decide +kernel
  have hfinds (holder : List String) : Finds repository ⟨"Sub/.."⟩ holder ↔ _ :=
    finds_iff_nearest hfolder hdirectory hroom
  refine ⟨hfolder, nearest_inits_eq_some_iff.mp (by decide +kernel), ?_, ?_⟩
  · rw [hfinds]
    decide +kernel
  · rw [hfinds]
    decide +kernel

end ConfigFile
end StringsAudit
