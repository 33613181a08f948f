import StringsAudit.Proofs.Path.Parent
import StringsAudit.World

/-!
# Where paths lead in a tree

Segments that are no steps leave a directory where it is, so what a path means depends on its steps
and on where it starts. Steps that lead to a directory lead from directory to directory, and where
they lead is told without looking at the tree.

## Main definitions

* `IsDirectory` : names that lead to a directory.
* `lead` : where steps lead, as far as names are concerned.
* `Holds` : a directory with an entry of some name.

## Main results

* `step_eq_ok_iff` : where a segment leads from a directory.
* `follow_filter_iff` : only steps count on the way to a directory.
* `follow_eq_lead` : steps lead where their names say.
* `exists?_child` : what is found at the path of an entry of a directory.
-/

namespace StringsAudit
namespace World

open StringsAudit.Path

/-- Names that lead to a directory. -/
def IsDirectory (world : World) (names : List String) : Prop :=
  ∃ entries, world.find? names = some (.directory entries)

/-- Where steps lead, as far as names are concerned. -/
def lead (names : List String) (steps : List String) : List String :=
  steps.foldl (fun names step => if step = ".." then names.dropLast else names ++ [step]) names

/-- A directory with an entry of some name. -/
def Holds (world : World) (names : List String) (name : String) : Prop :=
  (world.find? (names ++ [name])).isSome = true

instance (world : World) (names : List String) (name : String) :
    Decidable (world.Holds names name) :=
  inferInstanceAs (Decidable (_ = true))

variable {world : World} {names target : List String}

/-- From a directory, a segment stays there, leads up or leads to an entry. -/
theorem step_eq_ok_iff
    {segment : String} :
    world.step names segment = .ok target ↔
      world.IsDirectory names ∧
        if segment = "" ∨ segment = "." then target = names
        else if segment = ".." then target = names.dropLast
        else segment.utf8ByteSize ≤ maxName ∧ world.Holds names segment ∧
          target = names ++ [segment] := by
  rw [step, IsDirectory]
  cases world.find? names with
  | none => simp
  | some node =>
      cases node with
      | file content => simp
      | directory entries =>
          simp only [Option.some.injEq, Node.directory.injEq, exists_eq', true_and,
            Bool.or_eq_true, beq_iff_eq]
          split
          next => rw [Except.ok.injEq, eq_comm]
          next =>
            split
            next => rw [Except.ok.injEq, eq_comm]
            next =>
              split
              next hlong => exact iff_of_false nofun fun h => Nat.not_le.mpr hlong h.1
              next hsize =>
                have hsize := Nat.not_lt.mp hsize
                rw [Holds]
                split
                next hholds => simp [hsize, hholds, eq_comm]
                next hholds => simp [hholds]

theorem isDirectory_of_step
    {segment : String}
    (h : world.step names segment = .ok target) :
    world.IsDirectory names :=
  (step_eq_ok_iff.mp h).1

theorem isStep_eq_true_iff
    {segment : String} :
    isStep segment = true ↔ ¬ (segment = "" ∨ segment = ".") := by
  rw [isStep, componentOf?]
  by_cases hnone : segment = "" ∨ segment = "."
  · simp [hnone]
  · have hfalse : ¬ (segment == "" || segment == ".") = true := by simpa using hnone
    rw [if_neg hfalse]
    split <;> simpa using hnone

theorem step_of_not_isStep
    {segment : String}
    (hdirectory : world.IsDirectory names)
    (hstep : isStep segment = false) :
    world.step names segment = .ok names := by
  have hnone : segment = "" ∨ segment = "." :=
    of_not_not (mt isStep_eq_true_iff.mpr (Bool.eq_false_iff.mp hstep))
  rw [step_eq_ok_iff, if_pos hnone]
  exact ⟨hdirectory, rfl⟩

theorem step_eq_ok
    {segment : String}
    (hstep : isStep segment = true)
    (h : world.step names segment = .ok target) :
    target = if segment = ".." then names.dropLast else names ++ [segment] := by
  rw [step_eq_ok_iff, if_neg (isStep_eq_true_iff.mp hstep)] at h
  obtain ⟨-, hleads⟩ := h
  split at hleads
  next hup => rw [if_pos hup, hleads]
  next hup => rw [if_neg hup, hleads.2.2]

theorem follow_append_eq_ok_iff
    {first second : List String} :
    world.follow names (first ++ second) = .ok target ↔
      ∃ next, world.follow names first = .ok next ∧ world.follow next second = .ok target := by
  have hsplit : world.follow names (first ++ second) =
      (world.follow names first).bind fun next => world.follow next second :=
    List.foldlM_append
  rw [hsplit]
  cases world.follow names first <;> simp [Except.bind]

theorem follow_singleton
    (segment : String) :
    world.follow names [segment] = world.step names segment := by
  cases hstep : world.step names segment <;>
    simp [follow, hstep, bind, Except.bind, pure, Except.pure]

theorem follow_cons_eq_ok_iff
    {segment : String}
    {rest : List String} :
    world.follow names (segment :: rest) = .ok target ↔
      ∃ next, world.step names segment = .ok next ∧ world.follow next rest = .ok target := by
  rw [← List.singleton_append, follow_append_eq_ok_iff, follow_singleton]

/-- Only steps count on the way to a directory. -/
theorem follow_filter_iff
    {segments : List String}
    (htarget : world.IsDirectory target) :
    world.follow names (segments.filter isStep) = .ok target ↔
      world.follow names segments = .ok target := by
  induction segments generalizing names with
  | nil => rfl
  | cons segment rest ih =>
      by_cases hstep : isStep segment = true
      · rw [List.filter_cons_of_pos hstep, follow_cons_eq_ok_iff, follow_cons_eq_ok_iff]
        simp only [ih]
      · rw [List.filter_cons_of_neg hstep, ih, follow_cons_eq_ok_iff]
        rw [Bool.not_eq_true] at hstep
        constructor
        · intro h
          -- a segment that is no step still asks for a directory, which the next step shows
          refine ⟨names, step_of_not_isStep ?_ hstep, h⟩
          cases rest with
          | nil => exact Except.ok.inj h ▸ htarget
          | cons next rest =>
              obtain ⟨_, hnext, -⟩ := follow_cons_eq_ok_iff.mp h
              exact isDirectory_of_step hnext
        · rintro ⟨next, hnext, h⟩
          rw [step_of_not_isStep (isDirectory_of_step hnext) hstep, Except.ok.injEq] at hnext
          exact hnext ▸ h

theorem exists_isDirectory_of_initial
    {first steps : List String}
    (htarget : world.IsDirectory target)
    (h : world.follow names steps = .ok target)
    (hinitial : first <+: steps) :
    ∃ next, world.follow names first = .ok next ∧ world.IsDirectory next := by
  obtain ⟨rest, rfl⟩ := hinitial
  obtain ⟨next, hfirst, hrest⟩ := follow_append_eq_ok_iff.mp h
  refine ⟨next, hfirst, ?_⟩
  cases rest with
  | nil => exact Except.ok.inj hrest ▸ htarget
  | cons segment rest =>
      obtain ⟨_, hstep, -⟩ := follow_cons_eq_ok_iff.mp hrest
      exact isDirectory_of_step hstep

/-- Steps lead where their names say. -/
theorem follow_eq_lead
    {steps : List String}
    (hsteps : ∀ segment ∈ steps, isStep segment = true)
    (h : world.follow names steps = .ok target) :
    target = lead names steps := by
  induction steps generalizing names with
  | nil => exact (Except.ok.inj h).symm
  | cons segment rest ih =>
      obtain ⟨next, hstep, hrest⟩ := follow_cons_eq_ok_iff.mp h
      have hnext := step_eq_ok (hsteps segment List.mem_cons_self) hstep
      rw [ih (fun other hother => hsteps other (List.mem_cons_of_mem segment hother)) hrest, hnext,
        lead, lead, List.foldl_cons]

/-- Without a step that leads up, steps lead down by their names. -/
theorem lead_of_not_mem
    {steps : List String}
    (h : ".." ∉ steps) :
    lead names steps = names ++ steps := by
  induction steps generalizing names with
  | nil => exact (List.append_nil names).symm
  | cons segment rest ih =>
      rw [List.mem_cons, not_or] at h
      rw [lead, List.foldl_cons, if_neg (Ne.symm h.1), ← lead, ih h.2, List.append_assoc,
        List.singleton_append]

theorem resolve_eq_ok_iff
    {path : Path} :
    world.resolve path = .ok target ↔
      pathFault? path = none ∧ world.follow (world.start path) path.segments = .ok target := by
  rw [resolve]
  cases hfault : pathFault? path <;> simp

theorem follow_steps_of_resolve
    {path : Path}
    (hresolve : world.resolve path = .ok names)
    (hdirectory : world.IsDirectory names) :
    pathFault? path = none ∧ world.follow (world.start path) path.steps = .ok names := by
  obtain ⟨hfault, hfollow⟩ := resolve_eq_ok_iff.mp hresolve
  exact ⟨hfault, (follow_filter_iff hdirectory).mpr hfollow⟩

theorem lookup_eq_ok_iff
    {path : Path}
    {node : Node} :
    world.lookup path = .ok node ↔
      ∃ found, world.resolve path = .ok found ∧ world.find? found = some node := by
  rw [lookup]
  cases world.resolve path with
  | error error => simp [bind, Except.bind]
  | ok found =>
      simp only [bind, Except.bind, Except.ok.injEq, exists_eq_left']
      cases world.find? found <;> simp [pure, Except.pure, throw, throwThe, MonadExceptOf.throw]

/-- Among the entries of a directory, a name leads to the entry that it names. -/
theorem step_name_eq_ok_iff
    {name : String}
    (hdirectory : world.IsDirectory names)
    (hname : IsName name)
    (hsize : name.utf8ByteSize ≤ maxName) :
    world.step names name = .ok target ↔ world.Holds names name ∧ target = names ++ [name] := by
  have hstep : isStep name = true := by
    rw [isStep, hname.component]
    rfl
  have hup : name ≠ ".." := by
    rintro rfl
    exact absurd hname (by decide)
  rw [step_eq_ok_iff, if_neg (isStep_eq_true_iff.mp hstep), if_neg hup]
  exact ⟨fun h => h.2.2, fun h => ⟨hdirectory, hsize, h⟩⟩

/-- The path of an entry of a folder above is no longer than that of one of the folder itself. -/
theorem pathFault?_child
    {path start : Path}
    {name : String}
    (habove : IsAbove path start)
    (hname : IsName name)
    (hnull : '\x00' ∉ name.toList)
    (hstart : pathFault? start = none)
    (hroom : (start.text ++ "/" ++ name).utf8ByteSize < maxPath) :
    pathFault? (path.child name) = none := by
  obtain ⟨tail, htail⟩ := habove.text_initial
  have hclean : '\x00' ∉ path.text.toList := by
    intro hmem
    rw [pathFault?, if_pos] at hstart
    · cases hstart
    · rw [List.contains_iff_mem, htail, String.toList_append]
      exact List.mem_append_left tail.toList hmem
  have hbehind (before : String) (hbefore : '\x00' ∉ before.toList)
      (hsize : (before ++ name).utf8ByteSize < maxPath) :
      pathFault? ⟨before ++ name⟩ = none := by
    have hne : before ++ name ≠ "" := fun hempty => hname.ne_empty (by
      rw [String.append_eq_empty_iff] at hempty
      exact hempty.2)
    rw [pathFault?, if_neg, if_neg (by simpa using hne), if_neg (Nat.not_le.mpr hsize)]
    rw [List.contains_iff_mem, String.toList_append, List.mem_append, not_or]
    exact ⟨hbefore, hnull⟩
  rw [htail] at hroom
  simp only [String.utf8ByteSize_append] at hroom hbehind
  rcases child_text_cases path hname with ⟨htext, -⟩ | ⟨htext, -⟩
  · rw [show path.child name = ⟨path.text ++ name⟩ from congrArg Path.mk htext]
    exact hbehind path.text hclean (by omega)
  · rw [show path.child name = ⟨path.text ++ "/" ++ name⟩ from congrArg Path.mk htext]
    refine hbehind (path.text ++ "/") ?_ (by rw [String.utf8ByteSize_append]; omega)
    rw [String.toList_append, List.mem_append, not_or]
    exact ⟨hclean, by decide⟩

theorem resolve_child
    {path : Path}
    {name : String}
    (hfollow : world.follow (world.start path) path.steps = .ok names)
    (hdirectory : world.IsDirectory names)
    (hname : IsName name)
    (hsize : name.utf8ByteSize ≤ maxName)
    (hfault : pathFault? (path.child name) = none) :
    world.resolve (path.child name) = .ok target ↔
      world.Holds names name ∧ target = names ++ [name] := by
  obtain ⟨init, hsegments, hinit⟩ := segments_child path hname
  have hstart : world.start (path.child name) = world.start path := by
    rw [start, isAbsolute_child path hname, start]
  have hreach : world.follow (world.start path) init = .ok names := by
    rw [← follow_filter_iff hdirectory, hinit]
    exact hfollow
  have hresolve : world.resolve (path.child name) =
      world.follow (world.start path) (init ++ [name]) := by
    rw [resolve, hfault, hstart, hsegments]
  rw [hresolve, follow_append_eq_ok_iff, hreach]
  simp only [Except.ok.injEq, exists_eq_left', follow_singleton]
  exact step_name_eq_ok_iff hdirectory hname hsize

/-- A name stands in a directory if something is found at its path. -/
theorem exists?_child
    {path : Path}
    {name : String}
    (hfollow : world.follow (world.start path) path.steps = .ok names)
    (hdirectory : world.IsDirectory names)
    (hname : IsName name)
    (hsize : name.utf8ByteSize ≤ maxName)
    (hfault : pathFault? (path.child name) = none) :
    files.exists? (path.child name) world = (decide (world.Holds names name), world) := by
  have hresolve (target : List String) : world.resolve (path.child name) = .ok target ↔ _ :=
    resolve_child hfollow hdirectory hname hsize hfault
  have hlookup : (world.lookup (path.child name)).toOption.isSome =
      decide (world.Holds names name) := by
    rw [lookup]
    by_cases hholds : world.Holds names name
    · obtain ⟨node, hnode⟩ := Option.isSome_iff_exists.mp hholds
      rw [(hresolve _).mpr ⟨hholds, rfl⟩]
      simp [bind, Except.bind, hnode, pure, Except.pure, Except.toOption, hholds]
    · cases hfound : world.resolve (path.child name) with
      | ok found => exact absurd ((hresolve found).mp hfound).1 hholds
      | error error => simp [bind, Except.bind, Except.toOption, hholds]
  have hexists : files.exists? (path.child name) world =
      ((world.lookup (path.child name)).toOption.isSome, world) := by
    simp only [Files.exists?, files, bind, StateT.bind]
    cases world.lookup (path.child name) <;> rfl
  rw [hexists, hlookup]

end World
end StringsAudit
