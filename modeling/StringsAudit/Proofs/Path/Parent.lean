import Mathlib.Data.List.DropRight
import StringsAudit.Proofs.Path.Segments

/-!
# Going up a path

A path is followed one step for each segment that is a name or leads up; its other segments lead
nowhere. Going up takes the last step away, and what is left is an initial part of the text.

## Main definitions

* `steps` : the segments of a path that lead somewhere.
* `IsAbove` : a path that is reached from another by going up.

## Main results

* `ofBeginning_beginning` : a path is put together again from its beginning and its other segments.
* `parent?_eq_some` : a path above has all steps but the last, and its text is an initial part.
* `steps_eq_nil_of_parent?` : only a path without steps has no path above.
* `segments_child` : the path of an entry of a folder ends with the name of the entry.
-/

namespace StringsAudit
namespace Path

/-- Whether a segment leads somewhere. -/
def isStep (segment : String) : Bool :=
  (componentOf? segment).isSome

/-- The segments of a path that lead somewhere. -/
def steps (path : Path) : List String :=
  path.segments.filter isStep

/-! ### The beginning of a path -/

/-- A path begins at the root, with a point, or with its first segment. -/
theorem beginning_cases
    (path : Path) :
    (∃ rest, path.segments = "" :: rest ∧ rest ≠ [] ∧ path.isAbsolute = true ∧
      path.beginning = (some .root, rest)) ∨
    (∃ rest, path.segments = "." :: rest ∧ path.isAbsolute = false ∧
      path.beginning = (some .here, rest)) ∨
    (path.isAbsolute = false ∧ path.beginning = (none, path.segments)) := by
  by_cases habsolute : path.isAbsolute = true
  · left
    have hhead : path.text.toList.head? = some '/' := by simpa [isAbsolute] using habsolute
    obtain ⟨tail, htext⟩ : ∃ tail, path.text = "" ++ "/" ++ tail := by
      obtain ⟨rest, heq⟩ := List.head?_eq_some_iff.mp hhead
      exact ⟨String.ofList rest, by rw [← String.toList_inj, heq]; simp⟩
    have hsegments : path.segments = "" :: segmentsOf tail := by
      rw [segments, htext, segmentsOf_append]
      rfl
    refine ⟨segmentsOf tail, hsegments, segmentsOf_ne_nil tail, habsolute, ?_⟩
    rw [beginning, hsegments]
    simp [habsolute]
  · right
    rw [Bool.not_eq_true] at habsolute
    cases hsegments : path.segments with
    | nil => exact absurd hsegments (segmentsOf_ne_nil path.text)
    | cons first rest =>
        by_cases hfirst : first = "."
        · left
          exact ⟨rest, by rw [hfirst], habsolute, by simp [beginning, hsegments, habsolute, hfirst]⟩
        · right
          exact ⟨habsolute, by simp [beginning, hsegments, habsolute, hfirst]⟩

/-- A path is put together again from its beginning and its other segments. -/
theorem ofBeginning_beginning
    (path : Path) :
    ofBeginning path.beginning.1 path.beginning.2 = path := by
  have hpath : (⟨"/".intercalate path.segments⟩ : Path) = path :=
    congrArg Path.mk (intercalate_segmentsOf path.text)
  rcases path.beginning_cases with
    ⟨rest, hsegments, hne, -, heq⟩ | ⟨rest, hsegments, -, heq⟩ | ⟨-, heq⟩
  · rw [heq]
    refine Eq.trans ?_ hpath
    rw [hsegments]
    cases rest with
    | nil => exact absurd rfl hne
    | cons next rest => simp [ofBeginning, String.intercalate_cons_cons]
  · rw [heq]
    refine Eq.trans ?_ hpath
    rw [hsegments]
    cases rest with
    | nil => rfl
    | cons next rest => simp [ofBeginning, String.intercalate_cons_cons]
  · rw [heq]
    exact hpath

theorem steps_eq_filter_beginning
    (path : Path) :
    path.steps = path.beginning.2.filter isStep := by
  have hempty : isStep "" = false := by decide
  have hpoint : isStep "." = false := by decide
  rcases path.beginning_cases with
    ⟨rest, hsegments, -, -, heq⟩ | ⟨rest, hsegments, -, heq⟩ | ⟨-, heq⟩
  · rw [steps, hsegments, heq, List.filter_cons_of_neg (by simp [hempty])]
  · rw [steps, hsegments, heq, List.filter_cons_of_neg (by simp [hpoint])]
  · rw [steps, heq]

theorem separator_not_mem_beginning
    (path : Path) :
    ∀ segment ∈ path.beginning.2, '/' ∉ segment.toList := by
  intro segment hsegment
  have hmem : segment ∈ path.segments → '/' ∉ segment.toList := separator_not_mem_of_mem_segmentsOf
  apply hmem
  rcases path.beginning_cases with
    ⟨rest, hsegments, -, -, heq⟩ | ⟨rest, hsegments, -, heq⟩ | ⟨-, heq⟩
  · rw [heq] at hsegment
    exact hsegments ▸ List.mem_cons_of_mem "" hsegment
  · rw [heq] at hsegment
    exact hsegments ▸ List.mem_cons_of_mem "." hsegment
  · rwa [heq] at hsegment

theorem filter_isStep_segmentsOf_intercalate
    {segments : List String}
    (hseparator : ∀ segment ∈ segments, '/' ∉ segment.toList) :
    (segmentsOf ("/".intercalate segments)).filter isStep = segments.filter isStep := by
  cases segments with
  | nil => decide
  | cons first rest => rw [segmentsOf_intercalate hseparator (List.cons_ne_nil first rest)]

theorem steps_ofBeginning
    (start : Option Component)
    {rest : List String}
    (hseparator : ∀ segment ∈ rest, '/' ∉ segment.toList) :
    (ofBeginning start rest).steps = rest.filter isStep := by
  have hbody := filter_isStep_segmentsOf_intercalate hseparator
  have hbehind (first : String) (hfirst : '/' ∉ first.toList) (hstep : isStep first = false) :
      (segmentsOf (first ++ "/" ++ "/".intercalate rest)).filter isStep = rest.filter isStep := by
    rw [segmentsOf_append, segmentsOf_of_not_mem hfirst, List.singleton_append,
      List.filter_cons_of_neg (by simp [hstep]), hbody]
  match start with
  | some .root => exact hbehind "" (by decide) (by decide)
  | some .here =>
      cases rest with
      | nil => decide
      | cons first rest => exact hbehind "." (by decide) (by decide)
  | none => exact hbody
  | some .up => exact hbody
  | some (.name text) => exact hbody

theorem exists_intercalate_append
    (first second : List String) :
    ∃ tail, "/".intercalate (first ++ second) = "/".intercalate first ++ tail := by
  induction first with
  | nil => exact ⟨"/".intercalate second, by simp⟩
  | cons segment first ih =>
      cases first with
      | nil =>
          cases second with
          | nil => exact ⟨"", by simp⟩
          | cons next second =>
              exact ⟨"/" ++ "/".intercalate (next :: second), by
                simp [String.intercalate_cons_cons, String.append_assoc]⟩
      | cons other first =>
          obtain ⟨tail, heq⟩ := ih
          refine ⟨tail, ?_⟩
          rw [List.cons_append, List.cons_append, String.intercalate_cons_cons, ← List.cons_append,
            heq, String.intercalate_cons_cons]
          simp only [String.append_assoc]

/-- Fewer segments behind one beginning make an initial part of the text. -/
theorem exists_ofBeginning_append
    (start : Option Component)
    (first second : List String) :
    ∃ tail,
      (ofBeginning start (first ++ second)).text = (ofBeginning start first).text ++ tail := by
  obtain ⟨tail, heq⟩ := exists_intercalate_append first second
  have hbehind (before : String) :
      ∃ tail, before ++ "/".intercalate (first ++ second) =
        before ++ "/".intercalate first ++ tail :=
    ⟨tail, by rw [heq, String.append_assoc]⟩
  match start with
  | some .root => exact hbehind "/"
  | some .here =>
      cases first with
      | nil =>
          cases second with
          | nil => exact ⟨"", by simp⟩
          | cons next second =>
              exact ⟨"/" ++ "/".intercalate (next :: second), by
                simp [ofBeginning, ← String.append_assoc]⟩
      | cons other first => exact hbehind "./"
  | none => exact ⟨tail, heq⟩
  | some .up => exact ⟨tail, heq⟩
  | some (.name text) => exact ⟨tail, heq⟩

/-! ### The path above -/

theorem dropTrailing_eq_rdropWhile
    (segments : List String) :
    dropTrailing segments = segments.rdropWhile fun segment => (componentOf? segment).isNone := by
  rfl

theorem filter_dropTrailing
    (segments : List String) :
    (dropTrailing segments).filter isStep = segments.filter isStep := by
  rw [dropTrailing_eq_rdropWhile]
  induction segments using List.reverseRecOn with
  | nil => rfl
  | append_singleton segments last ih =>
      rw [List.rdropWhile_concat]
      split
      next hnone =>
        rw [ih, List.filter_append]
        simpa [isStep] using hnone
      next => rfl

theorem dropTrailing_eq_nil_iff
    {segments : List String} :
    dropTrailing segments = [] ↔ segments.filter isStep = [] := by
  rw [dropTrailing_eq_rdropWhile, List.rdropWhile_eq_nil_iff, List.filter_eq_nil_iff]
  simp [isStep]

theorem filter_dropLast_dropTrailing
    {segments : List String}
    (hne : dropTrailing segments ≠ []) :
    (dropTrailing segments).dropLast.filter isStep = (segments.filter isStep).dropLast := by
  have hlast : isStep ((dropTrailing segments).getLast hne) = true := by
    have hsome :=
      List.rdropWhile_last_not (fun segment => (componentOf? segment).isNone) segments hne
    have hne' : componentOf? ((dropTrailing segments).getLast hne) ≠ none := fun heq =>
      hsome (Option.isNone_iff_eq_none.mpr heq)
    exact Option.isSome_iff_ne_none.mpr hne'
  rw [← filter_dropTrailing segments]
  conv_rhs => rw [← List.dropLast_concat_getLast hne]
  rw [List.filter_append, List.filter_cons_of_pos hlast, List.filter_nil, List.dropLast_concat]

theorem dropTrailing_dropLast_initial
    (segments : List String) :
    dropTrailing (dropTrailing segments).dropLast <+: segments := by
  have hfirst : dropTrailing segments <+: segments := List.rdropWhile_prefix _ segments
  have hsecond :
      dropTrailing (dropTrailing segments).dropLast <+: (dropTrailing segments).dropLast :=
    List.rdropWhile_prefix _ _
  exact hsecond.trans ((List.dropLast_prefix _).trans hfirst)

theorem isAbsolute_eq_false_of_append
    {first tail : String}
    (h : (Path.mk (first ++ tail)).isAbsolute = false) :
    (Path.mk first).isAbsolute = false := by
  rw [isAbsolute, String.toList_append, List.head?_append] at h
  rw [isAbsolute]
  cases hhead : first.toList.head? with
  | none => rfl
  | some c => simpa [hhead] using h

/-- A path above has all steps but the last, and its text is an initial part. -/
theorem parent?_eq_some
    {path parent : Path}
    (h : path.parent? = some parent) :
    parent.steps = path.steps.dropLast ∧
      (∃ tail, path.text = parent.text ++ tail) ∧
      parent.isAbsolute = path.isAbsolute := by
  simp only [parent?] at h
  cases htrailing : dropTrailing path.beginning.2 with
  | nil =>
      have hsteps : path.steps = [] := by
        rw [steps_eq_filter_beginning, ← dropTrailing_eq_nil_iff, htrailing]
      rw [htrailing] at h
      dsimp only at h
      split at h
      next hhere =>
        rw [← Option.some.inj h, hsteps]
        refine ⟨by decide, ⟨path.text, by simp⟩, ?_⟩
        rcases path.beginning_cases with ⟨rest, -, -, -, heq⟩ | ⟨rest, -, hfalse, -⟩ | ⟨hfalse, -⟩
        · simp [heq] at hhere
        · exact hfalse.symm
        · exact hfalse.symm
      next => exact absurd h (by simp)
  | cons first more =>
      have hne : dropTrailing path.beginning.2 ≠ [] := by simp [htrailing]
      rw [htrailing] at h
      dsimp only at h
      rw [Option.some.injEq, ← htrailing] at h
      obtain ⟨rest, hrest⟩ := dropTrailing_dropLast_initial path.beginning.2
      obtain ⟨tail, htail⟩ := exists_ofBeginning_append path.beginning.1
        (dropTrailing (dropTrailing path.beginning.2).dropLast) rest
      rw [hrest, ofBeginning_beginning, h] at htail
      refine ⟨?_, ⟨tail, htail⟩, ?_⟩
      · rw [← h, steps_ofBeginning, filter_dropTrailing, filter_dropLast_dropTrailing hne,
          steps_eq_filter_beginning]
        intro segment hsegment
        exact separator_not_mem_beginning path segment (hrest ▸ List.mem_append_left rest hsegment)
      · rcases path.beginning_cases with
          ⟨rest, -, -, htrue, heq⟩ | ⟨rest, -, hfalse, -⟩ | ⟨hfalse, -⟩
        · rw [htrue, ← h, heq]
          simp [ofBeginning, isAbsolute]
        · have happend : (Path.mk (parent.text ++ tail)).isAbsolute = false := htail ▸ hfalse
          rw [hfalse, isAbsolute_eq_false_of_append happend]
        · have happend : (Path.mk (parent.text ++ tail)).isAbsolute = false := htail ▸ hfalse
          rw [hfalse, isAbsolute_eq_false_of_append happend]

/-- Only a path without steps has no path above. -/
theorem steps_eq_nil_of_parent?
    {path : Path}
    (h : path.parent? = none) :
    path.steps = [] := by
  rw [steps_eq_filter_beginning, ← dropTrailing_eq_nil_iff]
  simp only [parent?] at h
  cases htrailing : dropTrailing path.beginning.2 with
  | nil => rfl
  | cons first more => simp [htrailing] at h

/-- A path that is reached from another by going up. -/
structure IsAbove (upper lower : Path) : Prop where
  steps_initial : upper.steps <+: lower.steps
  text_initial : ∃ tail, lower.text = upper.text ++ tail
  isAbsolute_eq : upper.isAbsolute = lower.isAbsolute

theorem IsAbove.refl
    (path : Path) :
    IsAbove path path :=
  ⟨List.prefix_rfl, ⟨"", String.append_empty.symm⟩, rfl⟩

theorem IsAbove.parent
    {upper lower parent : Path}
    (h : IsAbove upper lower)
    (hparent : upper.parent? = some parent) :
    IsAbove parent lower := by
  obtain ⟨hsteps, ⟨more, hmore⟩, habsolute⟩ := parent?_eq_some hparent
  obtain ⟨tail, htail⟩ := h.text_initial
  refine ⟨?_, ⟨more ++ tail, ?_⟩, habsolute.trans h.isAbsolute_eq⟩
  · rw [hsteps]
    exact (List.dropLast_prefix upper.steps).trans h.steps_initial
  · rw [htail, hmore, String.append_assoc]

/-! ### The entries of a folder -/

theorem IsName.isAbsolute_eq_false
    {name : String}
    (h : IsName name) :
    (Path.mk name).isAbsolute = false := by
  rw [isAbsolute, beq_eq_false_iff_ne]
  intro hhead
  exact h.no_separator (List.mem_of_mem_head? hhead)

/-- The name of an entry is written behind the folder, with a separator where one is needed. -/
theorem child_text_cases
    {name : String}
    (path : Path)
    (hname : IsName name) :
    ((path.child name).text = path.text ++ name ∧
      (path.text = "" ∨ ∃ folder, path.text = folder ++ "/")) ∨
    ((path.child name).text = path.text ++ "/" ++ name ∧ path.text ≠ "") := by
  rw [child, join, if_neg (by simp [hname.isAbsolute_eq_false])]
  by_cases hopen : path.endsOpen = true
  · left
    rw [if_pos hopen]
    refine ⟨rfl, ?_⟩
    cases hlast : path.text.toList.getLast? with
    | none => exact .inl (by simpa using hlast)
    | some c =>
        right
        have hc : c = '/' := by simpa [endsOpen, hlast] using hopen
        obtain ⟨folder, heq⟩ := List.getLast?_eq_some_iff.mp hlast
        exact ⟨String.ofList folder, by rw [← String.toList_inj, heq, hc]; simp⟩
  · right
    rw [if_neg hopen]
    refine ⟨rfl, fun hempty => hopen ?_⟩
    simp [endsOpen, hempty]

/-- The path of an entry of a folder ends with the name of the entry. -/
theorem segments_child
    {name : String}
    (path : Path)
    (hname : IsName name) :
    ∃ init, (path.child name).segments = init ++ [name] ∧ init.filter isStep = path.steps := by
  have hsegment := segmentsOf_of_not_mem hname.no_separator
  have hempty : [""].filter isStep = [] := by decide
  rw [steps, segments, segments]
  rcases child_text_cases path hname with ⟨htext, hpath | ⟨folder, hpath⟩⟩ | ⟨htext, -⟩
  · refine ⟨[], ?_, ?_⟩
    · rw [htext, hpath, String.empty_append, hsegment, List.nil_append]
    · rw [hpath, segmentsOf_of_not_mem (by decide), hempty, List.filter_nil]
  · refine ⟨segmentsOf folder, ?_, ?_⟩
    · rw [htext, hpath, segmentsOf_append, hsegment]
    · have hsplit := segmentsOf_append folder ""
      have hnothing : segmentsOf "" = [""] := segmentsOf_of_not_mem (by decide)
      rw [String.append_empty, hnothing] at hsplit
      rw [hpath, hsplit, List.filter_append, hempty, List.append_nil]
  · exact ⟨segmentsOf path.text, by rw [htext, segmentsOf_append, hsegment], rfl⟩

theorem isAbsolute_append
    {first : String}
    (second : String)
    (hne : first ≠ "") :
    (Path.mk (first ++ second)).isAbsolute = (Path.mk first).isAbsolute := by
  rw [isAbsolute, String.toList_append, isAbsolute]
  cases hfirst : first.toList with
  | nil => exact absurd (by simpa using hfirst) hne
  | cons c rest => rfl

theorem isAbsolute_child
    {name : String}
    (path : Path)
    (hname : IsName name) :
    (path.child name).isAbsolute = path.isAbsolute := by
  have heta (other : Path) : other.isAbsolute = (Path.mk other.text).isAbsolute := rfl
  rw [heta, heta path]
  rcases child_text_cases path hname with ⟨htext, hpath | ⟨folder, hpath⟩⟩ | ⟨htext, hne⟩
  · rw [htext, hpath, String.empty_append, hname.isAbsolute_eq_false]
    rfl
  · rw [htext, isAbsolute_append]
    rw [hpath]
    exact fun hempty => by simpa using congrArg String.toList hempty
  · rw [htext, String.append_assoc, isAbsolute_append _ hne]

end Path
end StringsAudit
