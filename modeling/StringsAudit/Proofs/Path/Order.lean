import StringsAudit.Proofs.Path.Parent
import StringsAudit.Proofs.Text.ByteOrder
import StringsAudit.Scan

/-!
# The order of paths

Paths are compared component by component, so a folder and what is below it come before a file whose
name continues that of the folder, although a separator is greater than a point. Below one folder,
the order of paths is that of the names that lead to them.

## Main definitions

* `Path.Component.cmp` : the order of components.
* `Path.cmp` : the order of paths.

## Main results

* `Path.components_child` : an entry of a folder has one component more than the folder.
* `Path.names_intercalate` : the names that a path is joined from.
* `ProjectFile.cmp_ofNames` : below one folder, paths are ordered by their names.
-/

namespace StringsAudit
namespace Path

/-! ### Components -/

/-- The components that the segments of a path stand for. -/
def componentsOf (absolute : Bool) : List String → List Component
  | [] => []
  | first :: rest =>
      (if absolute then [.root]
        else if first == "." then [.here]
        else (componentOf? first).toList) ++ rest.filterMap componentOf?

theorem components_eq_componentsOf
    (path : Path) :
    path.components = componentsOf path.isAbsolute path.segments := by
  simp only [components, beginning]
  cases path.segments with
  | nil => rfl
  | cons first rest =>
      rw [componentsOf]
      by_cases habsolute : path.isAbsolute = true
      · simp only [habsolute, if_true]
        rfl
      · by_cases hpoint : (first == ".") = true
        · simp only [habsolute, hpoint, if_true]
          rfl
        · simp only [habsolute, hpoint]
          cases hfirst : componentOf? first <;> simp [hfirst]

theorem componentsOf_concat
    (absolute : Bool)
    {segments : List String}
    (last : String)
    (hne : segments ≠ []) :
    componentsOf absolute (segments ++ [last]) =
      componentsOf absolute segments ++ (componentOf? last).toList := by
  cases segments with
  | nil => exact absurd rfl hne
  | cons first rest =>
      rw [List.cons_append, componentsOf, componentsOf, List.filterMap_append, List.append_assoc]
      cases hlast : componentOf? last <;> simp [hlast]

/-- An entry of a folder has its name as one component more. -/
theorem components_child
    {name : String}
    (path : Path)
    (hname : IsName name) :
    (path.child name).components = path.components ++ [.name name] := by
  have hsegment := segmentsOf_of_not_mem hname.no_separator
  have hlast : (componentOf? name).toList = [.name name] := by rw [hname.component]; rfl
  rw [components_eq_componentsOf, components_eq_componentsOf, isAbsolute_child path hname,
    segments, segments]
  rcases child_text_cases path hname with ⟨htext, hpath | ⟨folder, hpath⟩⟩ | ⟨htext, -⟩
  · have hrelative : path.isAbsolute = false := by rw [isAbsolute, hpath]; rfl
    have hpoint : (name == ".") = false := by
      rw [beq_eq_false_iff_ne]
      rintro rfl
      exact absurd hname (by decide)
    have hnothing : componentsOf false (segmentsOf "") = [] := by decide
    rw [htext, hpath, String.empty_append, hsegment, hrelative, hnothing, componentsOf, hpoint]
    simp [hlast]
  · have hnothing : segmentsOf "" = [""] := segmentsOf_of_not_mem (by decide)
    have hsplit := segmentsOf_append folder ""
    rw [String.append_empty, hnothing] at hsplit
    rw [htext, hpath, segmentsOf_append, hsegment, hsplit,
      componentsOf_concat _ name (segmentsOf_ne_nil folder),
      componentsOf_concat _ "" (segmentsOf_ne_nil folder), hlast, List.append_assoc]
    rfl
  · rw [htext, segmentsOf_append, hsegment, componentsOf_concat _ name (segmentsOf_ne_nil _), hlast]

theorem components_foldl_child
    {names : List String}
    (path : Path)
    (hnames : ∀ name ∈ names, IsName name) :
    (names.foldl Path.child path).components = path.components ++ names.map .name := by
  induction names generalizing path with
  | nil => exact (List.append_nil _).symm
  | cons name rest ih =>
      rw [List.forall_mem_cons] at hnames
      rw [List.foldl_cons, ih _ hnames.2, components_child path hnames.1, List.append_assoc]
      rfl

theorem filterMap_componentOf?
    {segments : List String}
    (h : ∀ segment ∈ segments, IsName segment) :
    segments.filterMap componentOf? = segments.map .name := by
  rw [← List.filterMap_eq_map]
  exact List.filterMap_congr fun segment hsegment => (h segment hsegment).component

/-- Names that are joined are the names of the path. -/
theorem names_intercalate
    {segments : List String}
    (h : ∀ segment ∈ segments, IsName segment) :
    (Path.mk ("/".intercalate segments)).names = segments := by
  cases segments with
  | nil => decide
  | cons first rest =>
      have hsegments : (Path.mk ("/".intercalate (first :: rest))).segments = first :: rest :=
        segmentsOf_intercalate (fun segment hsegment => (h segment hsegment).no_separator)
          (List.cons_ne_nil first rest)
      have hfirst := (List.forall_mem_cons.mp h).1
      have hcomponents : (Path.mk ("/".intercalate (first :: rest))).components =
          (first :: rest).map .name := by
        rw [components]
        rcases beginning_cases ⟨"/".intercalate (first :: rest)⟩ with
          ⟨other, hroot, -⟩ | ⟨other, hhere, -⟩ | ⟨-, heq⟩
        · exact absurd (List.cons.inj (hsegments.symm.trans hroot)).1 hfirst.ne_empty
        · rw [(List.cons.inj (hsegments.symm.trans hhere)).1] at hfirst
          exact absurd hfirst (by decide)
        · rw [heq, hsegments]
          exact filterMap_componentOf? h
      rw [names, hcomponents, List.filterMap_map]
      exact List.filterMap_some

/-! ### The order of paths -/

namespace Component

/-- Where the kinds of components stand in their order. -/
def rank : Component → Nat
  | root => 0
  | here => 1
  | up => 2
  | name _ => 3

/-- Components are ordered by their kind, and names by their bytes. -/
def cmp : Component → Component → Ordering
  | name first, name second => List.compareLex compare (Text.utf8 first) (Text.utf8 second)
  | first, second => compare first.rank second.rank

instance : Std.ReflCmp cmp where
  compare_self {component} := by
    cases component with
    | name text =>
        have hself : compare (Text.utf8 text) (Text.utf8 text) = .eq := Std.ReflCmp.compare_self
        exact hself
    | _ => rfl

theorem cmp_name
    (first second : String) :
    cmp (.name first) (.name second) = compare first second :=
  Text.compareLex_utf8 first second

end Component

/-- Paths are ordered component by component, and a path comes before what is below it. -/
def cmp (first second : Path) : Ordering :=
  List.compareLex Component.cmp first.components second.components

theorem compareLex_map
    {α β : Type}
    {cmp : β → β → Ordering}
    (f : α → β)
    (first second : List α) :
    List.compareLex cmp (first.map f) (second.map f) =
      List.compareLex (fun a b => cmp (f a) (f b)) first second := by
  induction first generalizing second with
  | nil => cases second <;> rfl
  | cons head rest ih =>
      cases second with
      | nil => rfl
      | cons other others =>
          rw [List.map_cons, List.map_cons, List.compareLex_cons_cons, ih,
            List.compareLex_cons_cons]

end Path

namespace ProjectFile

/-- Below one folder, paths are ordered by the names that lead to them. -/
theorem cmp_ofNames
    {names others : List String}
    (root : Path)
    (hnames : ∀ name ∈ names, Path.IsName name)
    (hothers : ∀ name ∈ others, Path.IsName name) :
    Path.cmp (ofNames root names).path (ofNames root others).path =
      List.compareLex compare names others := by
  rw [Path.cmp, ofNames, ofNames, Path.components_foldl_child root hnames,
    Path.components_foldl_child root hothers, compareLex_append_left, Path.compareLex_map]
  simp only [Path.Component.cmp_name]

/-- As a text, a path below a folder may come after that of a file beside the folder. -/
example :
    Path.cmp (ofNames ⟨"."⟩ ["a", "b.swift"]).path (ofNames ⟨"."⟩ ["a.swift"]).path = .lt ∧
      (ofNames ⟨"."⟩ ["a.swift"]).display < (ofNames ⟨"."⟩ ["a", "b.swift"]).display := by
  decide +kernel

end ProjectFile
end StringsAudit
