import StringsAudit.Path

/-!
# The segments of a path

Segments hold no separator, so a path and the list of its segments determine each other.

## Main definitions

* `IsName` : a segment that names a file or a folder.

## Main results

* `segmentsOf_intercalate` : segments that are joined are found again.
* `intercalate_segmentsOf` : the segments of a path are joined to the path.
* `intercalate_inj` : names are told by the path that they are joined to.
-/

namespace StringsAudit

theorem Text.splitOn_singleton
    (c : Char)
    (text : List Char) :
    Text.splitOn [c] text = List.splitOn c text := by
  induction text with
  | nil => rfl
  | cons d rest ih =>
      rw [Text.splitOn] at ih ⊢
      rw [Text.splitOnFrom, List.splitOn_eq_splitOnP, List.splitOnP_cons_eq_if_modifyHead,
        ← List.splitOn_eq_splitOnP]
      by_cases heq : d = c
      · simp [heq, ih]
      · have hne : ¬ ([c].isPrefixOf (d :: rest)) = true := by simpa using Ne.symm heq
        rw [if_neg hne, if_neg (by simpa using heq), ih]
        cases hsplit : List.splitOn c rest with
        | nil => exact absurd hsplit (List.splitOnP_ne_nil _ rest)
        | cons piece pieces => rfl

namespace Path

/-- A segment that names a file or a folder. -/
structure IsName (segment : String) : Prop where
  component : componentOf? segment = some (.name segment)
  no_separator : '/' ∉ segment.toList

instance (segment : String) : Decidable (IsName segment) :=
  decidable_of_iff (componentOf? segment = some (.name segment) ∧ '/' ∉ segment.toList)
    ⟨fun h => ⟨h.1, h.2⟩, fun h => ⟨h.component, h.no_separator⟩⟩

theorem toList_intercalate
    (segments : List String) :
    ("/".intercalate segments).toList = ['/'].intercalate (segments.map String.toList) := by
  simp

/-- Segments that are joined are found again. -/
theorem segmentsOf_intercalate
    {segments : List String}
    (hseparator : ∀ segment ∈ segments, '/' ∉ segment.toList)
    (hne : segments ≠ []) :
    segmentsOf ("/".intercalate segments) = segments := by
  have hpieces : ∀ piece ∈ segments.map String.toList, '/' ∉ piece := by
    simpa using hseparator
  rw [segmentsOf, toList_intercalate, Text.splitOn_singleton,
    List.splitOn_intercalate '/' hpieces (by simpa using hne)]
  simp

/-- The segments of a path are joined to the path. -/
theorem intercalate_segmentsOf
    (text : String) :
    "/".intercalate (segmentsOf text) = text := by
  rw [← String.toList_inj, toList_intercalate, segmentsOf, Text.splitOn_singleton, List.map_map]
  simp [Function.comp_def]

theorem segmentsOf_ne_nil
    (text : String) :
    segmentsOf text ≠ [] := by
  rw [segmentsOf, Text.splitOn_singleton, ne_eq, List.map_eq_nil_iff]
  exact List.splitOn_ne_nil '/' text.toList

/-- A separator ends the segments before it. -/
theorem segmentsOf_append
    (before after : String) :
    segmentsOf (before ++ "/" ++ after) = segmentsOf before ++ segmentsOf after := by
  have htext : (before ++ "/" ++ after).toList = before.toList ++ '/' :: after.toList := by
    simp
  simp only [segmentsOf, Text.splitOn_singleton, htext, List.splitOn_append_cons_self,
    List.map_append]

theorem segmentsOf_of_not_mem
    {segment : String}
    (h : '/' ∉ segment.toList) :
    segmentsOf segment = [segment] := by
  rw [segmentsOf, Text.splitOn_singleton, List.splitOn_eq_singleton h]
  simp

theorem separator_not_mem_of_mem_segmentsOf
    {text segment : String}
    (h : segment ∈ segmentsOf text) :
    '/' ∉ segment.toList := by
  have hpiece (chars : List Char) : ∀ piece ∈ List.splitOn '/' chars, '/' ∉ piece := by
    induction chars with
    | nil => simp
    | cons c rest ih =>
        rw [List.splitOn_cons_eq_if_modifyHead]
        split
        next => simpa using ih
        next hc =>
          cases hsplit : List.splitOn '/' rest with
          | nil => exact absurd hsplit (List.splitOn_ne_nil '/' rest)
          | cons piece pieces =>
              rw [hsplit, List.forall_mem_cons] at ih
              rw [List.modifyHead_cons, List.forall_mem_cons]
              refine ⟨?_, ih.2⟩
              rw [List.mem_cons, not_or]
              exact ⟨fun heq => hc (by simpa using heq.symm), ih.1⟩
  rw [segmentsOf, Text.splitOn_singleton] at h
  obtain ⟨piece, hmem, rfl⟩ := List.mem_map.mp h
  rw [String.toList_ofList]
  exact hpiece _ piece hmem

theorem IsName.ne_empty
    {segment : String}
    (h : IsName segment) :
    segment ≠ "" := by
  rintro rfl
  exact Option.noConfusion rfl (heq_of_eq h.component)

theorem filter_segmentsOf_intercalate
    {segments : List String}
    (h : ∀ segment ∈ segments, IsName segment) :
    (segmentsOf ("/".intercalate segments)).filter (· ≠ "") = segments := by
  cases segments with
  | nil => rfl
  | cons first rest =>
      rw [segmentsOf_intercalate (fun segment hsegment => (h segment hsegment).no_separator)
        (List.cons_ne_nil first rest), List.filter_eq_self]
      intro segment hsegment
      simpa using (h segment hsegment).ne_empty

/-- Names are told by the path that they are joined to, also if there are none. -/
theorem intercalate_inj
    {first second : List String}
    (hfirst : ∀ segment ∈ first, IsName segment)
    (hsecond : ∀ segment ∈ second, IsName segment) :
    "/".intercalate first = "/".intercalate second ↔ first = second := by
  constructor
  · intro h
    rw [← filter_segmentsOf_intercalate hfirst, h, filter_segmentsOf_intercalate hsecond]
  · rintro rfl
    rfl

end Path
end StringsAudit
