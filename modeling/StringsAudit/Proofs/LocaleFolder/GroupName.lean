import StringsAudit.Config
import StringsAudit.LocaleFolder
import StringsAudit.Proofs.Path.Segments

/-!
# Which files share a group

The name of a group is the path of a file without its locale folder. The name does not tell where
that folder stood, so two files share a group exactly if the names before and behind their locale
folders are the same when they are put together. This is so for the files of one table, and also for
files whose locale folders stand at two places of one path.

## Main definitions

* `LocalePath` : the path of a file that has a locale folder.

## Main results

* `LocalePath.exists_text_eq_iff` : the paths with a locale folder.
* `groupName_text` : the name of the group of a file.
* `groupName_eq_iff` : when two files share a group.
-/

namespace StringsAudit

/-- The path of a file, cut at the first segment that ends with the suffix. -/
structure LocalePath (suffix : String) where
  before : List String
  folder : String
  after : List String
  names : ∀ segment ∈ before ++ folder :: after, Path.IsName segment
  suffixed : suffix.toList <:+ folder.toList
  first : ∀ segment ∈ before, ¬ suffix.toList <:+ segment.toList

namespace LocalePath

variable {suffix : String}

def segments (path : LocalePath suffix) : List String :=
  path.before ++ path.folder :: path.after

/-- The path as it is shown. -/
def text (path : LocalePath suffix) : String :=
  "/".intercalate path.segments

theorem isSome_locale?_iff
    (suffix segment : String) :
    (LocaleFolder.locale? suffix segment).isSome = true ↔ suffix.toList <:+ segment.toList := by
  rw [LocaleFolder.locale?, Option.isSome_map, Text.dropSuffix?]
  by_cases h : suffix.toList <:+ segment.toList
  · simp [h]
  · simp [h]

theorem segmentsOf_text
    (path : LocalePath suffix) :
    Path.segmentsOf path.text = path.segments := by
  refine Path.segmentsOf_intercalate (fun segment hsegment => ?_) ?_
  · exact (path.names segment hsegment).no_separator
  · exact List.append_ne_nil_of_right_ne_nil path.before (List.cons_ne_nil path.folder path.after)

/-- A path has a locale folder exactly if its segments are names and one ends with the suffix. -/
theorem exists_text_eq_iff
    (text : String) :
    (∃ path : LocalePath suffix, path.text = text) ↔
      (∀ segment ∈ Path.segmentsOf text, Path.IsName segment) ∧
      ∃ segment ∈ Path.segmentsOf text, suffix.toList <:+ segment.toList := by
  constructor
  · rintro ⟨path, rfl⟩
    rw [segmentsOf_text]
    exact ⟨path.names, path.folder, by simp [segments], path.suffixed⟩
  · rintro ⟨hnames, segment, hsegment, hsuffix⟩
    have hfound : (LocaleFolder.locale? suffix segment).isSome = true :=
      (isSome_locale?_iff suffix segment).mpr hsuffix
    obtain ⟨folder, before, after, hbefore, hfolder, hsegments, -⟩ :=
      List.exists_of_eraseP (p := fun other => (LocaleFolder.locale? suffix other).isSome)
        hsegment hfound
    simp only [isSome_locale?_iff] at hbefore hfolder
    refine ⟨⟨before, folder, after, hsegments ▸ hnames, hfolder, hbefore⟩, ?_⟩
    rw [LocalePath.text, segments, ← hsegments, Path.intercalate_segmentsOf]

theorem names_around
    (path : LocalePath suffix) :
    ∀ segment ∈ path.before ++ path.after, Path.IsName segment := by
  intro segment hsegment
  refine path.names segment ?_
  rw [List.mem_append] at hsegment ⊢
  exact hsegment.imp_right (List.mem_cons_of_mem path.folder)

/-- The name of the group of a file is its path without the locale folder. -/
theorem groupName_text
    (path : LocalePath suffix) :
    groupName suffix path.text = "/".intercalate (path.before ++ path.after) := by
  have hbefore : ∀ segment ∈ path.before,
      ¬ (LocaleFolder.locale? suffix segment).isSome = true := by
    intro segment hsegment
    rw [isSome_locale?_iff]
    exact path.first segment hsegment
  rw [groupName, segmentsOf_text, segments, List.eraseP_append_right _ hbefore,
    List.eraseP_cons_of_pos]
  exact (isSome_locale?_iff suffix path.folder).mpr path.suffixed

end LocalePath

/--
Two files share a group exactly if their locale folders stand in the same folder and the rest of
their paths is the same, or if one locale folder stands deeper than the other and the folders
between the two places follow the other locale folder.
-/
theorem groupName_eq_iff
    {suffix : String}
    (first second : LocalePath suffix) :
    groupName suffix first.text = groupName suffix second.text ↔
      (first.before = second.before ∧ first.after = second.after) ∨
      ∃ between, between ≠ [] ∧
        ((second.before = first.before ++ between ∧ first.after = between ++ second.after) ∨
          (first.before = second.before ++ between ∧ second.after = between ++ first.after)) := by
  rw [first.groupName_text, second.groupName_text,
    Path.intercalate_inj first.names_around second.names_around, List.append_eq_append_iff]
  constructor
  · rintro (⟨between, hbefore, hafter⟩ | ⟨between, hbefore, hafter⟩)
    · cases between with
      | nil => exact .inl ⟨by simpa using hbefore.symm, by simpa using hafter⟩
      | cons name rest =>
          exact .inr ⟨name :: rest, List.cons_ne_nil name rest, .inl ⟨hbefore, hafter⟩⟩
    · cases between with
      | nil => exact .inl ⟨by simpa using hbefore, by simpa using hafter.symm⟩
      | cons name rest =>
          exact .inr ⟨name :: rest, List.cons_ne_nil name rest, .inr ⟨hbefore, hafter⟩⟩
  · rintro (⟨hbefore, hafter⟩ | ⟨between, -, hfirst | hsecond⟩)
    · exact .inl ⟨[], by simp [hbefore], by simp [hafter]⟩
    · exact .inl ⟨between, hfirst⟩
    · exact .inr ⟨between, hsecond⟩

/-- A table in a folder that is named like a folder above another locale folder joins its group. -/
theorem groupName_eq_of_nested_folders :
    ∃ first second : LocalePath ".lproj",
      Config.isSuffix ".lproj" = true ∧
      first.text = "a/en.lproj/b/x.strings" ∧
      second.text = "a/b/en.lproj/x.strings" ∧
      groupName ".lproj" first.text = groupName ".lproj" second.text ∧
      first.before ≠ second.before ∧
      first.after ≠ second.after := by
  refine ⟨⟨["a"], "en.lproj", ["b", "x.strings"], by decide, by decide, by decide⟩,
    ⟨["a", "b"], "en.lproj", ["x.strings"], by decide, by decide, by decide⟩, ?_⟩
  decide +kernel

end StringsAudit
