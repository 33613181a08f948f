import StringsAudit.Proofs.Assignments
import StringsAudit.Proofs.LocaleFolder.GroupName
import StringsAudit.Proofs.Path.Order
import StringsAudit.StringsFile

/-!
# The locale folder of a path

The locale folder of a path is looked for among its names, and the name of its group is put together
from its segments. Where the segments of a path are names, both find the same folder or neither
finds one. So a file with a locale folder is named for it and grouped without it, and what stands in
for a locale folder elsewhere has no part in reading it.

## Main definitions

* `LocalePath.folderName` : the locale folder with the folder that holds it.

## Main results

* `LocaleFolder.locale?_eq_some_iff` : a locale folder is named for its locale and the suffix.
* `LocalePath.exists_segments_eq_iff` : the lists of names among which there is a locale folder.
* `LocalePath.ofPath?_text` : the locale folder of a path.
* `StringsFile.folder_database_parse` : the database of a file is named for its locale folder.
-/

namespace StringsAudit
namespace LocaleFolder

/-- A locale folder is named for its locale, with the suffix at the end. -/
theorem locale?_eq_some_iff
    {suffix segment locale : String} :
    locale? suffix segment = some locale ↔ locale ++ suffix = segment := by
  rw [locale?, Text.dropSuffix?, Option.map_eq_some_iff, ← String.toList_inj, String.toList_append]
  constructor
  · rintro ⟨chars, hchars, rfl⟩
    split at hchars
    next hsuffix =>
      obtain ⟨start, hstart⟩ := List.isSuffixOf_iff_suffix.mp hsuffix
      rw [← hstart, List.length_append, Nat.add_sub_cancel, List.take_left,
        Option.some.injEq] at hchars
      rw [String.toList_ofList, ← hchars, hstart]
    next => cases hchars
  · intro hsegment
    have hsuffix : suffix.toList.isSuffixOf segment.toList = true :=
      List.isSuffixOf_iff_suffix.mpr ⟨locale.toList, hsegment⟩
    refine ⟨locale.toList, ?_, String.ofList_toList⟩
    rw [if_pos hsuffix, ← hsegment, List.length_append, Nat.add_sub_cancel, List.take_left]

/-- There is a locale folder among segments if one ends with the suffix. -/
theorem isSome_find?_iff
    {suffix : String}
    {parent? : Option String}
    {segments : List String} :
    (find? suffix parent? segments).isSome = true ↔
      ∃ segment ∈ segments, suffix.toList <:+ segment.toList := by
  induction segments generalizing parent? with
  | nil => simp [find?]
  | cons segment rest ih =>
      rw [find?, List.exists_mem_cons_iff, ← LocalePath.isSome_locale?_iff]
      split
      next locale hlocale =>
        rw [hlocale]
        cases parent? <;> simp
      next hnone =>
        rw [hnone, ih]
        simp

/-- The first segment that ends with the suffix is the locale folder. -/
theorem find?_append_cons
    {suffix folder locale : String}
    {before after : List String}
    (parent? : Option String)
    (hbefore : ∀ segment ∈ before, locale? suffix segment = none)
    (hfolder : locale? suffix folder = some locale) :
    find? suffix parent? (before ++ folder :: after) =
      some ⟨"/".intercalate ((parent?.toList ++ before).getLast?.toList ++ [folder]), locale⟩ := by
  induction before generalizing parent? with
  | nil =>
      rw [List.nil_append, find?, hfolder]
      cases parent? <;> simp [String.intercalate_cons_cons]
  | cons segment rest ih =>
      rw [List.forall_mem_cons] at hbefore
      rw [List.cons_append, find?, hbefore.1]
      dsimp only
      rw [ih (some segment) hbefore.2]
      cases parent? <;> simp

end LocaleFolder

namespace LocalePath

variable {suffix : String}

/-- The locale folder of a path, with the folder that holds it if there is one. -/
def folderName (path : LocalePath suffix) : String :=
  "/".intercalate (path.before.getLast?.toList ++ [path.folder])

/-- There is a locale folder among names if it is found there. -/
theorem exists_segments_eq_iff
    {names : List String}
    (hnames : ∀ name ∈ names, Path.IsName name) :
    (∃ path : LocalePath suffix, path.segments = names) ↔
      (LocaleFolder.ofPath? suffix ⟨"/".intercalate names⟩).isSome = true := by
  rw [LocaleFolder.ofPath?, Path.names_intercalate hnames, LocaleFolder.isSome_find?_iff]
  constructor
  · rintro ⟨path, rfl⟩
    exact ⟨path.folder, by simp [segments], path.suffixed⟩
  · rintro ⟨segment, hsegment, hsuffix⟩
    have hjoined : Path.segmentsOf ("/".intercalate names) = names :=
      Path.segmentsOf_intercalate (fun name hname => (hnames name hname).no_separator)
        (List.ne_nil_of_mem hsegment)
    obtain ⟨path, htext⟩ : ∃ path : LocalePath suffix, path.text = "/".intercalate names := by
      rw [exists_text_eq_iff, hjoined]
      exact ⟨hnames, segment, hsegment, hsuffix⟩
    refine ⟨path, ?_⟩
    rw [← path.segmentsOf_text, htext, hjoined]

/-- The locale folder of a path is the one at which the path is cut. -/
theorem ofPath?_text
    (path : LocalePath suffix) :
    ∃ locale, locale ++ suffix = path.folder ∧
      LocaleFolder.ofPath? suffix ⟨path.text⟩ = some ⟨path.folderName, locale⟩ := by
  obtain ⟨locale, hlocale⟩ := Option.isSome_iff_exists.mp
    ((isSome_locale?_iff suffix path.folder).mpr path.suffixed)
  have hbefore : ∀ segment ∈ path.before, LocaleFolder.locale? suffix segment = none := by
    intro segment hsegment
    have hnot := path.first segment hsegment
    rwa [← isSome_locale?_iff, Bool.not_eq_true, Option.isSome_eq_false_iff,
      Option.isNone_iff_eq_none] at hnot
  refine ⟨locale, LocaleFolder.locale?_eq_some_iff.mp hlocale, ?_⟩
  rw [LocaleFolder.ofPath?, text, segments, Path.names_intercalate path.names,
    LocaleFolder.find?_append_cons none hbefore hlocale]
  rfl

end LocalePath

/-- The database of a file in a locale folder is named for the folder and has its locale. -/
theorem StringsFile.folder_database_parse
    {file suffix : String}
    {folder : LocaleFolder}
    (h : LocaleFolder.ofPath? suffix ⟨file⟩ = some folder)
    (content : String)
    (limit : Comment.Depth) :
    (parse content file suffix limit).database.name = folder.name ∧
      (parse content file suffix limit).database.locale = folder.locale := by
  obtain ⟨hname, hlocale, -⟩ :=
    Database.labels_ofAssignments (assignments (Comment.stripContent limit content).lines)
  rw [parse, h]
  exact ⟨hname, hlocale⟩

end StringsAudit
