import Mathlib.Data.List.InsertIdx
import StringsAudit.Proofs.LocaleFolder.FirstFolder

/-!
# One folder for the name and for the group

The folder that a database is named for is looked for among the names on the way to its file, and
the folder that is left out of the name of its group among the segments of the path as it is shown.
On a path whose segments are names these are the same folder, the first that ends with the suffix:
what the group leaves out is what the database is named for, and it can be put back where it stood.

## Main definitions

* `IsFirstFolder` : the first segment that ends with the suffix, and its place.

## Main results

* `IsFirstFolder.localePath` : a path is cut at its first folder.
* `groupName_intercalate_of_not_suffixed` : without a locale folder, a path is its group's name.
* `ofPath?_groupName_intercalate` : the name, the locale and the group of a path.
-/

namespace StringsAudit

/-- The first of some segments that ends with the suffix, behind `index` others. -/
structure IsFirstFolder (suffix : String) (segments : List String) (index : Nat)
    (folder : String) : Prop where
  found : segments[index]? = some folder
  suffixed : suffix.toList <:+ folder.toList
  first : ∀ segment ∈ segments.take index, ¬ suffix.toList <:+ segment.toList

instance (suffix : String) (segments : List String) (index : Nat) (folder : String) :
    Decidable (IsFirstFolder suffix segments index folder) :=
  decidable_of_iff
    (segments[index]? = some folder ∧ suffix.toList <:+ folder.toList ∧
      ∀ segment ∈ segments.take index, ¬ suffix.toList <:+ segment.toList)
    ⟨fun h => ⟨h.1, h.2.1, h.2.2⟩, fun h => ⟨h.found, h.suffixed, h.first⟩⟩

namespace IsFirstFolder

variable {suffix folder : String} {segments : List String} {index : Nat}

theorem take_append_cons_drop
    (h : IsFirstFolder suffix segments index folder) :
    segments.take index ++ folder :: segments.drop (index + 1) = segments := by
  have hdrop : segments.drop index = folder :: segments.drop (index + 1) := by
    rw [List.drop_eq_getElem?_toList_append, h.found]
    rfl
  rw [← hdrop, List.take_append_drop]

/-- A path is cut at its first folder. -/
def localePath
    (h : IsFirstFolder suffix segments index folder)
    (hnames : ∀ segment ∈ segments, Path.IsName segment) :
    LocalePath suffix where
  before := segments.take index
  folder := folder
  after := segments.drop (index + 1)
  names := by rwa [h.take_append_cons_drop]
  suffixed := h.suffixed
  first := h.first

@[simp] theorem text_localePath
    (h : IsFirstFolder suffix segments index folder)
    (hnames : ∀ segment ∈ segments, Path.IsName segment) :
    (h.localePath hnames).text = "/".intercalate segments := by
  rw [LocalePath.text, LocalePath.segments, localePath, h.take_append_cons_drop]

/-- A folder is named for itself at the start, and else with the segment before it. -/
theorem folderName_localePath
    (h : IsFirstFolder suffix segments index folder)
    (hnames : ∀ segment ∈ segments, Path.IsName segment) :
    (index = 0 → (h.localePath hnames).folderName = folder) ∧
      ∀ parent, 0 < index → segments[index - 1]? = some parent →
        (h.localePath hnames).folderName = parent ++ "/" ++ folder := by
  rw [LocalePath.folderName, localePath, List.getLast?_take]
  constructor
  · intro hindex
    simp [hindex]
  · intro parent hindex hparent
    rw [if_neg (by omega), hparent]
    simp [String.intercalate_cons_cons]

end IsFirstFolder

variable {suffix : String} {segments : List String}

/-- Without a locale folder, a path is the name of its group. -/
theorem groupName_intercalate_of_not_suffixed
    (hnames : ∀ segment ∈ segments, Path.IsName segment)
    (hnone : ∀ segment ∈ segments, ¬ suffix.toList <:+ segment.toList) :
    groupName suffix ("/".intercalate segments) = "/".intercalate segments := by
  cases segments with
  | nil =>
      -- the empty path has one segment, which may be left out as it is empty
      have hsegments : Path.segmentsOf ("/".intercalate []) = [""] := rfl
      rw [groupName, hsegments, List.eraseP_cons]
      cases (LocaleFolder.locale? suffix "").isSome <;> rfl
  | cons first rest =>
      rw [groupName, Path.segmentsOf_intercalate
        (fun segment hsegment => (hnames segment hsegment).no_separator)
        (List.cons_ne_nil first rest), List.eraseP_of_forall_not]
      intro segment hsegment
      rw [LocalePath.isSome_locale?_iff]
      exact hnone segment hsegment

/--
A path whose segments are names has a locale folder exactly if one of them ends with the suffix. The
folder is the first such segment: it is the locale and the suffix, it is named with the segment
before it if there is one, and the group is named by all the other segments, so that the folder can
be put back among them. A path without a locale folder is the name of its group.
-/
theorem ofPath?_groupName_intercalate
    {segments : List String}
    (suffix : String)
    (hnames : ∀ segment ∈ segments, Path.IsName segment) :
    let path := "/".intercalate segments
    ((LocaleFolder.ofPath? suffix ⟨path⟩).isSome = true ↔
      ∃ segment ∈ segments, suffix.toList <:+ segment.toList) ∧
    (∀ index folder, IsFirstFolder suffix segments index folder →
      ∃ name locale,
        LocaleFolder.ofPath? suffix ⟨path⟩ = some ⟨name, locale⟩ ∧
        locale ++ suffix = folder ∧
        (index = 0 → name = folder) ∧
        (∀ parent, 0 < index → segments[index - 1]? = some parent →
          name = parent ++ "/" ++ folder) ∧
        groupName suffix path = "/".intercalate (segments.eraseIdx index) ∧
        "/".intercalate ((Path.mk (groupName suffix path)).names.insertIdx index folder) = path) ∧
    (LocaleFolder.ofPath? suffix ⟨path⟩ = none → groupName suffix path = path) := by
  intro path
  have hfound : (LocaleFolder.ofPath? suffix ⟨path⟩).isSome = true ↔
      ∃ segment ∈ segments, suffix.toList <:+ segment.toList := by
    rw [LocaleFolder.ofPath?, Path.names_intercalate hnames, LocaleFolder.isSome_find?_iff]
  refine ⟨hfound, fun index folder hfirst => ?_, fun hnone => ?_⟩
  · obtain ⟨locale, hlocale, hfolder⟩ := (hfirst.localePath hnames).ofPath?_text
    have hgroup := (hfirst.localePath hnames).groupName_text
    rw [hfirst.text_localePath] at hfolder hgroup
    obtain ⟨hroot, hinner⟩ := hfirst.folderName_localePath hnames
    have hother : segments.take index ++ segments.drop (index + 1) = segments.eraseIdx index :=
      (List.eraseIdx_eq_take_drop_succ segments index).symm
    have hothers : ∀ segment ∈ segments.eraseIdx index, Path.IsName segment :=
      fun segment hsegment => hnames segment (List.mem_of_mem_eraseIdx hsegment)
    rw [IsFirstFolder.localePath, hother] at hgroup
    refine ⟨_, locale, hfolder, hlocale, hroot, hinner, hgroup, ?_⟩
    obtain ⟨hindex, rfl⟩ := List.getElem?_eq_some_iff.mp hfirst.found
    rw [hgroup, Path.names_intercalate hothers, List.insertIdx_eraseIdx_getElem]
  · refine groupName_intercalate_of_not_suffixed hnames fun segment hsegment hsuffixed => ?_
    have hsome := hfound.mpr ⟨segment, hsegment, hsuffixed⟩
    rw [hnone] at hsome
    cases hsome

/-- A folder that is named by the suffix alone comes before the folder of a language. -/
theorem ofPath?_groupName_of_bare_suffix :
    let segments := ["App", ".lproj", "en.lproj", "L.strings"]
    (∀ segment ∈ segments, Path.IsName segment) ∧
      IsFirstFolder ".lproj" segments 1 ".lproj" ∧
      LocaleFolder.ofPath? ".lproj" ⟨"/".intercalate segments⟩ = some ⟨"App/.lproj", ""⟩ ∧
      groupName ".lproj" ("/".intercalate segments) = "App/en.lproj/L.strings" := by
  intro segments
  have hnames : ∀ segment ∈ segments, Path.IsName segment := by decide
  have hfirst : IsFirstFolder ".lproj" segments 1 ".lproj" := by decide
  obtain ⟨-, hfolders, -⟩ := ofPath?_groupName_intercalate ".lproj" hnames
  obtain ⟨name, locale, hfolder, hlocale, -, hparent, hgroup, -⟩ := hfolders 1 ".lproj" hfirst
  obtain rfl : name = "App/.lproj" := hparent "App" Nat.one_pos rfl
  have hempty : LocaleFolder.locale? ".lproj" ".lproj" = some "" := by decide
  obtain rfl : "" = locale :=
    Option.some.inj (hempty.symm.trans (LocaleFolder.locale?_eq_some_iff.mpr hlocale))
  exact ⟨hnames, hfirst, hfolder, hgroup.trans (by decide)⟩

end StringsAudit
