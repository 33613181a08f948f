import StringsAudit.Path

/-!
# Locale folders

The files of one language stand in a folder whose name ends with a fixed suffix. The first such
folder on the way to a file names its language, and the same path without that folder names the
group of files that it belongs to.

## Main definitions

* `LocaleFolder.ofPath?` : the locale folder on the way to a file.
* `groupName` : the path of a file without its locale folder.
-/

namespace StringsAudit

/-- A folder that holds the files of one language. -/
structure LocaleFolder where
  /-- The folder, with the folder that holds it. -/
  name : String
  locale : String
  deriving DecidableEq, Repr

namespace LocaleFolder

/-- The locale that a segment names, if it ends with the suffix. -/
def locale? (suffix segment : String) : Option String :=
  (Text.dropSuffix? suffix.toList segment.toList).map String.ofList

/-- The first locale folder among segments, where `parent?` is the segment before them. -/
def find? (suffix : String) : Option String → List String → Option LocaleFolder
  | _, [] => none
  | parent?, segment :: rest =>
      match locale? suffix segment with
      | some locale =>
          match parent? with
          | some parent => some ⟨parent ++ "/" ++ segment, locale⟩
          | none => some ⟨segment, locale⟩
      | none => find? suffix (some segment) rest

/-- The first locale folder on the way to a file. -/
def ofPath? (suffix : String) (path : Path) : Option LocaleFolder :=
  find? suffix none path.names

end LocaleFolder

/-- The path of a file without its first locale folder; files of one name form a group. -/
def groupName (suffix path : String) : String :=
  "/".intercalate
    ((Path.segmentsOf path).eraseP fun segment => (LocaleFolder.locale? suffix segment).isSome)

end StringsAudit
