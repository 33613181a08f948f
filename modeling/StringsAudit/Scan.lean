import StringsAudit.Config
import StringsAudit.Files
import StringsAudit.LocaleFolder

/-!
# Scans

A scan finds the files of the audited folder that matter and says what each of them is.

## Main definitions

* `ProjectFile` : a file of the audited folder.
* `FileRole` : what a file is to an audit.
* `Scan.ofVisits` : the scan of what was met on a walk.
-/

namespace StringsAudit

/-- A file of the audited folder. -/
structure ProjectFile where
  path : Path
  /-- The path below the audited folder. -/
  display : String
  deriving DecidableEq, Repr

namespace ProjectFile

/-- The file to which names lead from a folder. -/
def ofNames (root : Path) (names : List String) : ProjectFile :=
  ⟨names.foldl Path.child root, "/".intercalate names⟩

end ProjectFile

/-- What a file is to an audit. -/
inductive FileRole where
  /-- A strings file in a locale folder. -/
  | resource
  | source
  /-- A strings file outside all locale folders. -/
  | unlocalized
  deriving DecidableEq, Repr

/-- What a file is to an audit, by its extension; strings files come first. -/
def FileRole.of? (config : Config) (file : ProjectFile) : Option FileRole :=
  match file.path.fileExtension? with
  | none => none
  | some ext =>
      if ext == config.resourceExtension then
        if (LocaleFolder.ofPath? config.localeFolderSuffix ⟨file.display⟩).isSome then
          some .resource
        else some .unlocalized
      else if config.sourceExtensions.contains ext then some .source
      else none

/-- The files that matter, and the paths that could not be visited. -/
structure Scan where
  resources : List ProjectFile
  sources : List ProjectFile
  unlocalized : List ProjectFile
  skipped : List (Path × FileError)
  deriving DecidableEq, Repr

namespace Scan

/-- The glob patterns among the patterns of a configuration. -/
def globs [Compilers] (config : Config) : List Glob :=
  config.ignores.filterMap fun pattern => (Compilers.glob pattern).toOption

/-- The patterns of a configuration that are no glob patterns. -/
def badIgnores [Compilers] (config : Config) : List (String × GlobError) :=
  config.ignores.filterMap fun pattern =>
    match Compilers.glob pattern with
    | .ok _ => none
    | .error error => some (pattern, error)

/-- Whether a file is left out. -/
def isIgnored (globs : List Glob) (file : ProjectFile) : Bool :=
  globs.any fun glob => glob.accepts file.display

/-- The files met on a walk that started at a folder. -/
def filesOf (root : Path) (visits : List Visit) : List ProjectFile :=
  visits.filterMap fun
    | .file names => some (.ofNames root names)
    | .failure .. => none

/-- The paths that could not be visited. -/
def failuresOf (visits : List Visit) : List (Path × FileError) :=
  visits.filterMap fun
    | .file _ => none
    | .failure path error => some (path, error)

/-- The files that are not left out. -/
def keep (globs : List Glob) (files : List ProjectFile) : List ProjectFile :=
  files.filter fun file => !isIgnored globs file

/-- The files with a role. -/
def withRole (config : Config) (role : FileRole) (files : List ProjectFile) :
    List ProjectFile :=
  files.filter fun file => FileRole.of? config file == some role

/-- The scan of what was met on a walk that started at a folder. -/
def ofVisits [Compilers] (config : Config) (root : Path) (visits : List Visit) : Scan :=
  let files := keep (globs config) (filesOf root visits)
  ⟨withRole config .resource files, withRole config .source files,
    withRole config .unlocalized files, failuresOf visits⟩

end Scan
end StringsAudit
