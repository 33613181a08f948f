import StringsAudit.Files
import StringsAudit.Glob
import StringsAudit.Text.Styled

/-!
# Notices

Remarks that are made on the error output while a project is loaded.

## Main definitions

* `Notice` : a remark.
* `Notice.isDetail` : whether a remark is made only when details are asked for.
* `Notice.line` : the line of a remark.
-/

namespace StringsAudit

open Text

/-- A remark made while a project is loaded. -/
inductive Notice where
  | usingConfig (path : Path)
  | noConfig
  | badIgnore (pattern : String) (error : GlobError)
  | inaccessible (path : Path) (error : FileError)
  /-- The number of paths that could not be visited, and whether each has a remark of its own. -/
  | skipped (count : Nat) (detailed : Bool)
  | unlocalized (file suffix : String)
  | unreadable (file cause : String)
  deriving DecidableEq, Repr

namespace Notice

/-- The label of a remark on something that may be wrong. -/
def warning : Styled :=
  .strongIn .yellow "warning:"

/-- The label of any other remark. -/
def note : Styled :=
  .strong "note:"

/-- Whether a remark is made only when details are asked for. -/
def isDetail : Notice → Bool
  | skipped .. => false
  | _ => true

/-- The label of a remark. -/
def label : Notice → Styled
  | usingConfig _ | noConfig | unlocalized .. => note
  | _ => warning

/-- The wording of a remark. -/
def message : Notice → String
  | usingConfig path => s!"Using config {path.text}"
  | noConfig => "No config file found, using default configuration"
  | badIgnore pattern error => s!"Invalid ignore pattern '{pattern}': {error.message}"
  | inaccessible path error =>
      s!"Cannot access path: IO error for operation on {path.text}: {error.message}"
  | skipped count detailed =>
      s!"{count} path(s) skipped due to access errors"
        ++ (if detailed then "" else " (use -v for details)")
  | unlocalized file suffix => s!"{file} is not inside a '*{suffix}' folder, skipped"
  | unreadable file cause => s!"{file}: {cause}"

/-- The line of a remark. -/
def line (notice : Notice) : Styled :=
  .spaced [notice.label, .plain notice.message]

/-- The remarks to make, in their order. -/
def shown (verbose : Bool) (notices : List Notice) : List Notice :=
  notices.filter fun notice => verbose || !notice.isDetail

end Notice
end StringsAudit
