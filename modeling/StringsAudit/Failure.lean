import StringsAudit.Config
import StringsAudit.Files

/-!
# Failures

What keeps an audit from running. A failure is worded from the outside in: what was being done,
and in the end what went wrong.

## Main definitions

* `Failure` : what keeps an audit from running.
* `Cause` : what went wrong in the end.
* `Failure.contexts`, `Failure.cause`, `Failure.message` : the wording.
-/

namespace StringsAudit

/-- What keeps an audit from running. -/
inductive Failure where
  | folderMissing (path : Path)
  | notFolder (path : Path)
  | unreadableConfig (error : FileError)
  | malformedConfig (path : Path) (fault : Json.Fault)
  | invalidConfig (error : ConfigError)
  | badUsagePattern (error : UsagePatternError)
  | unreadableStrings (path : Path) (error : FileError)
  | unreadableSource (path : Path) (error : FileError)
  /-- There is a configuration already where one should be written. -/
  | configExists (name : String)
  | unwritableConfig (error : FileError)
  deriving DecidableEq, Repr

/-- What went wrong in the end. -/
inductive Cause where
  | json (fault : Json.Fault)
  | pattern (error : Pattern.PatternError)
  | glob (error : GlobError)
  | file (error : FileError)
  /-- A rule of the audit itself was broken. -/
  | rule (text : String)
  deriving DecidableEq, Repr

/-- The wording of a cause. -/
def Cause.message : Cause → String
  | .json fault => fault.message
  | .pattern error => error.message
  | .glob error => error.message
  | .file error => error.message
  | .rule text => text

namespace UsagePatternError

/-- What was being done when a usage pattern turned out bad. -/
def contexts : UsagePatternError → List String
  | unreadable pattern _ => ["Invalid usage pattern: \"" ++ pattern ++ "\""]
  | noGroup _ => []

/-- What is wrong with a usage pattern. -/
def cause : UsagePatternError → Cause
  | unreadable _ error => .pattern error
  | noGroup pattern =>
      .rule ("Usage pattern \"" ++ pattern ++ "\" has no capture group for the key")

end UsagePatternError

namespace ConfigError

/-- What was being done when a configuration turned out bad. -/
def contexts : ConfigError → List String
  | badIgnore pattern _ => ["Invalid glob pattern in 'ignores': \"" ++ pattern ++ "\""]
  | badUsagePattern error => "Invalid 'usagePattern'" :: error.contexts
  | emptyPlaceholder | badSuffix _ => []

/-- What is wrong with a configuration. -/
def cause : ConfigError → Cause
  | badIgnore _ error => .glob error
  | badUsagePattern error => error.cause
  | emptyPlaceholder => .rule "'placeholder' must not be empty"
  | badSuffix suffix =>
      .rule ("'localeFolderSuffix' must look like \".lproj\", got \"" ++ suffix ++ "\"")

end ConfigError

namespace Failure

/-- What was being done, from the outside in. -/
def contexts : Failure → List String
  | malformedConfig path _ => ["Failed to parse config file: " ++ path.quoted]
  | invalidConfig error => error.contexts
  | badUsagePattern error => error.contexts
  | unreadableStrings path _ => ["Failed to read strings file: " ++ path.quoted]
  | unreadableSource path _ => ["Failed to read source file: " ++ path.quoted]
  | _ => []

/-- What went wrong in the end. -/
def cause : Failure → Cause
  | folderMissing path => .rule s!"Folder '{path.text}' does not exist."
  | notFolder path => .rule s!"'{path.text}' is not a directory."
  | unreadableConfig error => .file error
  | malformedConfig _ fault => .json fault
  | invalidConfig error => error.cause
  | badUsagePattern error => error.cause
  | unreadableStrings _ error => .file error
  | unreadableSource _ error => .file error
  | configExists name => .rule s!"{name} already exists"
  | unwritableConfig error => .file error

/-- The wording of a failure. -/
def message (failure : Failure) : String :=
  ": ".intercalate (failure.contexts ++ [failure.cause.message])

end Failure
end StringsAudit
