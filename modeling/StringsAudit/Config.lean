import StringsAudit.Comment
import StringsAudit.Compilers
import StringsAudit.Json.Reader
import StringsAudit.Json.Writer

/-!
# Configurations

## Main definitions

* `Config` : what can be set about an audit.
* `Config.standard` : the configuration of a project that sets nothing.
* `Config.parse` : the configuration that a JSON text describes.
* `Config.render` : a configuration as JSON.
* `Config.validate` : whether an audit can run with a configuration.

## Main results

* `Config.Field.ofName?_name` : the name of a field is read back as that field.
-/

namespace StringsAudit

/-- What can be set about an audit. -/
structure Config where
  /-- Glob patterns of the files to leave out. -/
  ignores : List String
  /-- The extension of strings files. -/
  resourceExtension : String
  sourceExtensions : List String
  /-- How the names of locale folders end. -/
  localeFolderSuffix : String
  primaryLocale : String
  /-- The text that stands for an argument in a value. -/
  placeholder : String
  usagePattern : String
  /-- The number of nested block comments that are honoured, if there is a limit. -/
  blockCommentDepth : Option Nat
  deriving DecidableEq, Repr

/-- Why an audit cannot run with a configuration. -/
inductive ConfigError where
  | badIgnore (pattern : String) (error : GlobError)
  | badUsagePattern (error : UsagePatternError)
  | emptyPlaceholder
  | badSuffix (suffix : String)
  deriving DecidableEq, Repr

namespace Config

/-- The configuration of a project that sets nothing. -/
def standard : Config where
  ignores := ["**/Pods/**", "**/Carthage/**", "**/.build/**", "**/DerivedData/**"]
  resourceExtension := "strings"
  sourceExtensions := ["swift"]
  localeFolderSuffix := ".lproj"
  primaryLocale := "en"
  placeholder := "%@"
  usagePattern := UsagePattern.standard
  blockCommentDepth := none

/-- The comments that an audit honours. -/
def commentDepth (config : Config) : Comment.Depth :=
  .ofOption config.blockCommentDepth

/-! ### JSON -/

/-- The fields of a configuration. -/
inductive Field where
  | ignores
  | resourceExtension
  | sourceExtensions
  | localeFolderSuffix
  | primaryLocale
  | placeholder
  | usagePattern
  | blockCommentDepth
  deriving DecidableEq, Repr

namespace Field

/-- All fields, in the order in which they are written. -/
def all : List Field :=
  [.ignores, .resourceExtension, .sourceExtensions, .localeFolderSuffix, .primaryLocale,
    .placeholder, .usagePattern, .blockCommentDepth]

/-- The name of a field in JSON. -/
def name : Field → String
  | .ignores => "ignores"
  | .resourceExtension => "resourceExtension"
  | .sourceExtensions => "sourceExtensions"
  | .localeFolderSuffix => "localeFolderSuffix"
  | .primaryLocale => "primaryLocale"
  | .placeholder => "placeholder"
  | .usagePattern => "usagePattern"
  | .blockCommentDepth => "blockCommentDepth"

/-- The field with a name. -/
def ofName? (name : String) : Option Field :=
  all.find? fun field => field.name == name

/-- Reads the value of a field into a configuration. -/
def read (config : Config) : Field → Json.Reader Config
  | .ignores => return { config with ignores := ← Json.array Json.string }
  | .resourceExtension => return { config with resourceExtension := ← Json.string }
  | .sourceExtensions => return { config with sourceExtensions := ← Json.array Json.string }
  | .localeFolderSuffix => return { config with localeFolderSuffix := ← Json.string }
  | .primaryLocale => return { config with primaryLocale := ← Json.string }
  | .placeholder => return { config with placeholder := ← Json.string }
  | .usagePattern => return { config with usagePattern := ← Json.string }
  | .blockCommentDepth =>
      return { config with blockCommentDepth := ← Json.optional Json.natural }

/-- The value of a field as JSON inside an object. -/
def render (config : Config) : Field → String
  | .ignores => Json.prettyArray 1 (config.ignores.map Json.quote)
  | .resourceExtension => Json.quote config.resourceExtension
  | .sourceExtensions => Json.prettyArray 1 (config.sourceExtensions.map Json.quote)
  | .localeFolderSuffix => Json.quote config.localeFolderSuffix
  | .primaryLocale => Json.quote config.primaryLocale
  | .placeholder => Json.quote config.placeholder
  | .usagePattern => Json.quote config.usagePattern
  | .blockCommentDepth =>
      match config.blockCommentDepth with
      | some max => toString max
      | none => "null"

end Field

/-- A configuration that is being read, with the fields that were read already. -/
structure Draft where
  config : Config
  seen : List Field
  deriving DecidableEq, Repr

/-- Reads one field of an object; an unknown field is passed over, a known one must not recur. -/
def Draft.readField (key : String) (draft : Draft) : Json.Reader Draft := do
  match Field.ofName? key with
  | some field =>
      if draft.seen.contains field then Json.fail .mismatch
      else return ⟨← field.read draft.config, field :: draft.seen⟩
  | none =>
      Json.skipValue
      pure draft

/-- Reads the fields that an array gives without their names; those at its end may be missing. -/
def readElements : List Field → Bool → Config → Json.Reader Config
  | [], _, config => pure config
  | field :: rest, isFirst, config => do
      if ← Json.hasElement isFirst then readElements rest false (← field.read config)
      else pure config

/-- Reads a configuration; a field that is missing has its standard value. -/
def reader : Json.Reader Config := do
  let first ← Json.peek
  if first == '\x7b' then
    Json.advance
    return (← Json.objectTail Draft.readField ⟨standard, []⟩).config
  else if first == '[' then
    Json.advance
    let config ← readElements Field.all true standard
    Json.endArray
    pure config
  else Json.reject

/-- The configuration that a JSON text describes. -/
def parse (text : String) : Except Json.Fault Config :=
  Json.read reader text

/-- A configuration as JSON. -/
def render (config : Config) : String :=
  Json.prettyObject 0 (Field.all.map fun field => (field.name, field.render config))

/-! ### Validation -/

/-- Whether a text can be the ending of a folder's name: a point and something after it. -/
def isSuffix (text : String) : Bool :=
  text.toList.head? == some '.' && 2 ≤ text.utf8ByteSize

/-- Checks that each pattern is a glob pattern. -/
def checkIgnores [Compilers] (patterns : List String) : Except ConfigError Unit :=
  patterns.forM fun pattern =>
    match Compilers.glob pattern with
    | .ok _ => .ok ()
    | .error error => .error (.badIgnore pattern error)

/-- Whether an audit can run with a configuration; the first defect counts. -/
def validate [Compilers] (config : Config) : Except ConfigError Unit := do
  checkIgnores config.ignores
  match UsagePattern.compile config.usagePattern with
  | .ok _ => pure ()
  | .error error => throw (.badUsagePattern error)
  if config.placeholder == "" then throw .emptyPlaceholder
  if !isSuffix config.localeFolderSuffix then throw (.badSuffix config.localeFolderSuffix)

end Config
end StringsAudit
