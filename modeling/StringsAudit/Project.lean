import StringsAudit.Audit
import StringsAudit.ConfigFile
import StringsAudit.Notice
import StringsAudit.Scan
import StringsAudit.SourceFile
import StringsAudit.StringsFile
import StringsAudit.Verdict

/-!
# Projects

A project is an audited folder with all that the rules need of it. Files that cannot be read do not
keep it from being loaded: they become issues.

## Main definitions

* `FileOutcome` : what became of reading a file.
* `Project.groupsOf`, `Project.usedKeysOf` : what readable files say together.
* `Project.load` : loads the project in a folder.

## Main results

* `Project.groupsOf_filter_isReadable` : files that cannot be read do not change the groups.
-/

namespace StringsAudit

/-- What became of reading a file. -/
structure FileOutcome (α : Type) where
  file : ProjectFile
  result : Except Failure α

/-- An audited folder with all that the rules need of it. -/
structure Project where
  config : Config
  root : Path
  groups : List LocaleGroup
  usedKeys : UsedKeys
  /-- The number of strings files in locale folders. -/
  resourceFiles : Nat
  sourceFiles : Nat
  /-- Findings made while the files were loaded. -/
  loadIssues : List Issue
  /-- Whether details were asked for. -/
  verbose : Bool
  notices : List Notice
  deriving DecidableEq

/-- How a project is to be loaded. -/
structure LoadOptions where
  /-- The primary locale, where it is not that of the configuration. -/
  primaryLocale? : Option String
  verbose : Bool
  deriving DecidableEq, Repr

namespace Project

variable {m : Type → Type} [Monad m]

/-! ### Reading files -/

/-- Reads a strings file. -/
def readStringsFile (files : Files m) (file : ProjectFile) (suffix : String)
    (limit : Comment.Depth) : m (Except Failure StringsFile.Parsed) := do
  match ← files.read file.path with
  | .error error => pure (.error (.unreadableStrings file.path error))
  | .ok text => pure (.ok (StringsFile.parse text file.display suffix limit))

/-- Reads a source file. -/
def readSourceFile (files : Files m) (file : ProjectFile) (pattern : UsagePattern)
    (limit : Comment.Depth) : m (Except Failure SourceFile.Parsed) := do
  match ← files.read file.path with
  | .error error => pure (.error (.unreadableSource file.path error))
  | .ok text => pure (.ok (SourceFile.parse text file.display pattern limit))

/-! ### What the files say together -/

/-- The issues of ends of comments with nothing to end. -/
def commentIssues (file : String) (warnings : List Comment.Warning) : List Issue :=
  warnings.map fun warning => .unbalancedComment file warning.line

/-- The issues of lines that look like an entry but do not end like one. -/
def entryIssues (file : String) (warnings : List StringsFile.Warning) : List Issue :=
  warnings.map fun warning =>
    .malformedEntry file warning.line warning.lineText warning.remainder

/-- The issues of one strings file. -/
def resourceIssues (outcome : FileOutcome StringsFile.Parsed) : List Issue :=
  match outcome.result with
  | .ok parsed =>
      commentIssues outcome.file.display parsed.commentWarnings
        ++ entryIssues outcome.file.display parsed.entryWarnings
  | .error failure => [.unreadableFile outcome.file.display failure.message]

/-- The issues of one source file. -/
def sourceIssues (outcome : FileOutcome SourceFile.Parsed) : List Issue :=
  match outcome.result with
  | .ok parsed => commentIssues outcome.file.display parsed.commentWarnings
  | .error failure => [.unreadableFile outcome.file.display failure.message]

/-- The databases of readable files, by the names of their groups. -/
def databasesOf (suffix : String) (outcomes : List (FileOutcome StringsFile.Parsed)) :
    Dict (List Database) :=
  outcomes.foldl
    (fun dict outcome =>
      match outcome.result with
      | .ok parsed => dict.push (groupName suffix outcome.file.display) parsed.database
      | .error _ => dict)
    .empty

/-- The groups that readable files form, in the order of their names. -/
def groupsOf (config : Config) (outcomes : List (FileOutcome StringsFile.Parsed)) :
    List LocaleGroup :=
  (databasesOf config.localeFolderSuffix outcomes).pairs.map fun (name, databases) =>
    .withPrimary name databases config.primaryLocale

/-- The keys that readable source files refer to. -/
def usedKeysOf (outcomes : List (FileOutcome SourceFile.Parsed)) : UsedKeys :=
  outcomes.foldl
    (fun used outcome =>
      match outcome.result with
      | .ok parsed => used.extend parsed.usedKeys
      | .error _ => used)
    .empty

/-! ### Loading -/

/-- The remarks on a configuration. -/
def configNotices (loaded : ConfigFile.Loaded) : List Notice :=
  match loaded.path? with
  | some path => [.usingConfig path]
  | none => [.noConfig]

/-- The remarks that a scan makes as it goes on. -/
def scanNotices [Compilers] (config : Config) (scan : Scan) : List Notice :=
  (Scan.badIgnores config).map (fun (pattern, error) => .badIgnore pattern error)
    ++ scan.skipped.map fun (path, error) => .inaccessible path error

/-- The remark on the number of paths that could not be visited, if there are any. -/
def skippedNotices (verbose : Bool) (scan : Scan) : List Notice :=
  if scan.skipped.isEmpty then [] else [.skipped scan.skipped.length verbose]

/-- The remarks on strings files outside all locale folders. -/
def unlocalizedNotices (config : Config) (scan : Scan) : List Notice :=
  scan.unlocalized.map fun file => .unlocalized file.display config.localeFolderSuffix

/-- The remarks on files that could not be read. -/
def unreadableNotices (issues : List Issue) : List Notice :=
  issues.filterMap fun
    | .unreadableFile file cause => some (.unreadable file cause)
    | _ => none

/-- A configuration with the primary locale that was asked for. -/
def withPrimaryLocale (config : Config) : Option String → Config
  | some locale => { config with primaryLocale := locale }
  | none => config

/-- Reads all files of one kind. -/
def readAll {α : Type} (read : ProjectFile → m (Except Failure α)) (files : List ProjectFile) :
    m (List (FileOutcome α)) :=
  files.mapM fun file => return ⟨file, ← read file⟩

/-- Loads the project in a folder that is there, with its configuration. -/
def loadWith [Compilers] (files : Files m) (root : Path) (options : LoadOptions)
    (loaded : ConfigFile.Loaded) : m (Except Failure Project) := do
  let config := withPrimaryLocale loaded.config options.primaryLocale?
  let scan := Scan.ofVisits config root (← files.walk root)
  let limit := config.commentDepth
  let resources ← readAll (readStringsFile files · config.localeFolderSuffix limit) scan.resources
  match UsagePattern.compile config.usagePattern with
  | .error error => pure (.error (.badUsagePattern error))
  | .ok pattern =>
      let sources ← readAll (readSourceFile files · pattern limit) scan.sources
      let issues := resources.flatMap resourceIssues ++ sources.flatMap sourceIssues
      let notices := configNotices loaded ++ scanNotices config scan
        ++ skippedNotices options.verbose scan ++ unlocalizedNotices config scan
        ++ unreadableNotices issues
      pure (.ok
        { config, root
          groups := groupsOf config resources
          usedKeys := usedKeysOf sources
          resourceFiles := scan.resources.length
          sourceFiles := scan.sources.length
          loadIssues := issues
          verbose := options.verbose
          notices := Notice.shown options.verbose notices })

/-- Loads the project in a folder. -/
def load [Compilers] (files : Files m) (root : Path) (options : LoadOptions) :
    m (Except Failure Project) := do
  match ← files.kind? root with
  | none => pure (.error (.folderMissing root))
  | some .file => pure (.error (.notFolder root))
  | some .directory =>
      match ← ConfigFile.load files root with
      | .error failure => pure (.error failure)
      | .ok loaded => loadWith files root options loaded

/-! ### Auditing -/

/-- What the rules look at. -/
def evidence (project : Project) : Evidence :=
  ⟨project.groups, project.usedKeys, project.config.placeholder, project.loadIssues⟩

/-- How many things were looked at. -/
def coverage (project : Project) : Coverage :=
  ⟨project.resourceFiles, project.groups.length, project.sourceFiles⟩

/-- The findings of the selected rules; where none is selected, of all. -/
def audit (project : Project) (rules : List Rule) : Verdict :=
  .ofIssues (project.evidence.issues (if rules.isEmpty then Rule.all else rules))
    project.coverage

/-! ### Files that cannot be read -/

/-- Whether a file could be read. -/
def isReadable {α : Type} (outcome : FileOutcome α) : Bool :=
  match outcome.result with
  | .ok _ => true
  | .error _ => false

/-- Files that cannot be read do not change the databases. -/
theorem databasesOf_filter_isReadable
    (suffix : String)
    (outcomes : List (FileOutcome StringsFile.Parsed)) :
    databasesOf suffix (outcomes.filter isReadable) = databasesOf suffix outcomes := by
  rw [databasesOf, List.foldl_filter, databasesOf]
  congr 1
  funext dict outcome
  obtain ⟨file, result⟩ := outcome
  cases result <;> simp [isReadable]

/-- Files that cannot be read do not change the groups. -/
theorem groupsOf_filter_isReadable
    (config : Config)
    (outcomes : List (FileOutcome StringsFile.Parsed)) :
    groupsOf config (outcomes.filter isReadable) = groupsOf config outcomes := by
  rw [groupsOf, databasesOf_filter_isReadable, groupsOf]

end Project
end StringsAudit
