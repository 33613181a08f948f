import StringsAudit.Failure

/-!
# Configuration files

The configuration of a folder stands in the folder itself or in the nearest folder above that has
one. The search goes up the path as it is written and does not leave a repository.

## Main definitions

* `ConfigFile.folders` : the folders that are searched, from the inside out.
* `ConfigFile.find?` : the configuration file of a folder.
* `ConfigFile.load` : the configuration of a folder.
* `ConfigFile.create` : writes the standard configuration.
-/

namespace StringsAudit
namespace ConfigFile

variable {m : Type → Type} [Monad m]

/-- The name of configuration files. -/
def name : String := ".lprojauditrc.json"

/-- The name of what marks the top of a repository. -/
def repositoryMark : String := ".git"

/-- A path and at most `steps` paths above it, each without the last component of the one before. -/
def upward : (steps : Nat) → Path → List Path
  | 0, path => [path]
  | steps + 1, path =>
      match path.parent? with
      | some parent => path :: upward steps parent
      | none => [path]

/-- The folders that are searched, from the inside out. -/
def folders (start : Path) : List Path :=
  upward start.components.length start

/-- The configuration file of the first of some folders that has one, up to a repository's top. -/
def findIn? (files : Files m) : List Path → m (Option Path)
  | [] => pure none
  | folder :: rest => do
      if ← files.exists? (folder.child name) then pure (some (folder.child name))
      else if ← files.exists? (folder.child repositoryMark) then pure none
      else findIn? files rest

/-- The configuration file of a folder. -/
def find? (files : Files m) (start : Path) : m (Option Path) :=
  findIn? files (folders start)

/-- A configuration with the file that it was read from, if there is one. -/
structure Loaded where
  config : Config
  path? : Option Path
  deriving DecidableEq, Repr

/-- The configuration that the text of a file describes, if an audit can run with it. -/
def ofText [Compilers] (path : Path) (text : String) : Except Failure Loaded :=
  match Config.parse text with
  | .error fault => .error (.malformedConfig path fault)
  | .ok config =>
      match config.validate with
      | .error error => .error (.invalidConfig error)
      | .ok () => .ok ⟨config, some path⟩

/-- The configuration of a folder; where there is no file, the standard one. -/
def load [Compilers] (files : Files m) (start : Path) : m (Except Failure Loaded) := do
  match ← find? files start with
  | none => pure (.ok ⟨.standard, none⟩)
  | some path =>
      match ← files.read path with
      | .error error => pure (.error (.unreadableConfig error))
      | .ok text => pure (ofText path text)

/-- Writes the standard configuration into a folder that has none. -/
def create (files : Files m) (folder : Path) : m (Except Failure Unit) := do
  if ← files.exists? (folder.child name) then pure (.error (.configExists name))
  else
    match ← files.write (folder.child name) Config.standard.render with
    | .error error => pure (.error (.unwritableConfig error))
    | .ok () => pure (.ok ())

end ConfigFile
end StringsAudit
