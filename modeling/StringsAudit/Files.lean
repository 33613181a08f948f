import StringsAudit.Path

/-!
# Files

What an audit asks of a file system. The questions are answered in some monad, so one audit runs
on a disk and on a model of one.

## Main definitions

* `FileError` : why a file cannot be used.
* `Visit` : what is met on a walk through a directory.
* `Files` : the questions to a file system.
-/

namespace StringsAudit

/-- Why a file cannot be used. -/
inductive FileError where
  | missing
  | notDirectory
  | isDirectory
  | nameTooLong
  /-- A null character in a path. -/
  | nullInPath
  /-- The content is not UTF-8. -/
  | notText
  | other (text : String)
  deriving DecidableEq, Repr

/-- The wording of an error. -/
def FileError.message : FileError → String
  | .missing => "No such file or directory (os error 2)"
  | .notDirectory => "Not a directory (os error 20)"
  | .isDirectory => "Is a directory (os error 21)"
  | .nameTooLong => "File name too long (os error 36)"
  | .nullInPath => "file name contained an unexpected NUL byte"
  | .notText => "stream did not contain valid UTF-8"
  | .other text => text

/-- What can stand at a path. -/
inductive FileKind where
  | file
  | directory
  deriving DecidableEq, Repr

/-- What is met on a walk through a directory. -/
inductive Visit where
  /-- A file, by the names that lead to it from where the walk started. -/
  | file (names : List String)
  /-- A path that cannot be visited. -/
  | failure (path : Path) (error : FileError)
  deriving DecidableEq, Repr

/-- The questions to a file system. -/
structure Files (m : Type → Type) where
  /-- What stands at a path, if anything does. -/
  kind? : Path → m (Option FileKind)
  /-- The text of a file. -/
  read : Path → m (Except FileError String)
  /-- Replaces the text of a file, or creates the file. -/
  write : Path → String → m (Except FileError Unit)
  /--
  Walks through all that is below a path. The entries of a directory come in the order of their
  names, each with all that is below it.
  -/
  walk : Path → m (List Visit)

namespace Files

variable {m : Type → Type} [Monad m]

/-- Whether anything stands at a path. -/
def exists? (files : Files m) (path : Path) : m Bool :=
  return (← files.kind? path).isSome

end Files
end StringsAudit
