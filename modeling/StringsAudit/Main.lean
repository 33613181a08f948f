import StringsAudit.Run

/-!
# The program

The command line on a real file system. Everything is decided elsewhere: here files are read and
written, and lines are printed.
-/

namespace StringsAudit
namespace Disk

open Text

/-- The error of the audit that an error of the system stands for. -/
def fileErrorOf : IO.Error → FileError
  | .noFileOrDirectory .. => .missing
  | .inappropriateType _ 21 _ => .isDirectory
  | .inappropriateType .. => .notDirectory
  | error => .other (toString error)

/-- Catches the errors of the system. -/
def attempt {α : Type} (action : IO α) : IO (Except FileError α) := do
  try
    return .ok (← action)
  catch error =>
    return .error (fileErrorOf error)

/-- What stands at a path; links are followed. -/
def kind? (path : Path) : IO (Option FileKind) := do
  match ← attempt do (← IO.FS.realPath path.text).metadata with
  | .ok data => return some (if data.type matches .dir then .directory else .file)
  | .error _ => return none

/-- The text of a file. -/
def read (path : Path) : IO (Except FileError String) := do
  match ← attempt (IO.FS.readBinFile path.text) with
  | .error error => return .error error
  | .ok bytes =>
      match String.fromUTF8? bytes with
      | some text => return .ok text
      | none => return .error .notText

/-- Replaces the text of a file, or creates the file. -/
def write (path : Path) (text : String) : IO (Except FileError Unit) :=
  attempt (IO.FS.writeFile path.text text)

/-- The names in a directory in their order, each with what it names; links are not followed. -/
def entriesOf (directory : Path) : IO (List (String × IO.FS.FileType)) := do
  let entries ← (← IO.FS.realPath directory.text).readDir
  let typed ← entries.toList.mapM fun entry => do
    return (entry.fileName, (← entry.path.symlinkMetadata).type)
  return sortBy (compareOn (·.1)) typed

/-- Walks through a directory to which names lead from where the walk started. -/
partial def walkBelow (directory : Path) (names : List String) : IO (List Visit) := do
  match ← attempt (entriesOf directory) with
  | .error error => return [.failure directory error]
  | .ok entries =>
      let visits ← entries.mapM fun (name, type) => do
        match type with
        | .dir => walkBelow (directory.child name) (names ++ [name])
        | .file => return [Visit.file (names ++ [name])]
        | _ => return []
      return visits.flatten

/-- Walks through all that is below a path. -/
def walk (path : Path) : IO (List Visit) := do
  match ← attempt do (← IO.FS.realPath path.text).metadata with
  | .error error => return [.failure path error]
  | .ok data =>
      match data.type with
      | .dir => walkBelow path []
      | .file => return [.file []]
      | _ => return []

/-- The disk's answers to the questions of an audit. -/
def files : Files IO :=
  ⟨kind?, read, write, walk⟩

end Disk

/-- Shows why arguments ask for nothing that can be done. -/
def refuse (error : ArgumentError) : IO Unit :=
  match error with
  | .helpWanted => IO.print (Text.Styled.renderLines false (helpLines.map Text.Styled.plain))
  | .versionWanted => IO.println "lproj-audit 0.1.0"
  | _ => IO.eprintln s!"error: {error.message}"

/-- Shows what a run had to say. -/
def present (outcome : Outcome) : IO Unit := do
  let colored := (← (← IO.getStdout).isTty) && (← IO.getEnv "NO_COLOR").isNone
  IO.print (Text.Styled.renderLines colored outcome.output)
  IO.eprint (Text.Styled.renderLines colored outcome.remarks)
  match outcome.result with
  | .ok _ => pure ()
  | .error failure => IO.eprintln s!"Error: {failure.message}"

end StringsAudit

/-- Carries out what the arguments ask for. -/
def main (arguments : List String) : IO UInt32 := do
  match StringsAudit.Command.parse (← IO.getEnv "LPROJ_AUDIT_ROOT") arguments with
  | .error error =>
      StringsAudit.refuse error
      return error.exitCode.toUInt32
  | .ok command? =>
      let outcome ← StringsAudit.run StringsAudit.Disk.files command?
      StringsAudit.present outcome
      return outcome.status.code.toUInt32
