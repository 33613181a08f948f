import StringsAudit.Comment
import StringsAudit.Database
import StringsAudit.LocaleFolder

/-!
# Strings files

A strings file holds lines of the form `"key" = "value";`, and comments.

## Main definitions

* `StringsFile.readLine` : what one line outside comments says.
* `StringsFile.parse` : the database of a file, with what was odd about its lines.
-/

namespace StringsAudit
namespace StringsFile

open Text

/-- A line that looks like an entry but does not end like one. -/
structure Warning where
  line : Nat
  /-- The line as it stands in the file. -/
  lineText : String
  /-- What is left of the line without its comment. -/
  remainder : String
  deriving DecidableEq, Repr

/-- What one line says. -/
inductive Reading where
  | nothing
  | assignment (assignment : Assignment)
  | malformed (warning : Warning)
  deriving DecidableEq, Repr

/-- The text between a key and its value. -/
def separator : List Char := [' ', '=', ' ']

/-- The character that ends an entry. -/
def terminator : Char := ';'

/-- Whether a character is dropped at the ends of a key or a value. -/
def isDelimiter (c : Char) : Bool :=
  c == ';' || c == '"'

/-- A trimmed line up to its first line comment. -/
def codeOf (trimmed : List Char) : List Char :=
  match breakOn? Comment.lineMarker trimmed with
  | some (before, _) => trim before
  | none => trimmed

/-- The assignment of a line of code, if it has exactly one separator. -/
def assignment? (number : Nat) (code : List Char) : Option Assignment :=
  match splitOn separator code with
  | [key, value] =>
      some ⟨String.ofList (stripEnds isDelimiter key),
        number, String.ofList (stripEnds isDelimiter value)⟩
  | _ => none

/-- What one line outside comments says. -/
def readLine (line : Line) : Reading :=
  let text := line.text.toList
  if Comment.isInert text then .nothing
  else
    let code := codeOf (trim text)
    if code.getLast? == some terminator then
      match assignment? line.number code with
      | some assignment => .assignment assignment
      | none => .nothing
    else if text.contains '"' then .malformed ⟨line.number, line.text, String.ofList code⟩
    else .nothing

/-- The assignments of lines outside comments. -/
def assignments (lines : List Line) : List Assignment :=
  lines.filterMap fun line =>
    match readLine line with
    | .assignment assignment => some assignment
    | _ => none

/-- The lines outside comments that look like an entry and are none. -/
def warnings (lines : List Line) : List Warning :=
  lines.filterMap fun line =>
    match readLine line with
    | .malformed warning => some warning
    | _ => none

/-- The database of a file, with what was odd about its lines. -/
structure Parsed where
  database : Database
  commentWarnings : List Comment.Warning
  entryWarnings : List Warning
  deriving DecidableEq

/--
Reads the content of a strings file. The file is named and located by `file`, its path below the
audited folder.
-/
def parse (content file suffix : String) (limit : Comment.Depth) : Parsed :=
  let stripped := Comment.stripContent limit content
  let folder := (LocaleFolder.ofPath? suffix ⟨file⟩).getD ⟨file, file⟩
  ⟨.ofAssignments folder.name folder.locale file (assignments stripped.lines),
    stripped.warnings, warnings stripped.lines⟩

end StringsFile
end StringsAudit
