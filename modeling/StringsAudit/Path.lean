import StringsAudit.Text.Quoted
import StringsAudit.Text.Substring

/-!
# Paths

A path is kept and shown as it was written or joined; it is never normalised. Its components are
read from the text: empty segments count for nothing, and neither does a segment `.` unless the
path begins with it.

## Main definitions

* `Path.join` : a path taken relative to another.
* `Path.components` : the meaningful components of a path.
* `Path.parent?` : a path without its last component.
* `Path.extension?` : what follows the last point of a file name.
-/

namespace StringsAudit

/-- A path as it was written. -/
structure Path where
  text : String
  deriving DecidableEq, Repr, Inhabited

namespace Path

/-- A meaningful component of a path. -/
inductive Component where
  | root
  | here
  | up
  | name (text : String)
  deriving DecidableEq, Repr

/-- A path between quotes, for a message. -/
def quoted (path : Path) : String :=
  Text.quoted path.text

/-- Whether a path starts at the root. -/
def isAbsolute (path : Path) : Bool :=
  path.text.toList.head? == some '/'

/-- Whether a path can be extended without a separator. -/
def endsOpen (path : Path) : Bool :=
  match path.text.toList.getLast? with
  | none => true
  | some c => c == '/'

/-- A path taken relative to another; an absolute one stands for itself. -/
def join (base path : Path) : Path :=
  if path.isAbsolute then path
  else if base.endsOpen then ⟨base.text ++ path.text⟩
  else ⟨base.text ++ "/" ++ path.text⟩

/-- A file or directory of a directory. -/
def child (base : Path) (name : String) : Path :=
  base.join ⟨name⟩

/-- The texts between the separators of a path. -/
def segmentsOf (text : String) : List String :=
  (Text.splitOn ['/'] text.toList).map String.ofList

/-- The segments of a path. -/
def segments (path : Path) : List String :=
  segmentsOf path.text

/-- The component that a segment inside a path stands for. -/
def componentOf? (segment : String) : Option Component :=
  if segment == "" || segment == "." then none
  else if segment == ".." then some .up
  else some (.name segment)

/-- How a path begins, and the segments after its beginning. -/
def beginning (path : Path) : Option Component × List String :=
  match path.segments with
  | [] => (none, [])
  | first :: rest =>
      if path.isAbsolute then (some .root, rest)
      else if first == "." then (some .here, rest)
      else (none, first :: rest)

/-- The meaningful components of a path. -/
def components (path : Path) : List Component :=
  let (start, rest) := path.beginning
  start.toList ++ rest.filterMap componentOf?

/-- The names among the components of a path. -/
def names (path : Path) : List String :=
  path.components.filterMap fun
    | .name text => some text
    | _ => none

/-- Segments without the trailing ones that stand for no component. -/
def dropTrailing (segments : List String) : List String :=
  (segments.reverse.dropWhile fun segment => (componentOf? segment).isNone).reverse

/-- The path with a beginning and the segments after it. -/
def ofBeginning (start : Option Component) (rest : List String) : Path :=
  let body := "/".intercalate rest
  match start with
  | some .root => ⟨"/" ++ body⟩
  | some .here => if rest.isEmpty then ⟨"."⟩ else ⟨"./" ++ body⟩
  | _ => ⟨body⟩

/-- A path without its last component; a root and an empty path have none to lose. -/
def parent? (path : Path) : Option Path :=
  let (start, rest) := path.beginning
  match dropTrailing rest with
  | [] => if start == some .here then some ⟨""⟩ else none
  | first :: more => some (ofBeginning start (dropTrailing (first :: more).dropLast))

/-- What follows the last point of a file name, unless the name starts with that point. -/
def extension? (name : String) : Option String :=
  let reversed := name.toList.reverse
  let last := reversed.takeWhile (· != '.')
  match reversed.drop last.length with
  | [] => none
  | _ :: before => if before.isEmpty then none else some (String.ofList last.reverse)

/-- The extension of the file that a path names. -/
def fileExtension? (path : Path) : Option String :=
  match path.components.getLast? with
  | some (.name text) => extension? text
  | _ => none

end Path
end StringsAudit
