import StringsAudit.Files
import StringsAudit.Sorting

/-!
# A model of a file system

A tree of files and directories, and a current directory in it. Paths are resolved name by name:
what has a name after it must be a directory, and `..` leads to the directory above, which for the
top is the top itself.

## Main definitions

* `Node` : a file or a directory with all that it holds.
* `World` : a tree with a current directory.
* `World.resolve` : the names that lead from the top to what a path means.
* `World.files` : the world's answers to the questions of an audit.

## Main results

* `Node.find?_append` : a node is found name by name.
-/

namespace StringsAudit

/-- What a file holds. -/
inductive Content where
  | text (text : String)
  /-- Bytes that are not UTF-8. -/
  | binary
  deriving DecidableEq, Repr

/-- A file or a directory with all that it holds. -/
inductive Node where
  | file (content : Content)
  | directory (entries : List (String × Node))
  deriving Repr

namespace Node

/-- A directory that holds nothing. -/
def empty : Node :=
  directory []

/-- Whether a node is a file or a directory. -/
def kind : Node → FileKind
  | file _ => .file
  | directory _ => .directory

/-- The entry of a directory with a name. -/
def child? (name : String) : Node → Option Node
  | file _ => none
  | directory entries => entries.lookup name

/-- The node to which names lead. -/
def find? : Node → List String → Option Node
  | node, [] => some node
  | node, name :: rest => (node.child? name).bind fun child => child.find? rest

/-- Entries in which a name leads to another node, or to none any more. -/
def setEntry (name : String) (node? : Option Node) :
    List (String × Node) → List (String × Node)
  | [] =>
      match node? with
      | some node => [(name, node)]
      | none => []
  | (other, node) :: rest =>
      if other == name then
        match node? with
        | some node => (name, node) :: rest
        | none => rest
      else (other, node) :: setEntry name node? rest

/--
A node in which names lead to another node, or to none any more. Directories on the way that are
missing are made; a file on the way stays as it is.
-/
def set (node? : Option Node) : List String → Node → Node
  | [], node => node?.getD node
  | [name], directory entries => directory (setEntry name node? entries)
  | name :: rest, directory entries =>
      directory (setEntry name (some (set node? rest ((entries.lookup name).getD empty))) entries)
  | _, file content => file content

mutual

/-- The names that lead to each file below a node, in the order of the names. -/
def filePaths : Node → List (List String)
  | file _ => [[]]
  | directory entries =>
      (sortBy (compareOn (·.1)) (entryPaths entries)).flatMap fun (name, paths) =>
        paths.map (name :: ·)

/-- The names that lead to each file below each of some entries. -/
def entryPaths : List (String × Node) → List (String × List (List String))
  | [] => []
  | (name, node) :: rest => (name, node.filePaths) :: entryPaths rest

end

/-- A node is found name by name. -/
theorem find?_append
    (node : Node)
    (names more : List String) :
    node.find? (names ++ more) = (node.find? names).bind fun found => found.find? more := by
  induction names generalizing node with
  | nil => rfl
  | cons name rest ih =>
      simp only [List.cons_append, find?]
      cases node.child? name with
      | none => rfl
      | some child => simpa using ih child

end Node

/-- A tree of files and directories with a current directory. -/
structure World where
  top : Node
  /-- The names that lead to the current directory. -/
  current : List String
  deriving Repr

namespace World

/-- The greatest number of bytes of a name. -/
def maxName : Nat := 255

/-- The number of bytes that a path must stay below. -/
def maxPath : Nat := 4096

/-- The node to which names lead from the top. -/
def find? (world : World) (names : List String) : Option Node :=
  world.top.find? names

/-- Where one more segment leads from a directory. -/
def step (world : World) (names : List String) (segment : String) :
    Except FileError (List String) :=
  match world.find? names with
  | some (.directory _) =>
      if segment == "" || segment == "." then .ok names
      else if segment == ".." then .ok names.dropLast
      else if maxName < segment.utf8ByteSize then .error .nameTooLong
      else if (world.find? (names ++ [segment])).isSome then .ok (names ++ [segment])
      else .error .missing
  | some (.file _) => .error .notDirectory
  | none => .error .missing

/-- Where segments lead. -/
def follow (world : World) (names : List String) (segments : List String) :
    Except FileError (List String) :=
  segments.foldlM world.step names

/-- What makes a path unusable whatever the tree holds. -/
def pathFault? (path : Path) : Option FileError :=
  if path.text.toList.contains '\x00' then some .nullInPath
  else if path.text == "" then some .missing
  else if maxPath ≤ path.text.utf8ByteSize then some .nameTooLong
  else none

/-- Where the segments of a path start from. -/
def start (world : World) (path : Path) : List String :=
  if path.isAbsolute then [] else world.current

/-- The names that lead from the top to what a path means. -/
def resolve (world : World) (path : Path) : Except FileError (List String) :=
  match pathFault? path with
  | some error => .error error
  | none => world.follow (world.start path) path.segments

/-- What stands at a path. -/
def lookup (world : World) (path : Path) : Except FileError Node := do
  match world.find? (← world.resolve path) with
  | some node => pure node
  | none => throw .missing

/-- The text of a file. -/
def read (world : World) (path : Path) : Except FileError String := do
  match ← world.lookup path with
  | .file (.text text) => pure text
  | .file .binary => throw .notText
  | .directory _ => throw .isDirectory

/-- All that is met on a walk through what is below a path. -/
def walk (world : World) (path : Path) : List Visit :=
  match world.lookup path with
  | .ok node => node.filePaths.map .file
  | .error error => [.failure path error]

/-- The world in which a file has a content; its directory must be there. -/
def write (world : World) (path : Path) (content : Content) : Except FileError World := do
  if let some error := pathFault? path then throw error
  let segments := path.segments
  let directory ← world.follow (world.start path) segments.dropLast
  let name := segments.getLastD ""
  match world.step directory name with
  | .ok names =>
      match world.find? names with
      | some (.directory _) => throw .isDirectory
      | _ => pure { world with top := world.top.set (some (.file content)) names }
  | .error .missing =>
      pure { world with top := world.top.set (some (.file content)) (directory ++ [name]) }
  | .error error => throw error

/-- The world in which a directory is there, with all directories on the way. -/
def makeDirectory (world : World) (path : Path) : World :=
  let names := path.components.foldl
    (fun names component =>
      match component with
      | .root | .here => names
      | .up => names.dropLast
      | .name name => names ++ [name])
    (world.start path)
  if (world.find? names).isSome then world
  else { world with top := world.top.set (some .empty) names }

/-- The world in which nothing stands at a path. -/
def remove (world : World) (path : Path) : Except FileError World := do
  let names ← world.resolve path
  pure { world with top := world.top.set none names }

/-- The world seen from another current directory. -/
def enter (world : World) (path : Path) : Except FileError World := do
  let names ← world.resolve path
  match world.find? names with
  | some (.directory _) => pure { world with current := names }
  | _ => throw .notDirectory

/-- A world with one directory, which is the current one and holds nothing. -/
def fresh (name : String) : World :=
  ⟨.directory [(name, .empty)], [name]⟩

/-- The world's answers to the questions of an audit. -/
def files : Files (StateM World) where
  kind? path world :=
    match world.lookup path with
    | .ok node => (some node.kind, world)
    | .error _ => (none, world)
  read path world := (world.read path, world)
  write path text world :=
    match world.write path (.text text) with
    | .ok changed => (.ok (), changed)
    | .error error => (.error error, world)
  walk path world := (world.walk path, world)

end World
end StringsAudit
