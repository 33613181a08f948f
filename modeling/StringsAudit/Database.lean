import StringsAudit.Dict
import StringsAudit.Location

/-!
# Databases

A database holds what one strings file defines: the last value assigned to each key, and how often
each key was assigned.

## Main definitions

* `Entry` : a value with the line that assigns it.
* `Assignment` : a line that gives a key a value.
* `Database` : the entries of one strings file.
* `Database.assign` : a database after one more assignment.
-/

namespace StringsAudit

/-- A value with the number of the line that assigns it. -/
structure Entry where
  line : Nat
  value : String
  deriving DecidableEq, Repr

/-- A line that gives a key a value. -/
structure Assignment where
  key : String
  entry : Entry
  deriving DecidableEq, Repr

/-- The entries of one strings file. -/
structure Database where
  /-- The locale folder of the file, with the folder that holds it. -/
  name : String
  locale : String
  file : String
  /-- The last value assigned to each key. -/
  entries : Dict Entry
  /-- How often each key was assigned. -/
  counts : Dict Nat
  deriving DecidableEq

namespace Database

/-- The entry of a key. -/
def find? (db : Database) (key : String) : Option Entry :=
  db.entries.find? key

/-- The value of a key. -/
def value? (db : Database) (key : String) : Option String :=
  (db.find? key).map (·.value)

/-- Whether a key has an entry. -/
def defines (db : Database) (key : String) : Bool :=
  db.entries.contains key

/-- The keys that have an entry, in increasing order. -/
def keys (db : Database) : List String :=
  db.entries.keys

/-- How often a key was assigned. -/
def count (db : Database) (key : String) : Nat :=
  (db.counts.find? key).getD 0

/-- The number of entries. -/
def size (db : Database) : Nat :=
  db.entries.size

/-- The place of the entry of a key, or the file as a whole if there is none. -/
def locationOf (db : Database) (key : String) : Location :=
  match db.find? key with
  | some entry => .ofLine db.file entry.line
  | none => .ofFile db.file

/-- A key with its place and its value, which is empty if there is none. -/
def definitionOf (db : Database) (key : String) : Definition :=
  ⟨db.locationOf key, key, (db.value? key).getD ""⟩

/-- A database after one more assignment: the entry is replaced, and the assignment counted. -/
def assign (db : Database) (assignment : Assignment) : Database :=
  { db with
    entries := db.entries.insert assignment.key assignment.entry
    counts := db.counts.update assignment.key fun old => old.getD 0 + 1 }

/-- The database of a file with given assignments, in the order of its lines. -/
def ofAssignments (name locale file : String) (assignments : List Assignment) : Database :=
  assignments.foldl assign ⟨name, locale, file, .empty, .empty⟩

end Database
end StringsAudit
