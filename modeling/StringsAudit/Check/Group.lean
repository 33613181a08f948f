import StringsAudit.Issue
import StringsAudit.LocaleGroup
import StringsAudit.Text.Substring

/-!
# Checks within a locale group

## Main definitions

* `Check.duplicates` : keys assigned more than once in a file.
* `Check.missing` : keys that some database of the group lacks.
* `Check.identical` : values shared by several databases.
* `Check.valueEqualsKey` : values that are their key.
* `Check.placeholders` : values whose number of placeholders differs from the baseline.
-/

namespace StringsAudit
namespace Check

/-- Definitions are ordered by location, then by key. -/
def definitionCmp : Definition → Definition → Ordering :=
  compareLex (fun a b => Location.cmp a.location b.location) (compareOn (·.key))

/-- A counted key of a database, with its definition. -/
structure CountedKey where
  definition : Definition
  database : String
  count : Nat
  deriving DecidableEq, Repr

/--
The keys that databases assign more than once, where `counted` lists the counts of a database in
any order; the result does not depend on it.
-/
def duplicateKeys (counted : Database → List (String × Nat)) (group : LocaleGroup) :
    List CountedKey :=
  sortBy (fun a b => definitionCmp a.definition b.definition) <|
    group.databases.flatMap fun db =>
      ((counted db).filter fun pair => 1 < pair.2).map fun pair =>
        ⟨db.definitionOf pair.1, db.name, pair.2⟩

/-- Keys assigned more than once in a file. -/
def duplicates (group : LocaleGroup) : List Issue :=
  (duplicateKeys (·.counts.pairs) group).map fun key =>
    .duplicateKey key.definition key.database key.count

/-- The names of the databases of a group that define a key. -/
def definers (group : LocaleGroup) (key : String) : List String :=
  (group.databases.filter (·.defines key)).map (·.name)

/-- Keys that some database of the group lacks, database by database. -/
def missing (group : LocaleGroup) : List Issue :=
  group.databases.flatMap fun db =>
    (group.allKeys.filter fun key => !db.defines key).map fun key =>
      .missingKey key db.name db.file (definers group key)

/-- The databases of a group that define a key, by the value they give it. -/
def byValue (group : LocaleGroup) (key : String) : Dict (List Database) :=
  group.databases.foldl
    (fun dict db =>
      match db.value? key with
      | some value => dict.push value db
      | none => dict)
    .empty

/-- Values that several databases share, one finding for each key and value. -/
def identical (group : LocaleGroup) : List Issue :=
  group.allKeys.flatMap fun key =>
    (byValue group key).pairs.filterMap fun (value, databases) =>
      match databases with
      | first :: _ :: _ =>
          some (.identicalValue ⟨first.locationOf key, key, value⟩
            (databases.map (·.name)))
      | _ => none

/--
The entries whose value is their key, where `listed` lists the entries of a database in any
order; the result does not depend on it.
-/
def untranslated (listed : Database → List (String × Entry)) (group : LocaleGroup) :
    List (Definition × String) :=
  sortBy (fun a b => definitionCmp a.1 b.1) <|
    group.databases.flatMap fun db =>
      ((listed db).filter fun pair => pair.1 == pair.2.value).map fun pair =>
        (⟨db.locationOf pair.1, pair.1, pair.2.value⟩, db.name)

/-- Values that are their key. -/
def valueEqualsKey (group : LocaleGroup) : List Issue :=
  (untranslated (·.entries.pairs) group).map fun found => .valueEqualsKey found.1 found.2

/-- How often the placeholder occurs in the value of a key; not at all if there is none. -/
def placeholderCount (placeholder : String) (db : Database) (key : String) : Nat :=
  match db.value? key with
  | some value => Text.occurrences placeholder.toList value.toList
  | none => 0

/-- The finding about one key of one database, if its count is not that of the baseline. -/
def placeholderIssue? (placeholder : String) (baseline db : Database) (key : String) :
    Option Issue :=
  let expected := placeholderCount placeholder baseline key
  let actual := placeholderCount placeholder db key
  if actual == expected then none
  else some (.placeholderMismatch (db.definitionOf key) placeholder
    ⟨baseline.name, expected⟩ ⟨db.name, actual⟩)

/-- Values whose number of placeholders differs from that of the first database. -/
def placeholders (placeholder : String) (group : LocaleGroup) : List Issue :=
  match group.databases with
  | [] => []
  | baseline :: others =>
      group.allKeys.flatMap fun key =>
        others.filterMap fun db => placeholderIssue? placeholder baseline db key

end Check
end StringsAudit
