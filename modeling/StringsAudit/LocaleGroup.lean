import StringsAudit.Database

/-!
# Locale groups

A group holds one strings table in all its languages: one database for each locale folder. The
first database is the baseline that the others are compared with.

## Main definitions

* `LocaleGroup.withPrimary` : a group with the databases of the primary locale first.
* `LocaleGroup.allKeys` : the keys that some database of a group defines.
* `projectKeys` : the keys that some group defines.

## Main results

* `LocaleGroup.perm_withPrimary` : a group with a primary locale holds the databases given.
-/

namespace StringsAudit

/-- One strings table in all its languages. -/
structure LocaleGroup where
  name : String
  databases : List Database
  deriving DecidableEq

namespace LocaleGroup

/-- Databases of the primary locale come first; otherwise the name decides. -/
def databaseCmp (primary : String) : Database → Database → Ordering :=
  compareLex (compareOn (·.locale != primary)) (compareOn (·.name))

/-- A group with the databases of the primary locale first and the rest sorted by name. -/
def withPrimary (name : String) (databases : List Database) (primary : String) : LocaleGroup :=
  ⟨name, sortBy (databaseCmp primary) databases⟩

/-- The keys that some database of a group defines, in increasing order. -/
def allKeys (group : LocaleGroup) : List String :=
  Dict.sortedKeys (group.databases.flatMap (·.keys))

/-- The database that the others are compared with. -/
def baseline? (group : LocaleGroup) : Option Database :=
  group.databases.head?

/-- A group with a primary locale holds the databases given. -/
theorem perm_withPrimary
    (name : String)
    (databases : List Database)
    (primary : String) :
    (withPrimary name databases primary).databases.Perm databases :=
  perm_sortBy _ _

end LocaleGroup

/-- The keys that some group defines, in increasing order. -/
def projectKeys (groups : List LocaleGroup) : List String :=
  Dict.sortedKeys (groups.flatMap (·.allKeys))

end StringsAudit
