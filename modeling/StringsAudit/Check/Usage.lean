import StringsAudit.Issue
import StringsAudit.LocaleGroup
import StringsAudit.UsedKeys

/-!
# Checks between strings files and sources

## Main definitions

* `Check.unused` : keys that no source refers to.
* `Check.ghosts` : keys that sources refer to and no strings file defines.
-/

namespace StringsAudit
namespace Check

/-- The databases that define a key, in the order of the groups and of their databases. -/
def definingDatabases (groups : List LocaleGroup) (key : String) : List Database :=
  (groups.flatMap (·.databases)).filter (·.defines key)

/-- Keys that no source refers to, each at its first definition. -/
def unused (groups : List LocaleGroup) (used : UsedKeys) : List Issue :=
  ((projectKeys groups).filter fun key => !used.contains key).filterMap fun key =>
    match definingDatabases groups key with
    | [] => none
    | first :: others => some (.unusedKey (first.definitionOf key) (others.length + 1))

/-- Keys that sources refer to and no strings file defines, with all the places. -/
def ghosts (groups : List LocaleGroup) (used : UsedKeys) : List Issue :=
  (used.keys.filter fun key => !(projectKeys groups).contains key).filterMap fun key =>
    match used.usages key with
    | [] => none
    | first :: others => some (.ghostKey key first others)

end Check
end StringsAudit
