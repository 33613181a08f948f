import StringsAudit.Dict
import StringsAudit.Location

/-!
# Used keys

The keys that source code refers to, with the places that refer to them.

## Main definitions

* `UsedKeys.insert` : one more reference to a key.
* `UsedKeys.extend` : the references of two collections together, each key's places in order.
-/

namespace StringsAudit

/-- The keys that source code refers to, with the places that refer to them. -/
structure UsedKeys where
  sites : Dict (List Site)
  deriving DecidableEq

namespace UsedKeys

/-- No references at all. -/
def empty : UsedKeys :=
  ⟨.empty⟩

/-- Sites are ordered by their locations. -/
def siteCmp (a b : Site) : Ordering :=
  Location.cmp a.location b.location

/-- One more reference to a key, after the others. -/
def insert (used : UsedKeys) (key : String) (site : Site) : UsedKeys :=
  ⟨used.sites.push key site⟩

/-- More references to a key, with all its places put in order. -/
def merge (used : UsedKeys) (key : String) (sites : List Site) : UsedKeys :=
  ⟨used.sites.update key fun old => sortBy siteCmp (old.getD [] ++ sites)⟩

/-- The references of two collections together. -/
def extend (used other : UsedKeys) : UsedKeys :=
  other.sites.pairs.foldl (fun used pair => used.merge pair.1 pair.2) used

/-- The collection of a list of references. -/
def ofList (uses : List (String × Site)) : UsedKeys :=
  uses.foldl (fun used use => used.insert use.1 use.2) empty

/-- Whether a key is referred to. -/
def contains (used : UsedKeys) (key : String) : Bool :=
  used.sites.contains key

/-- The keys referred to, in increasing order. -/
def keys (used : UsedKeys) : List String :=
  used.sites.keys

/-- The places that refer to a key. -/
def usages (used : UsedKeys) (key : String) : List Site :=
  (used.sites.find? key).getD []

/-- The number of keys referred to. -/
def size (used : UsedKeys) : Nat :=
  used.sites.size

end UsedKeys
end StringsAudit
