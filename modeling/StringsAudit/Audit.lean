import StringsAudit.Check.Group
import StringsAudit.Check.Usage

/-!
# Audits

An audit runs rules over the groups and the used keys of a project.

## Main definitions

* `Rule` : the rules that can be selected.
* `Evidence` : what the rules look at.
* `Evidence.issues` : the findings of selected rules, and those made while loading.
-/

namespace StringsAudit

/-- The rules that can be selected. -/
inductive Rule where
  | duplicate
  | missing
  | identical
  | valueEqualsKey
  | placeholder
  | unused
  | ghost
  deriving DecidableEq, Repr

namespace Rule

/-- All rules, in the order in which they run by default. -/
def all : List Rule :=
  [.duplicate, .missing, .identical, .valueEqualsKey, .placeholder, .unused, .ghost]

/-- The name of a rule on the command line. -/
def name : Rule → String
  | .duplicate => "duplicate"
  | .missing => "missing"
  | .identical => "identical"
  | .valueEqualsKey => "value-equals-key"
  | .placeholder => "placeholder"
  | .unused => "unused"
  | .ghost => "ghost"

/-- The rule with a name. -/
def ofName? (name : String) : Option Rule :=
  all.find? fun rule => rule.name == name

end Rule

/-- What the rules look at. -/
structure Evidence where
  groups : List LocaleGroup
  usedKeys : UsedKeys
  placeholder : String
  /-- Findings made while the files were loaded. -/
  loadIssues : List Issue
  deriving DecidableEq

namespace Evidence

/-- The findings of one rule. -/
def issuesOf (evidence : Evidence) : Rule → List Issue
  | .duplicate => evidence.groups.flatMap Check.duplicates
  | .missing => evidence.groups.flatMap Check.missing
  | .identical => evidence.groups.flatMap Check.identical
  | .valueEqualsKey => evidence.groups.flatMap Check.valueEqualsKey
  | .placeholder => evidence.groups.flatMap (Check.placeholders evidence.placeholder)
  | .unused => Check.unused evidence.groups evidence.usedKeys
  | .ghost => Check.ghosts evidence.groups evidence.usedKeys

/-- The findings of the selected rules, one rule after the other, and those made while loading. -/
def issues (evidence : Evidence) (rules : List Rule) : List Issue :=
  rules.flatMap evidence.issuesOf ++ evidence.loadIssues

end Evidence
end StringsAudit
