import StringsAudit.Glob
import StringsAudit.UsagePattern

/-!
# Compilers of patterns

An audit goes by patterns of two kinds, and has the text of each from its configuration. How these
texts are compiled is a parameter of all that goes by a configuration: a pattern is refused when a
configuration is validated, and read once more when a project is loaded.

## Main definitions

* `Compilers` : what compiles the texts of patterns.
* `Compilers.own` : the compilers that the program runs with.
* `UsagePattern.compile` : the usage pattern that a text describes, or why there is none.
-/

namespace StringsAudit

/-- What compiles the texts of patterns. -/
class Compilers where
  /-- Compiles a usage pattern. -/
  usage : String → Except Pattern.PatternError UsagePattern
  /-- Compiles a glob pattern. -/
  glob : String → Except GlobError Glob

/-- The compilers that the program runs with. -/
instance Compilers.own : Compilers where
  usage text := (Pattern.Regex.compile text).map UsagePattern.ofRegex
  glob := Glob.parse

/-- The usage pattern that a text describes; it needs a group for the key. -/
def UsagePattern.compile [Compilers] (text : String) : Except UsagePatternError UsagePattern :=
  match Compilers.usage text with
  | .error error => .error (.unreadable text error)
  | .ok pattern => if pattern.groups = 0 then .error (.noGroup text) else .ok pattern

end StringsAudit
