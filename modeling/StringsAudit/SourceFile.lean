import StringsAudit.Comment
import StringsAudit.UsagePattern
import StringsAudit.UsedKeys

/-!
# Source files

Source code is searched for keys line by line, outside of comments.

## Main definitions

* `SourceFile.parse` : the keys that a source file refers to.
-/

namespace StringsAudit
namespace SourceFile

/-- The keys that a source file refers to, with what was odd about its comments. -/
structure Parsed where
  usedKeys : UsedKeys
  commentWarnings : List Comment.Warning
  deriving DecidableEq

/-- The references to keys on lines outside comments. -/
def uses (pattern : UsagePattern) (file : String) (lines : List Line) : List (String × Site) :=
  lines.flatMap (pattern.usesOn file)

/-- Reads the content of a source file, which is located by its path below the audited folder. -/
def parse (content file : String) (pattern : UsagePattern) (limit : Comment.Depth) : Parsed :=
  let stripped := Comment.stripContent limit content
  ⟨.ofList (uses pattern file stripped.lines), stripped.warnings⟩

end SourceFile
end StringsAudit
