import StringsAudit.Text.Quoted

/-!
# Writing JSON

## Main definitions

* `Json.quote` : a string as JSON.
* `Json.prettyArray`, `Json.prettyObject` : arrays and objects with one element on a line.
-/

namespace StringsAudit
namespace Json

/-- How one character is written in a string. -/
def quoteChar (c : Char) : List Char :=
  if c == '"' then ['\\', '"']
  else if c == '\\' then ['\\', '\\']
  else if c == '\x08' then ['\\', 'b']
  else if c == '\x0C' then ['\\', 'f']
  else if c == '\n' then ['\\', 'n']
  else if c == '\r' then ['\\', 'r']
  else if c == '\t' then ['\\', 't']
  else if c < ' ' then
    let digits := Text.hexDigits c.toNat
    ['\\', 'u'] ++ List.replicate (4 - digits.length) '0' ++ digits
  else [c]

/-- A string as JSON. -/
def quote (text : String) : String :=
  String.ofList (['"'] ++ text.toList.flatMap quoteChar ++ ['"'])

/-- Two spaces for each level. -/
def indent (level : Nat) : String :=
  String.ofList (List.replicate (2 * level) ' ')

/-- Elements between brackets, each on a line of its own. -/
def block (opening closing : String) (level : Nat) (elements : List String) : String :=
  if elements.isEmpty then opening ++ closing
  else
    let inner := indent (level + 1)
    opening ++ "\n" ++ ",\n".intercalate (elements.map (inner ++ ·)) ++ "\n"
      ++ indent level ++ closing

/-- An array of values already written. -/
def prettyArray (level : Nat) (elements : List String) : String :=
  block "[" "]" level elements

/-- An object of fields whose values are already written. -/
def prettyObject (level : Nat) (fields : List (String × String)) : String :=
  block "\x7b" "\x7d" level (fields.map fun (key, value) => quote key ++ ": " ++ value)

end Json
end StringsAudit
