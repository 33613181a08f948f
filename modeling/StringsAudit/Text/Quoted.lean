import StringsAudit.Text.Category
import StringsAudit.Text.ExtendTable

/-!
# Quoted text

A path in a message stands between double quotes, with everything escaped that could not be told
apart on a terminal.

## Main definitions

* `escapeChar` : how one character is written between the quotes.
* `quoted` : a text between quotes.
-/

namespace StringsAudit
namespace Text

/-- Whether a character is shown as it is: it can be printed and stands on its own. -/
def isShown (c : Char) : Bool :=
  !graphemeExtendRanges.has c.toNat && !Category.isUnprintable c

/-- The lower-case hexadecimal digits of a number. -/
def hexDigits (n : Nat) : List Char :=
  Nat.toDigits 16 n

/-- How one character is written between the quotes. -/
def escapeChar (c : Char) : List Char :=
  if c == '\x00' then ['\\', '0']
  else if c == '\t' then ['\\', 't']
  else if c == '\r' then ['\\', 'r']
  else if c == '\n' then ['\\', 'n']
  else if c == '"' then ['\\', '"']
  else if c == '\\' then ['\\', '\\']
  else if isShown c then [c]
  else ['\\', 'u', '\x7b'] ++ hexDigits c.toNat ++ ['\x7d']

/-- A text between quotes. -/
def quoted (text : String) : String :=
  String.ofList (['"'] ++ text.toList.flatMap escapeChar ++ ['"'])

end Text
end StringsAudit
