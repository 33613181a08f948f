import StringsAudit.Text.WordTable

/-!
# Word characters

## Main definitions

* `isWord` : letters, marks, decimal digits, connecting punctuation and join controls.
* `isDecimalDigit` : the decimal digits of all scripts.
-/

namespace StringsAudit
namespace Text

/-- Whether a character can stand in a word. -/
def isWord (c : Char) : Bool :=
  wordRanges.has c.toNat

/-- Whether a character is a decimal digit of some script. -/
def isDecimalDigit (c : Char) : Bool :=
  decimalDigitRanges.has c.toNat

end Text
end StringsAudit
