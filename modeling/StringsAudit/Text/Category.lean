import StringsAudit.Text.CategoryTable
import StringsAudit.Text.WordTable

/-!
# General categories

## Main definitions

* `Category.named` : the general categories and their unions, by name.
* `Category.isUnprintable` : whether a character has no printed form of its own.
-/

namespace StringsAudit
namespace Text
namespace Category

/-- The letters that have a case. -/
def casedLetter : List Ranges :=
  [uppercaseLetterRanges, lowercaseLetterRanges, titlecaseLetterRanges]

/-- The letters. -/
def letter : List Ranges :=
  casedLetter ++ [modifierLetterRanges, otherLetterRanges]

/-- The combining marks. -/
def mark : List Ranges :=
  [nonspacingMarkRanges, spacingMarkRanges, enclosingMarkRanges]

/-- The numbers. -/
def number : List Ranges :=
  [decimalDigitRanges, letterNumberRanges, otherNumberRanges]

/-- The punctuation. -/
def punctuation : List Ranges :=
  [connectorPunctuationRanges, dashPunctuationRanges, openPunctuationRanges,
    closePunctuationRanges, initialPunctuationRanges, finalPunctuationRanges,
    otherPunctuationRanges]

/-- The symbols. -/
def symbol : List Ranges :=
  [mathSymbolRanges, currencySymbolRanges, modifierSymbolRanges, otherSymbolRanges]

/-- The separators. -/
def separator : List Ranges :=
  [spaceSeparatorRanges, lineSeparatorRanges, paragraphSeparatorRanges]

/-- Controls, formats, private use and unassigned code points. -/
def other : List Ranges :=
  [controlRanges, formatRanges, privateUseRanges, unassignedRanges]

/--
The general categories and their unions, each with its names in lower case and without
separators.
-/
def named : List (List String × List Ranges) :=
  [(["l", "letter"], letter),
   (["lc", "casedletter"], casedLetter),
   (["lu", "uppercaseletter"], [uppercaseLetterRanges]),
   (["ll", "lowercaseletter"], [lowercaseLetterRanges]),
   (["lt", "titlecaseletter"], [titlecaseLetterRanges]),
   (["lm", "modifierletter"], [modifierLetterRanges]),
   (["lo", "otherletter"], [otherLetterRanges]),
   (["m", "mark", "combiningmark"], mark),
   (["mn", "nonspacingmark"], [nonspacingMarkRanges]),
   (["mc", "spacingmark"], [spacingMarkRanges]),
   (["me", "enclosingmark"], [enclosingMarkRanges]),
   (["n", "number"], number),
   (["nd", "decimalnumber", "digit"], [decimalDigitRanges]),
   (["nl", "letternumber"], [letterNumberRanges]),
   (["no", "othernumber"], [otherNumberRanges]),
   (["p", "punctuation", "punct"], punctuation),
   (["pc", "connectorpunctuation"], [connectorPunctuationRanges]),
   (["pd", "dashpunctuation"], [dashPunctuationRanges]),
   (["ps", "openpunctuation"], [openPunctuationRanges]),
   (["pe", "closepunctuation"], [closePunctuationRanges]),
   (["pi", "initialpunctuation"], [initialPunctuationRanges]),
   (["pf", "finalpunctuation"], [finalPunctuationRanges]),
   (["po", "otherpunctuation"], [otherPunctuationRanges]),
   (["s", "symbol"], symbol),
   (["sm", "mathsymbol"], [mathSymbolRanges]),
   (["sc", "currencysymbol"], [currencySymbolRanges]),
   (["sk", "modifiersymbol"], [modifierSymbolRanges]),
   (["so", "othersymbol"], [otherSymbolRanges]),
   (["z", "separator"], separator),
   (["zs", "spaceseparator"], [spaceSeparatorRanges]),
   (["zl", "lineseparator"], [lineSeparatorRanges]),
   (["zp", "paragraphseparator"], [paragraphSeparatorRanges]),
   (["c", "other"], other),
   (["cc", "control", "cntrl"], [controlRanges]),
   (["cf", "format"], [formatRanges]),
   (["co", "privateuse"], [privateUseRanges]),
   (["cn", "unassigned"], [unassignedRanges])]

/-- Whether a character is a separator or one of the others that have no printed form. -/
def isUnprintable (c : Char) : Bool :=
  c != ' ' && (separator ++ other).any (·.has c.toNat)

end Category
end Text
end StringsAudit
