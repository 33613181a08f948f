import StringsAudit.Pattern.CharSet
import StringsAudit.Text.Category
import StringsAudit.Text.EmojiTable
import StringsAudit.Text.ExtendTable
import StringsAudit.Text.LetterTable
import StringsAudit.Text.PropertyTable

/-!
# Properties by name

Characters have properties beside their category and their script: they are alphabetic, change
with case, end a sentence. Most of the sets below are tables of the Unicode standard; those that the
standard derives are put together here from its categories and from what it lists in addition.

The segmentation properties and those whose only use is to derive others have no name here.

## Main definitions

* `CharSet.namedProperties` : the properties with their long and their short names.
-/

namespace StringsAudit
namespace Pattern
namespace CharSet

open Text
open Text.Property

/-- The characters of some tables. -/
def listed (tables : List Ranges) : CharSet :=
  property (.listed tables)

/-- The characters with the code points of a range. -/
def codePoints (first last : Nat) : CharSet :=
  listed [[(first, last)]]

/-- The characters of one set that are not in another. -/
def without (a b : CharSet) : CharSet :=
  inter a (compl b)

/-- The ASCII characters. -/
def ascii : CharSet :=
  range '\x00' '\x7F'

/-- The decimal digits of ASCII. -/
def asciiDigit : CharSet :=
  range '0' '9'

/-- The hexadecimal digits of ASCII. -/
def asciiHexDigit : CharSet :=
  union asciiDigit (union (range 'A' 'F') (range 'a' 'f'))

section Casing

/-- The characters with a case. -/
def cased : CharSet :=
  listed [lowercaseRanges, uppercaseRanges, Category.titlecaseLetterRanges]

/-- The characters that case passes over. -/
def caseIgnorable : CharSet :=
  listed [Category.nonspacingMarkRanges, Category.enclosingMarkRanges, Category.formatRanges,
    Category.modifierLetterRanges, Category.modifierSymbolRanges, caselessMarkRanges]

/-- The characters of some tables that a change of case changes. -/
def changedAmong (tables : List Ranges) : CharSet :=
  inter (listed [caseMappedRanges]) (listed tables)

/-- The characters that are not their own lowercase form. -/
def changedByLowercase : CharSet :=
  changedAmong [uppercaseRanges, Category.titlecaseLetterRanges]

/-- The characters that are not their own uppercase form. -/
def changedByUppercase : CharSet :=
  changedAmong
    [lowercaseRanges, Category.titlecaseLetterRanges, Category.nonspacingMarkRanges]

/-- The characters that are not their own titlecase form. -/
def changedByTitlecase : CharSet :=
  without
    (union (changedAmong [lowercaseRanges, Category.nonspacingMarkRanges])
      (listed [titlecasedDigraphRanges]))
    (listed [untitledLowercaseRanges])

/-- The characters that case folding changes. -/
def changedByCasefolding : CharSet :=
  without (union changedByLowercase (listed [foldedLowercaseRanges]))
    (listed [unfoldedUppercaseRanges])

end Casing

section Identifiers

/-- The characters with which an identifier starts. -/
def identifierStart : CharSet :=
  union
    (without (listed (Category.letterNumberRanges :: Category.letter)) (codePoints 0x2E2F 0x2E2F))
    (listed [otherStartRanges])

/-- The characters with which an identifier starts or goes on. -/
def identifierPart : CharSet :=
  union identifierStart
    (listed [Category.nonspacingMarkRanges, Category.spacingMarkRanges, decimalDigitRanges,
      Category.connectorPunctuationRanges, otherContinueRanges])

/-- The starts of identifiers that normalization keeps. -/
def stableIdentifierStart : CharSet :=
  without identifierStart (listed [unstableStartRanges])

/-- The parts of identifiers that normalization keeps. -/
def stableIdentifierPart : CharSet :=
  without identifierPart (listed [unstableContinueRanges])

end Identifiers

section Emoji

/-- The letters that stand for regions, two of which are a flag. -/
def regionalIndicator : CharSet :=
  codePoints 0x1F1E6 0x1F1FF

/-- The skin tones. -/
def emojiModifier : CharSet :=
  codePoints 0x1F3FB 0x1F3FF

/-- The emoji that are shown as such by default. -/
def emojiPresentation : CharSet :=
  union (listed [emojiRanges]) (union regionalIndicator emojiModifier)

/-- The emoji. -/
def emoji : CharSet :=
  union emojiPresentation (listed [emojiVariationRanges])

/-- The pictographs, those that are still to come included. -/
def pictograph : CharSet :=
  union
    (without emoji
      (unionAll [single '#', single '*', asciiDigit, regionalIndicator, emojiModifier]))
    (listed [reservedPictographRanges])

end Emoji

/-- The characters that begin what a reader takes for one character. -/
def graphemeBase : CharSet :=
  compl (listed [Category.controlRanges, Category.formatRanges, Category.privateUseRanges,
    Category.unassignedRanges, Category.lineSeparatorRanges, Category.paragraphSeparatorRanges,
    graphemeExtendRanges])

/-- The properties that are no general category and no script, by name. -/
def namedProperties : List (List String × CharSet) :=
  [(["asciihexdigit", "ahex"], asciiHexDigit),
   (["alphabetic", "alpha"], listed [alphabeticRanges]),
   (["bidicontrol", "bidic"], listed [bidiControlRanges]),
   (["cased"], cased),
   (["caseignorable", "ci"], caseIgnorable),
   (["changeswhencasefolded", "cwcf"], changedByCasefolding),
   (["changeswhencasemapped", "cwcm"], listed [caseMappedRanges]),
   (["changeswhenlowercased", "cwl"], changedByLowercase),
   (["changeswhentitlecased", "cwt"], changedByTitlecase),
   (["changeswhenuppercased", "cwu"], changedByUppercase),
   (["dash"], listed [dashRanges]),
   (["defaultignorablecodepoint", "di"], listed [defaultIgnorableRanges]),
   (["deprecated", "dep"], listed [deprecatedRanges]),
   (["diacritic", "dia"], listed [diacriticRanges]),
   (["emoji"], emoji),
   (["emojicomponent", "ecomp"], listed [emojiComponentRanges]),
   (["emojimodifier", "emod"], emojiModifier),
   (["emojimodifierbase", "ebase"], listed [emojiModifierBaseRanges]),
   (["emojipresentation", "epres"], emojiPresentation),
   (["extendedpictographic", "extpict"], pictograph),
   (["extender", "ext"], listed [extenderRanges]),
   (["graphemebase", "grbase"], graphemeBase),
   (["graphemeextend", "grext"], listed [graphemeExtendRanges]),
   (["hexdigit", "hex"], listed [hexDigitRanges]),
   (["hyphen"], listed [hyphenRanges]),
   (["idcontinue", "idc"], identifierPart),
   (["idstart", "ids"], identifierStart),
   (["ideographic", "ideo"], listed [ideographicRanges]),
   (["idsbinaryoperator", "idsb"],
    listed [[(0x2FF0, 0x2FF1), (0x2FF4, 0x2FFD), (0x31EF, 0x31EF)]]),
   (["idstrinaryoperator", "idst"], codePoints 0x2FF2 0x2FF3),
   (["idsunaryoperator", "idsu"], codePoints 0x2FFE 0x2FFF),
   (["joincontrol", "joinc"], codePoints 0x200C 0x200D),
   (["logicalorderexception", "loe"], listed [logicalOrderExceptionRanges]),
   (["lowercase", "lower"], listed [lowercaseRanges]),
   (["math"], listed [Category.mathSymbolRanges, otherMathRanges]),
   (["noncharactercodepoint", "nchar"], listed [noncharacterRanges]),
   (["patternsyntax", "patsyn"], listed [patternSyntaxRanges]),
   (["patternwhitespace", "patws"], listed [patternSpaceRanges]),
   (["prependedconcatenationmark", "pcm"], listed [prependedMarkRanges]),
   (["quotationmark", "qmark"], listed [quotationMarkRanges]),
   (["radical"], listed [radicalRanges]),
   (["regionalindicator", "ri"], regionalIndicator),
   (["sentenceterminal", "sterm"], listed [sentenceTerminalRanges]),
   (["softdotted", "sd"], listed [softDottedRanges]),
   (["terminalpunctuation", "term"], listed [terminalPunctuationRanges]),
   (["unifiedideograph", "uideo"], listed [unifiedIdeographRanges]),
   (["uppercase", "upper"], listed [uppercaseRanges]),
   (["variationselector", "vs"], listed [variationSelectorRanges]),
   (["whitespace", "wspace", "space"], property .blank),
   (["xidcontinue", "xidc"], stableIdentifierPart),
   (["xidstart", "xids"], stableIdentifierStart)]

end CharSet
end Pattern
end StringsAudit
