import StringsAudit.Text.EmojiTable
import StringsAudit.Text.WidthTable

/-!
# Widths on a terminal

The columns that a text takes on a terminal. Most characters take a fixed number of columns, but
emoji sequences and the ligatures of some scripts are shown as one sign. They are recognised from
right to left: each character is measured in view of what stands to its right.

## Main definitions

* `Ahead` : what stands to the right of a position, as far as it matters.
* `widthOfChar` : the columns of a character by itself.
* `measure` : the columns that a character adds in view of what stands to its right.
* `width` : the columns of a text.

## Main results

* `width_of_isPrintableAscii` : printable ASCII characters take one column each.
-/

namespace StringsAudit
namespace Text

/-- Whether a number lies between two others, both included. -/
def within (first last n : Nat) : Bool :=
  first ≤ n && n ≤ last

/-- The right part of a ligature, which some character to its left may complete. -/
inductive Ligature where
  | alef
  | lamed
  | bugineseYa
  | bugineseVowelYa
  | tifinagh
  | tifinaghJoiner
  | lisuTone
  | orkhonI
  | khmerLetter
  deriving DecidableEq, Repr

/-- The right part of an emoji sequence, which some character to its left may complete. -/
inductive EmojiTail where
  /-- A skin tone. -/
  | tone
  /-- A flag letter after a character that is none. -/
  | flagLetter
  /-- A flag letter before others. -/
  | flagLetters
  | emoji
  /-- A joiner before an emoji. -/
  | joiner
  /-- A keycap before a joiner. -/
  | keycap
  /-- Flag letters before a joiner. -/
  | joinedFlagLetter
  | joinedEvenFlagLetters
  | joinedOddFlagLetters
  /-- The end of a tag sequence before a joiner, with the letters read of it. -/
  | tagLetters (count : Nat)
  /-- The end of a tag sequence before a joiner, with the digits read in front of its letters. -/
  | tagDigits (count : Nat)
  deriving DecidableEq, Repr

/-- What stands to the right of a position, as far as it matters. -/
inductive Ahead where
  | plain
  | lineFeed
  | emojiTail (tail : EmojiTail)
  | ligature (part : Ligature) (joined : Bool)
  | kiratRaiE
  | kiratRaiAi
  deriving DecidableEq, Repr

/-- A variation selector that stands directly to the right. -/
inductive Selector where
  | none
  | emoji
  | text
  deriving DecidableEq, Repr

/-- What stands to the right of a position, behind a variation selector if there is one. -/
structure Context where
  ahead : Ahead
  selector : Selector
  deriving DecidableEq, Repr

/-- The context of a text's last character. -/
def Context.start : Context :=
  ⟨.plain, .none⟩

/-- A context without variation selector. -/
def Context.of (ahead : Ahead) : Context :=
  ⟨ahead, .none⟩

/-- Whether variation selectors may stand inside what is ahead. -/
def Ahead.isLigature : Ahead → Bool
  | ligature .. => true
  | _ => false

/-- Whether an emoji that stands to the left is joined to what is ahead. -/
def Ahead.isJoined : Ahead → Bool
  | emojiTail .joiner | emojiTail .keycap => true
  | _ => false

/-- A variation selector hides what is ahead, except the inside of a ligature or joined emoji. -/
def Context.select (context : Context) (selector : Selector) : Context :=
  if context.ahead.isLigature || (selector == .emoji && context.ahead.isJoined) then
    ⟨context.ahead, selector⟩
  else ⟨.plain, selector⟩

/-- What is ahead when a variation selector has no effect. -/
def Context.unselected (context : Context) : Ahead :=
  if context.selector == .none || context.ahead.isLigature then context.ahead else .plain

/-- Whether a character is an Arabic Lam of some kind. -/
def isLam (n : Nat) : Bool :=
  n == 0x644 || within 0x6B5 0x6B8 n || n == 0x76A || n == 0x8A6 || n == 0x8C7

/-- Whether a character is an Arabic Alef of some kind. -/
def isAlef (n : Nat) : Bool :=
  within 0x622 0x623 n || n == 0x625 || n == 0x627 || within 0x671 0x673 n || n == 0x675
    || within 0x773 0x774 n || within 0x870 0x882 n

/-- Whether a character can stand inside an Arabic ligature. -/
def isJoinTransparent (n : Nat) : Bool :=
  zeroWidthRanges.has n && !nonJoiningRanges.has n

/-- Whether a character is an invisible mark that can stand inside a ligature. -/
def isInvisibleMark (n : Nat) : Bool :=
  n == 0x34F || within 0x17B4 0x17B5 n || within 0x180B 0x180D n || n == 0x180F
    || within 0xFE00 0xFE0F n || within 0xE0100 0xE01EF n

/-- Whether a character is a Tifinagh consonant. -/
def isTifinaghConsonant (n : Nat) : Bool :=
  within 0x2D31 0x2D65 n || n == 0x2D6F

/-- Whether a character is a Khmer letter with a form below the line. -/
def isKhmerCoengLetter (n : Nat) : Bool :=
  within 0x1780 0x1782 n || within 0x1784 0x1787 n || within 0x1789 0x178C n
    || within 0x178E 0x1793 n || within 0x1795 0x1798 n || within 0x179B 0x179D n || n == 0x17A0
    || n == 0x17A2 || n == 0x17A7 || within 0x17AB 0x17AC n || n == 0x17AF

/-- Whether a character is one of the letters that flags are made of. -/
def isFlagLetter (n : Nat) : Bool :=
  within 0x1F1E6 0x1F1FF n

/-- Whether a character is a skin tone. -/
def isSkinTone (n : Nat) : Bool :=
  within 0x1F3FB 0x1F3FF n

/--
Whether a variation selector turns a wide emoji into narrow text; squared ideographs stay wide.
-/
def hasTextForm (n : Nat) : Bool :=
  emojiVariationRanges.has n && emojiRanges.has n && !within 0x1F200 0x1F2FF n

/-- What a character is to the characters on its left. -/
def aheadOf (n : Nat) : Ahead :=
  if n == 0xA then .lineFeed
  else if n == 0x5DC then .ligature .lamed false
  else if isAlef n then .ligature .alef false
  else if isKhmerCoengLetter n then .ligature .khmerLetter false
  else if n == 0x1A10 then .ligature .bugineseYa false
  else if isTifinaghConsonant n then .ligature .tifinagh false
  else if within 0xA4FC 0xA4FD n then .ligature .lisuTone false
  else if n == 0x10C03 then .ligature .orkhonI false
  else if n == 0x16D67 then .kiratRaiE
  else if n == 0x16D68 then .kiratRaiAi
  else if isFlagLetter n then .emojiTail .flagLetter
  else if isSkinTone n then .emojiTail .tone
  else if emojiRanges.has n then .emojiTail .emoji
  else .plain

/-- The columns of a character by itself; control characters take one. -/
def widthOfChar (n : Nat) : Nat :=
  if n ≤ 0xA0 then 1
  else if n == 0x17D8 then 3
  else if zeroWidthRanges.has n then 0
  else if wideRanges.has n then 2
  else 1

/-- What a character does inside a ligature whose right part is ahead. -/
def Ligature.extend? (part : Ligature) (joined : Bool) (n : Nat) : Option (Int × Ahead) :=
  match part with
  | .alef =>
      if isLam n then some (0, .plain)
      else if isJoinTransparent n then some (0, .ligature .alef joined)
      else none
  | .lamed => if joined && n == 0x5D0 then some (0, .plain) else none
  | .bugineseYa =>
      if joined && n == 0x1A17 then some (0, .ligature .bugineseVowelYa true) else none
  | .bugineseVowelYa => if n == 0x1A15 then some (0, .plain) else none
  | .tifinagh =>
      if n == 0x2D7F then some (1, .ligature .tifinaghJoiner joined)
      else if joined && isTifinaghConsonant n then some (0, .plain)
      else none
  | .tifinaghJoiner => if isTifinaghConsonant n then some (-1, .plain) else none
  | .lisuTone => if within 0xA4F8 0xA4FB n then some (0, .plain) else none
  | .orkhonI => if joined && n == 0x10C32 then some (0, .plain) else none
  | .khmerLetter => if n == 0x17D2 then some (-1, .plain) else none

/-- What a character does inside an emoji sequence whose right part is ahead. -/
def EmojiTail.extend? (tail : EmojiTail) (n : Nat) : Option (Int × EmojiTail) :=
  let isTagLetter := within 0xE0061 0xE007A n
  let isTagDigit := within 0xE0030 0xE0039 n
  let isBlackFlag := n == 0x1F3F4
  match tail with
  | .tone =>
      if emojiModifierBaseRanges.has n then some (0, .emoji)
      else if n == 0x200D then some (0, .joiner)
      else none
  | .flagLetter => if isFlagLetter n then some (1, .flagLetters) else none
  | .flagLetters =>
      if isFlagLetter n then some (1, .flagLetters)
      else if n == 0x200D then some (0, .joiner)
      else none
  | .emoji => if n == 0x200D then some (0, .joiner) else none
  | .joiner =>
      if n == 0x20E3 then some (0, .keycap)
      else if isFlagLetter n then some (1, .joinedFlagLetter)
      else if isSkinTone n then some (0, .tone)
      else if n == 0xE007F then some (0, .tagLetters 0)
      else if emojiRanges.has n then some (0, .emoji)
      else none
  | .keycap => none
  | .joinedFlagLetter =>
      if isFlagLetter n then some (-1, .joinedEvenFlagLetters) else none
  | .joinedOddFlagLetters =>
      if isFlagLetter n then some (-1, .joinedEvenFlagLetters)
      else if n == 0x200D then some (0, .joiner)
      else none
  | .joinedEvenFlagLetters =>
      if isFlagLetter n then some (3, .joinedOddFlagLetters)
      else if n == 0x200D then some (0, .joiner)
      else none
  | .tagLetters count =>
      if isTagLetter && count < 6 then some (0, .tagLetters (count + 1))
      else if isTagDigit && count < 5 then some (0, .tagDigits 1)
      else if isBlackFlag && 3 ≤ count then some (0, .emoji)
      else none
  | .tagDigits count =>
      if isTagDigit && count < 3 then some (0, .tagDigits (count + 1))
      else if isBlackFlag && count == 3 then some (0, .emoji)
      else none

/-- What a character does together with what is ahead, if they belong together. -/
def Ahead.extend? (ahead : Ahead) (n : Nat) : Option (Int × Ahead) :=
  match ahead with
  | .plain | .lineFeed => none
  | .emojiTail tail => (tail.extend? n).map fun (columns, tail) => (columns, .emojiTail tail)
  | .ligature part joined =>
      if part != .alef && n == 0x200D then some (0, .ligature part true)
      else if part != .alef && isInvisibleMark n then some (0, ahead)
      else part.extend? joined n
  | .kiratRaiE =>
      if n == 0x16D63 || n == 0x16D69 then some (0, .plain)
      else if n == 0x16D67 then some (0, .kiratRaiAi)
      else if n == 0x16D68 then some (1, .kiratRaiE)
      else none
  | .kiratRaiAi => if n == 0x16D63 then some (0, .plain) else none

/-- The columns that a character adds, and the context of the character on its left. -/
def measure (c : Char) (context : Context) : Int × Context :=
  let n := c.toNat
  if context.selector == .emoji && emojiVariationRanges.has n then
    (if context.ahead.isJoined then 0 else 2, .of (.emojiTail .emoji))
  else if n ≤ 0xA0 then
    (if c == '\r' && context.unselected == .lineFeed then 0 else 1, .of (aheadOf n))
  else if n == 0xFE0F then (0, (Context.of context.unselected).select .emoji)
  else if n == 0xFE0E then (0, (Context.of context.unselected).select .text)
  else if context.selector == .text && hasTextForm n then (1, .start)
  else
    match context.unselected.extend? n with
    | some (columns, ahead) => (columns, .of ahead)
    | none => (widthOfChar n, .of (aheadOf n))

/-- The columns of a text, counted from right to left, with the context on its left. -/
def measureAll (text : List Char) : Int × Context :=
  text.foldr
    (fun c (sum, context) =>
      let (columns, context) := measure c context
      (sum + columns, context))
    (0, .start)

/-- The columns of a text. -/
def width (text : List Char) : Nat :=
  (measureAll text).1.toNat

/-- Whether a character is printable ASCII. -/
def isPrintableAscii (c : Char) : Bool :=
  within 0x20 0x7E c.toNat

theorem aheadOf_fin :
    ∀ n : Fin 0x7F, 0x20 ≤ n.val → aheadOf n.val = .plain := by
  decide

theorem measure_of_isPrintableAscii
    {c : Char}
    (h : isPrintableAscii c = true) :
    measure c .start = (1, .start) := by
  simp only [isPrintableAscii, within, Bool.and_eq_true, decide_eq_true_eq] at h
  have plain := aheadOf_fin ⟨c.toNat, by omega⟩ h.1
  simp only at plain
  simp [measure, Context.start, Context.of, Context.unselected, plain]
  omega

theorem measureAll_of_isPrintableAscii
    {text : List Char}
    (h : ∀ c ∈ text, isPrintableAscii c = true) :
    measureAll text = ((text.length : Int), Context.start) := by
  induction text with
  | nil => rfl
  | cons c rest ih =>
      have tail := ih fun d member => h d (List.mem_cons_of_mem _ member)
      simp only [measureAll, List.foldr_cons] at tail ⊢
      simp [tail, measure_of_isPrintableAscii (h c (by simp))]

/-- Printable ASCII characters take one column each. -/
theorem width_of_isPrintableAscii
    {text : List Char}
    (h : ∀ c ∈ text, isPrintableAscii c = true) :
    width text = text.length := by
  simp [width, measureAll_of_isPrintableAscii h]

end Text
end StringsAudit
