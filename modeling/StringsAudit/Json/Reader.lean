/-!
# Reading JSON

A reader takes what it needs from the front of a text and leaves the rest. The first fault in
reading order decides: a value of the wrong type is a mismatch as soon as it is seen, even when
the text goes wrong later.

## Main definitions

* `Json.Fault` : the three ways in which reading fails.
* `Json.Reader` : a reader of values.
* `Json.string`, `Json.natural`, `Json.optional`, `Json.array` : readers of typed values.
* `Json.skipValue` : passes over a value of any type.
* `Json.read` : what a reader makes of a whole text.
-/

namespace StringsAudit
namespace Json

/-- The ways in which reading fails. -/
inductive Fault where
  /-- The text is not JSON. -/
  | malformed
  /-- A value is not what was asked for. -/
  | mismatch
  /-- The text ends too early. -/
  | unfinished
  deriving DecidableEq, Repr

/-- The wording of a fault. -/
def Fault.message : Fault → String
  | .malformed => "malformed JSON"
  | .mismatch => "a value is not of the type expected"
  | .unfinished => "unexpected end of the text"

/-- A reader of values from the front of a text. -/
abbrev Reader (α : Type) := StateT (List Char) (Except Fault) α

/-- Fails. -/
def fail {α : Type} (fault : Fault) : Reader α :=
  fun _ => .error fault

/-- Whether a character may stand between values. -/
def isSpace (c : Char) : Bool :=
  c == ' ' || c == '\n' || c == '\t' || c == '\r'

/-- The next character after spaces, which are passed over. -/
def peek? : Reader (Option Char) := fun text =>
  let rest := text.dropWhile isSpace
  .ok (rest.head?, rest)

/-- The next character after spaces, in a place where there must be one. -/
def peek : Reader Char := do
  match ← peek? with
  | some c => pure c
  | none => fail .unfinished

/-- The very next character. -/
def glance? : Reader (Option Char) := fun text =>
  .ok (text.head?, text)

/-- Passes over one character. -/
def advance : Reader Unit := fun text =>
  .ok ((), text.drop 1)

/-- Takes the very next character, in a place where there must be one. -/
def next : Reader Char := fun
  | c :: rest => .ok (c, rest)
  | [] => .error .unfinished

/-- Reads the rest of a word. -/
def word : List Char → Reader Unit
  | [] => pure ()
  | expected :: more => do
      if (← next) == expected then word more else fail .malformed

/-- Takes the digits in front of a text. -/
def digits : Reader (List Char) := fun text =>
  .ok (text.takeWhile Char.isDigit, text.dropWhile Char.isDigit)

/-! ### Strings -/

/-- The value of a hexadecimal digit. -/
def hexValue? (c : Char) : Option Nat :=
  if '0' ≤ c ∧ c ≤ '9' then some (c.toNat - '0'.toNat)
  else if 'a' ≤ c ∧ c ≤ 'f' then some (c.toNat - 'a'.toNat + 10)
  else if 'A' ≤ c ∧ c ≤ 'F' then some (c.toNat - 'A'.toNat + 10)
  else none

/-- The number that hexadecimal digits write. -/
def hexNumber? (text : List Char) : Option Nat :=
  text.foldlM (fun n c => (hexValue? c).map (16 * n + ·)) 0

/-- Whether a text is shorter than four bytes in UTF-8. -/
def isUnderFourBytes (text : List Char) : Bool :=
  (text.take 4).foldl (fun n c => n + c.utf8Size) 0 < 4

/-- Reads the four hexadecimal digits of an escape. -/
def hexEscape : Reader Nat := fun text =>
  if isUnderFourBytes text then .error .unfinished
  else
    match hexNumber? (text.take 4) with
    | some n => if (text.take 4).length = 4 then .ok (n, text.drop 4) else .error .malformed
    | none => .error .malformed

/-- Whether a code unit is the first half of a pair. -/
def isLeading (n : Nat) : Bool :=
  0xD800 ≤ n && n ≤ 0xDBFF

/-- Whether a code unit is the second half of a pair. -/
def isTrailing (n : Nat) : Bool :=
  0xDC00 ≤ n && n ≤ 0xDFFF

/--
Reads the character of an escape with hexadecimal digits. Halves of pairs have to meet where
`strict` holds.
-/
def unicodeEscape (strict : Bool) : Reader Char := do
  let first ← hexEscape
  if !strict then pure (Char.ofNat first)
  else if isTrailing first then fail .malformed
  else if !isLeading first then pure (Char.ofNat first)
  else if (← next) != '\\' then fail .malformed
  else if (← next) != 'u' then fail .malformed
  else
    let second ← hexEscape
    if isTrailing second then
      pure (Char.ofNat (0x10000 + (first - 0xD800) * 0x400 + (second - 0xDC00)))
    else fail .malformed

/-- Reads the character of an escape, after the backslash. -/
def escape (strict : Bool) : Reader Char := do
  match ← next with
  | '"' => pure '"'
  | '\\' => pure '\\'
  | '/' => pure '/'
  | 'b' => pure '\x08'
  | 'f' => pure '\x0C'
  | 'n' => pure '\n'
  | 'r' => pure '\r'
  | 't' => pure '\t'
  | 'u' => unicodeEscape strict
  | _ => fail .malformed

/-- Reads a string of at most `fuel` characters, after its opening quote. -/
def stringTail (strict : Bool) : (fuel : Nat) → Reader (List Char)
  | 0 => fail .unfinished
  | fuel + 1 => do
      let c ← next
      if c == '"' then pure []
      else if c == '\\' then
        let c ← escape strict
        return c :: (← stringTail strict fuel)
      else if c < ' ' then fail .malformed
      else return c :: (← stringTail strict fuel)

/-- Reads a string after its opening quote. -/
def stringBody (strict : Bool) : Reader String := fun text =>
  (stringTail strict (text.length + 1) text).map fun (body, rest) => (String.ofList body, rest)

/-! ### Numbers -/

/-- The greatest natural number that is kept exactly. -/
def maxExact : Nat := 0xFFFFFFFFFFFFFFFF

/-- The leading digits of a number and the exponent of ten that they are to be taken with. -/
structure Scaled where
  significand : Nat
  exponent : Int
  deriving DecidableEq, Repr

/-- One more digit before the point; a digit past the greatest exact number only scales. -/
def Scaled.pushWhole (scaled : Scaled) (digit : Nat) : Scaled :=
  if scaled.exponent == 0 && scaled.significand * 10 + digit ≤ maxExact then
    { scaled with significand := scaled.significand * 10 + digit }
  else { scaled with exponent := scaled.exponent + 1 }

/-- The digits after the point, up to the first one past the greatest exact number. -/
def Scaled.pushFraction (scaled : Scaled) : List Char → Scaled
  | [] => scaled
  | c :: rest =>
      let next := scaled.significand * 10 + (c.toNat - '0'.toNat)
      if next ≤ maxExact then Scaled.pushFraction ⟨next, scaled.exponent - 1⟩ rest else scaled

/-- Whether a number lies beyond those of double precision. -/
def Scaled.isTooGreat (scaled : Scaled) : Bool :=
  if scaled.significand == 0 || scaled.exponent < 0 then false
  else if 400 < scaled.exponent then true
  else Nat.pow 2 1024 - Nat.pow 2 970 ≤ scaled.significand * Nat.pow 10 scaled.exponent.toNat

/-- Ends a number that is no natural number. -/
def finishScaled (scaled : Scaled) : Reader (Option Nat) :=
  if scaled.isTooGreat then fail .malformed else pure none

/-- The number that decimal digits write. -/
def decimalNumber (text : List Char) : Nat :=
  text.foldl (fun n c => 10 * n + (c.toNat - '0'.toNat)) 0

/-- Reads an exponent, after its letter. -/
def exponentTail (scaled : Scaled) : Reader (Option Nat) := do
  let sign ← glance?
  if sign == some '+' || sign == some '-' then advance
  let first ← next
  if !first.isDigit then fail .malformed
  else
    let n := decimalNumber (first :: (← digits))
    if sign == some '-' then finishScaled { scaled with exponent := scaled.exponent - n }
    else finishScaled { scaled with exponent := scaled.exponent + n }

/-- Whether a character starts an exponent. -/
def isExponentLetter (c? : Option Char) : Bool :=
  c? == some 'e' || c? == some 'E'

/-- Reads a fraction, after its point. -/
def fractionTail (scaled : Scaled) : Reader (Option Nat) := do
  let fraction ← digits
  if fraction.isEmpty then
    let _ ← next
    fail .malformed
  else
    let scaled := scaled.pushFraction fraction
    if isExponentLetter (← glance?) then
      advance
      exponentTail scaled
    else finishScaled scaled

/--
Reads a number after its sign, and gives it if it is a natural number of the exact range; a
negative number, a fraction and a power of ten are numbers, but not natural ones.
-/
def number (negative : Bool) : Reader (Option Nat) := do
  let first ← next
  if !first.isDigit then fail .malformed
  else
    let more ← digits
    if first == '0' && !more.isEmpty then fail .malformed
    else
      let scaled := (first :: more).foldl
        (fun scaled c => scaled.pushWhole (c.toNat - '0'.toNat)) ⟨0, 0⟩
      let after ← glance?
      if after == some '.' then
        advance
        fractionTail scaled
      else if isExponentLetter after then
        advance
        exponentTail scaled
      else if scaled.exponent != 0 then finishScaled scaled
      else pure (if negative then none else some scaled.significand)

/-- Passes over an exponent, after its letter. -/
def skipExponent : Reader Unit := do
  let sign ← glance?
  if sign == some '+' || sign == some '-' then advance
  if (← digits).isEmpty then fail .malformed

/-- Passes over a number after its sign, whatever its size. -/
def skipNumber : Reader Unit := do
  let whole ← digits
  match whole with
  | [] => fail .malformed
  | first :: more =>
      if first == '0' && !more.isEmpty then fail .malformed
      else
        let after ← glance?
        if after == some '.' then
          advance
          if (← digits).isEmpty then fail .malformed
          if isExponentLetter (← glance?) then
            advance
            skipExponent
        else if isExponentLetter after then
          advance
          skipExponent

/-! ### Values of any type -/

/-- An open bracket. -/
inductive Bracket where
  | array
  | object
  deriving DecidableEq, Repr

/-- The character that closes a bracket. -/
def Bracket.closing : Bracket → Char
  | .array => ']'
  | .object => '}'

/-- Passes over a key and its colon; the spaces before the key are passed already. -/
def skipKey : Reader Unit := do
  if (← peek) != '"' then fail .malformed
  else
    advance
    let _ ← stringBody false
    if (← peek) != ':' then fail .malformed else advance

/-- Passes over a value that is no array or object. -/
def skipScalar (first : Char) : Reader Unit := do
  advance
  match first with
  | 'n' => word ['u', 'l', 'l']
  | 't' => word ['r', 'u', 'e']
  | 'f' => word ['a', 'l', 's', 'e']
  | '-' => skipNumber
  | '"' => let _ ← stringBody false
  | _ => fail .malformed

mutual

/-- Passes over the value that comes next, and over what is open around it. -/
def skipFrom : (fuel : Nat) → List Bracket → Reader Unit
  | 0, _ => fail .unfinished
  | fuel + 1, brackets => do
      let first ← peek
      if first == '[' then
        advance
        if (← peek) == ']' then
          advance
          skipRest fuel brackets
        else skipFrom fuel (.array :: brackets)
      else if first == '{' then
        advance
        if (← peek) == '}' then
          advance
          skipRest fuel brackets
        else
          skipKey
          skipFrom fuel (.object :: brackets)
      else
        if first.isDigit then skipNumber else skipScalar first
        skipRest fuel brackets

/-- Passes over what follows a value up to the end of the outermost bracket. -/
def skipRest : (fuel : Nat) → List Bracket → Reader Unit
  | _, [] => pure ()
  | 0, _ => fail .unfinished
  | fuel + 1, bracket :: outer => do
      let c ← peek
      if c == ',' then
        advance
        if bracket == .object then skipKey
        skipFrom fuel (bracket :: outer)
      else if c == bracket.closing then
        advance
        skipRest fuel outer
      else fail .malformed

end

/-- Passes over a value of any type. -/
def skipValue : Reader Unit := fun text =>
  skipFrom (2 * text.length + 2) [] text

/-! ### Typed values -/

/--
Fails on a value of the wrong type. A word, a number or a string is read first and may turn out
malformed.
-/
def reject {α : Type} : Reader α := do
  let first ← peek
  if first == '[' || first == '{' then fail .mismatch
  else if first.isDigit then
    let _ ← number false
    fail .mismatch
  else
    advance
    match first with
    | 'n' => word ['u', 'l', 'l']
    | 't' => word ['r', 'u', 'e']
    | 'f' => word ['a', 'l', 's', 'e']
    | '-' => let _ ← number true
    | '"' => let _ ← stringBody true
    | _ => fail .malformed
    fail .mismatch

/-- Reads a string. -/
def string : Reader String := do
  if (← peek) == '"' then
    advance
    stringBody true
  else reject

/-- Reads a natural number of the exact range. -/
def natural : Reader Nat := do
  let first ← peek
  if first == '-' then
    advance
    let _ ← number true
    fail .mismatch
  else if first.isDigit then
    match ← number false with
    | some n => pure n
    | none => fail .mismatch
  else reject

/-- Reads `null` or a value. -/
def optional {α : Type} (value : Reader α) : Reader (Option α) := do
  if (← peek?) == some 'n' then
    advance
    word ['u', 'l', 'l']
    pure none
  else return some (← value)

/--
Whether one more element follows in an array; the comma before it is passed over. At a closing
bracket there is none.
-/
def hasElement (isFirst : Bool) : Reader Bool := do
  let c ← peek
  if c == ']' then pure false
  else if isFirst then pure true
  else if c == ',' then
    advance
    if (← peek) == ']' then fail .malformed else pure true
  else fail .malformed

/-- Reads at most `fuel` elements of an array up to its closing bracket. -/
def elements {α : Type} (element : Reader α) : (fuel : Nat) → Bool → Reader (List α)
  | 0, _ => fail .malformed
  | fuel + 1, isFirst => do
      if ← hasElement isFirst then
        let head ← element
        return head :: (← elements element fuel false)
      else pure []

/-- Ends an array that should have no more elements. -/
def endArray : Reader Unit := do
  if (← peek) == ']' then advance else fail .malformed

/-- Reads an array. -/
def array {α : Type} (element : Reader α) : Reader (List α) := do
  if (← peek) == '[' then
    advance
    let list ← fun text => elements element (text.length + 1) true text
    endArray
    pure list
  else reject

/-- Whether one more key follows in an object; the comma before it is passed over. -/
def hasKey (isFirst : Bool) : Reader Bool := do
  let c ← peek
  if c == '}' then pure false
  else if isFirst then if c == '"' then pure true else fail .malformed
  else if c == ',' then
    advance
    if (← peek) == '"' then pure true else fail .malformed
  else fail .malformed

/-- Reads at most `fuel` fields of an object, each of which changes a state. -/
def fields {α : Type} (field : String → α → Reader α) : (fuel : Nat) → Bool → α → Reader α
  | 0, _, _ => fail .malformed
  | fuel + 1, isFirst, state => do
      if ← hasKey isFirst then
        advance
        let key ← stringBody true
        if (← peek) == ':' then advance else fail .malformed
        fields field fuel false (← field key state)
      else pure state

/-- Reads an object after its opening bracket. -/
def objectTail {α : Type} (field : String → α → Reader α) (state : α) : Reader α := do
  let state ← fun text => fields field (text.length + 1) true state text
  advance
  pure state

/-- What a reader makes of a whole text; only spaces may follow the value. -/
def read {α : Type} (reader : Reader α) (text : String) : Except Fault α :=
  match reader text.toList with
  | .ok (value, rest) => if rest.all isSpace then .ok value else .error .malformed
  | .error fault => .error fault

end Json
end StringsAudit
