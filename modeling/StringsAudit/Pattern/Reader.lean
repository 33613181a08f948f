import StringsAudit.Pattern.Expr
import StringsAudit.Pattern.Named

/-!
# Reading patterns

The text of a pattern is read into an expression, and its options are resolved on the way: they
hold from where they are set to the end of the group around them. There is no look-around and no
reference back to a group.

## Main definitions

* `PatternError` : why a text is no pattern.
* `Expr.parse` : the expression that a text describes.
-/

namespace StringsAudit
namespace Pattern

/-- Why a text is no pattern. -/
inductive PatternError where
  | unclosedGroup
  | unopenedGroup
  | nothingToRepeat
  | badRepetition
  | lookAround
  | backReference
  | badOption
  | badGroupName
  | repeatedGroupName
  | badEscape
  | badCodePoint
  | badBoundary
  | unclosedClass
  | badClassItem
  | badRange
  | unknownClass
  | outsideUnicode
  | tooDeep
  | tooLarge
  deriving DecidableEq, Repr

/-- The wording of an error. -/
def PatternError.message : PatternError → String
  | .unclosedGroup => "unclosed group"
  | .unopenedGroup => "unopened group"
  | .nothingToRepeat => "repetition operator missing expression"
  | .badRepetition => "invalid repetition count"
  | .lookAround => "look-around is not supported"
  | .backReference => "backreferences are not supported"
  | .badOption => "invalid flags"
  | .badGroupName => "invalid capture group name"
  | .repeatedGroupName => "duplicate capture group name"
  | .badEscape => "unrecognized escape sequence"
  | .badCodePoint => "invalid hexadecimal escape"
  | .badBoundary => "invalid word boundary assertion"
  | .unclosedClass => "unclosed character class"
  | .badClassItem => "invalid item in character class"
  | .badRange => "invalid character class range"
  | .unknownClass => "unknown Unicode class"
  | .outsideUnicode => "pattern can match text that is not Unicode"
  | .tooDeep => "pattern is nested too deeply"
  | .tooLarge => "pattern is too large"

/-- The options of a pattern. -/
structure Options where
  ignoreCase : Bool := false
  multiLine : Bool := false
  dotAll : Bool := false
  swapGreed : Bool := false
  unicode : Bool := true
  returnLines : Bool := false
  spaced : Bool := false
  deriving DecidableEq, Repr

/-- What is left to read, and what was read so far. -/
structure Cursor where
  rest : List Char
  options : Options
  groups : Nat
  names : List String
  deriving DecidableEq, Repr

/-- A reader of a part of a pattern. -/
abbrev Reader (α : Type) := StateT Cursor (Except PatternError) α

/-- Fails. -/
def refuse {α : Type} (error : PatternError) : Reader α :=
  fun _ => .error error

/-- What is left to read. -/
def remaining : Reader (List Char) :=
  return (← get).rest

/-- The options that hold here. -/
def currentOptions : Reader Options :=
  return (← get).options

/-- The next character. -/
def peek? : Reader (Option Char) :=
  return (← remaining).head?

/-- Goes on with another rest. -/
def setRest (rest : List Char) : Reader Unit :=
  modify fun cursor => { cursor with rest }

/-- Passes over one character. -/
def bump : Reader Unit := do
  setRest ((← remaining).drop 1)

/-- The next character, which is passed over. -/
def takeOr (error : PatternError) : Reader Char := do
  match ← remaining with
  | c :: rest =>
      setRest rest
      pure c
  | [] => refuse error

/-- A text without the blanks and comments in front of it. -/
def dropSpace : (inComment : Bool) → List Char → List Char
  | _, [] => []
  | true, c :: rest => dropSpace (c != '\n') rest
  | false, c :: rest =>
      if Text.isBlank c then dropSpace false rest
      else if c == '#' then dropSpace true rest
      else c :: rest

/-- Passes over blanks and comments, if they count for nothing. -/
def skipSpace : Reader Unit := do
  if (← currentOptions).spaced then setRest (dropSpace false (← remaining))

/-- Passes over one character and the blanks and comments after it. -/
def bumpSpace : Reader Unit := do
  bump
  skipSpace

/-- Passes over a text, if it comes next. -/
def skipText (text : List Char) : Reader Bool := do
  let rest ← remaining
  if text.isPrefixOf rest then
    setRest (rest.drop text.length)
    pure true
  else pure false

/-! ### Nesting -/

/-- A part of a pattern, and how deep groups, classes, repetitions and lists are nested in it. -/
structure Nested (α : Type) where
  part : α
  depth : Nat
  deriving DecidableEq, Repr

/-- The depth of a list of parts; two parts or more make one level. -/
def listDepth {α : Type} : List (Nested α) → Nat
  | [] => 0
  | [nested] => nested.depth
  | list => list.foldl (fun depth nested => Nat.max depth nested.depth) 0 + 1

/-! ### Sets -/

/-- A set together with the case variants of its members, if case counts for nothing. -/
def foldSet (options : Options) (set : CharSet) : CharSet :=
  if !options.ignoreCase then set
  else if options.unicode then .folded set
  else .inter (.folded set) .ascii

/-- The complement of a set, which has to stay within Unicode. -/
def negateIf (options : Options) (negated : Bool) (set : CharSet) : Reader CharSet :=
  if !negated then pure set
  else if options.unicode then pure (.compl set)
  else refuse .outsideUnicode

/-- The set of an escape such as `\w`. -/
def shorthand (options : Options) (letter : Char) : Reader CharSet := do
  let set : CharSet :=
    match letter.toLower with
    | 'd' => if options.unicode then .property .digit else .asciiDigit
    | 's' => if options.unicode then .property .blank else .asciiSpace
    | _ => if options.unicode then .property .word else .asciiWord
  negateIf options letter.isUpper set

/-- One character as an expression. -/
def literal (c : Char) : Reader Expr := do
  let options ← currentOptions
  if options.ignoreCase && !options.unicode && 0x7F < c.toNat then refuse .outsideUnicode
  else if options.ignoreCase && (Text.caseVariants c).isEmpty then pure (.chars (.single c))
  else pure (.chars (foldSet options (.single c)))

/-- Any character, or any within a line. -/
def anyCharacter : Reader Expr := do
  let options ← currentOptions
  if !options.unicode then refuse .outsideUnicode
  else if options.dotAll then pure (.chars .all)
  else if options.returnLines then
    pure (.chars (.compl (.union (.single '\r') (.single '\n'))))
  else pure (.chars (.compl (.single '\n')))

/-! ### Escapes -/

/-- What an escape stands for. -/
inductive Escape where
  | literal (c : Char)
  | set (set : CharSet)
  | look (look : Look)
  deriving DecidableEq, Repr

/-- Whether a character may be escaped to stand for itself. -/
def canEscape (c : Char) : Bool :=
  c.toNat ≤ 0x7F && !c.isAlphanum && c != '<' && c != '>'

/-- The value of a hexadecimal digit. -/
def hexValue? (c : Char) : Option Nat :=
  if '0' ≤ c ∧ c ≤ '9' then some (c.toNat - '0'.toNat)
  else if 'a' ≤ c ∧ c ≤ 'f' then some (c.toNat - 'a'.toNat + 10)
  else if 'A' ≤ c ∧ c ≤ 'F' then some (c.toNat - 'A'.toNat + 10)
  else none

/-- The character that hexadecimal digits name. -/
def hexCharacter (digits : List Char) : Reader Char := do
  match digits.foldlM (fun n c => (hexValue? c).map (16 * n + ·)) 0 with
  | some n =>
      if h : n.isValidChar then pure (Char.ofNatAux n h) else refuse .badCodePoint
  | none => refuse .badCodePoint

/-- Takes a number of characters, passing over the space between them. -/
def takeSpaced (error : PatternError) : Nat → Reader (List Char)
  | 0 => pure []
  | count + 1 => do
      let c ← takeOr error
      skipSpace
      return c :: (← takeSpaced error count)

/-- Takes characters up to a closing brace, passing over the space between them. -/
def takeBraced (error : PatternError) : (fuel : Nat) → Reader (List Char)
  | 0 => refuse error
  | fuel + 1 => do
      let c ← takeOr error
      if c == '\x7d' then pure []
      else
        skipSpace
        return c :: (← takeBraced error fuel)

/-- Reads the hexadecimal digits of an escape with the given letter. -/
def hexEscape (letter : Char) : Reader Char := do
  skipSpace
  if (← peek?) == some '\x7b' then
    bumpSpace
    let digits ← takeBraced .badEscape ((← remaining).length + 1)
    skipSpace
    if digits.isEmpty then refuse .badCodePoint else hexCharacter digits
  else
    let count := if letter == 'x' then 2 else if letter == 'u' then 4 else 8
    let c ← hexCharacter (← takeSpaced .badEscape count)
    if letter == 'x' && 0x7F < c.toNat && !(← currentOptions).unicode then
      refuse .outsideUnicode
    else pure c

/-- Cuts a text at the first occurrence of another. -/
def cutAt? (mark text : String) : Option (String × String) :=
  match text.splitOn mark with
  | before :: after :: more => some (before, mark.intercalate (after :: more))
  | _ => none

/-- The set that a Unicode class names, and whether its complement is meant. -/
def classQuery? (query : String) : Option (CharSet × Bool) :=
  match cutAt? "!=" query with
  | some (property, value) => (CharSet.ofValue? property value).map (·, true)
  | none =>
      match (cutAt? ":" query).or (cutAt? "=" query) with
      | some (property, value) => (CharSet.ofValue? property value).map (·, false)
      | none => (CharSet.ofName? query).map (·, false)

/-- Reads the name of a Unicode class. -/
def unicodeClass (negated : Bool) : Reader CharSet := do
  skipSpace
  let options ← currentOptions
  let found? ← do
    if (← peek?) == some '\x7b' then
      bumpSpace
      let query ← takeBraced .badEscape ((← remaining).length + 1)
      pure (classQuery? (String.ofList query))
    else
      let c ← takeOr .badEscape
      skipSpace
      pure ((CharSet.ofCategoryName? (CharSet.plainName (String.singleton c))).map (·, false))
  match found? with
  | some (set, opposite) =>
      if !options.unicode then refuse .outsideUnicode
      else negateIf options (negated != opposite) (foldSet options set)
  | none => refuse .unknownClass

/-- Whether a character can stand in the name of a word boundary. -/
def isBoundaryLetter (c : Char) : Bool :=
  c.isAlpha || c == '-'

/-- Takes the letters of the name of a word boundary. -/
def boundaryName : (fuel : Nat) → Reader (List Char)
  | 0 => pure []
  | fuel + 1 => do
      match ← peek? with
      | some c =>
          if isBoundaryLetter c then
            bumpSpace
            return c :: (← boundaryName fuel)
          else pure []
      | none => pure []

/-- Reads the name of a special word boundary, unless a repetition follows. -/
def boundaryEdge : Reader WordEdge := do
  let before ← remaining
  if before.head? != some '\x7b' then pure .either
  else
    bumpSpace
    match ← peek? with
    | none => refuse .badBoundary
    | some c =>
        if !isBoundaryLetter c then
          setRest before
          pure .either
        else
          let name ← boundaryName before.length
          if (← peek?) != some '\x7d' then refuse .badBoundary
          else
            bump
            match String.ofList name with
            | "start" => pure .start
            | "end" => pure .stop
            | "start-half" => pure .startHalf
            | "end-half" => pure .stopHalf
            | _ => refuse .badBoundary

/-- Reads an escape, after its backslash. -/
def escape : Reader Escape := do
  let c ← takeOr .badEscape
  let options ← currentOptions
  if c.isDigit then refuse .backReference
  else if c == 'x' || c == 'u' || c == 'U' then return .literal (← hexEscape c)
  else if c == 'p' || c == 'P' then return .set (← unicodeClass (c == 'P'))
  else if canEscape c then pure (.literal c)
  else
    match c with
    | 'd' | 's' | 'w' | 'D' | 'S' | 'W' => return .set (← shorthand options c)
    | 'a' => pure (.literal '\x07')
    | 'f' => pure (.literal '\x0C')
    | 't' => pure (.literal '\t')
    | 'n' => pure (.literal '\n')
    | 'r' => pure (.literal '\r')
    | 'v' => pure (.literal '\x0B')
    | 'A' => pure (.look .textStart)
    | 'z' => pure (.look .textEnd)
    | 'b' => return .look (.word (← boundaryEdge) !options.unicode)
    | 'B' => pure (.look (.word .neither !options.unicode))
    | '<' => pure (.look (.word .start !options.unicode))
    | '>' => pure (.look (.word .stop !options.unicode))
    | _ => refuse .badEscape

/-! ### Bracketed classes -/

/-- Reads one item of a class: a character, or the set of an escape. -/
def classItem : Reader Escape := do
  let c ← takeOr .unclosedClass
  if c == '\\' then escape else pure (.literal c)

/-- The character of an item at the end of a range. -/
def itemCharacter : Escape → Reader Char
  | .literal c => pure c
  | _ => refuse .badRange

/-- The set of one character of a class. -/
def classCharacters (first last : Char) : Reader CharSet := do
  if !(← currentOptions).unicode && 0x7F < last.toNat then refuse .outsideUnicode
  else pure (.range first last)

/-- Whether a dash here stands between the two ends of a range. -/
def isRangeDash (options : Options) (rest : List Char) : Bool :=
  match rest with
  | '-' :: more =>
      let next := (if options.spaced then dropSpace false more else more).head?
      next != some ']' && next != some '-'
  | _ => false

/-- Reads a character, a range or the set of an escape. -/
def classRange : Reader CharSet := do
  let first ← classItem
  skipSpace
  if (← remaining).isEmpty then refuse .unclosedClass
  else if isRangeDash (← currentOptions) (← remaining) then
    bumpSpace
    let last ← classItem
    let first ← itemCharacter first
    let last ← itemCharacter last
    if last < first then refuse .badRange else classCharacters first last
  else
    match first with
    | .literal c => classCharacters c c
    | .set set => pure set
    | .look _ => refuse .badClassItem

/-- The POSIX class in front of a text, whether its complement is meant, and the text after it. -/
def posixClass? (text : List Char) : Option (CharSet × Bool × List Char) :=
  match text with
  | '[' :: ':' :: rest =>
      let (negated, rest) :=
        match rest with
        | '^' :: rest => (true, rest)
        | rest => (false, rest)
      let name := rest.takeWhile (· != ':')
      match rest.drop name.length with
      | ':' :: ']' :: after =>
          (CharSet.ofPosixName? (String.ofList name)).map (·, negated, after)
      | _ => none
  | _ => none

/-- An operation on sets. -/
inductive SetOperation where
  | intersection
  | difference
  | symmetricDifference
  deriving DecidableEq, Repr

/-- The result of an operation. -/
def SetOperation.apply : SetOperation → CharSet → CharSet → CharSet
  | .intersection, a, b => .inter a b
  | .difference, a, b => .inter a (.compl b)
  | .symmetricDifference, a, b => .union (.inter a (.compl b)) (.inter b (.compl a))

/-- A left operand and its operation, both of which wait for the right operand. -/
abbrev PendingOperation := Option (SetOperation × Nested CharSet)

/-- The set of a pending operation and its right operand. -/
def completeSet (options : Options) (pending : PendingOperation) (set : Nested CharSet) :
    Nested CharSet :=
  match pending with
  | some (operation, left) =>
      ⟨operation.apply (foldSet options left.part) (foldSet options set.part),
        Nat.max left.depth set.depth + 1⟩
  | none => set

/-- The union of the items of a class. -/
def unionOf (items : List (Nested CharSet)) : Nested CharSet :=
  ⟨.unionAll (items.map (·.part)), listDepth items⟩

/-- The operation whose sign stands in front of a text. -/
def operationSign? : List Char → Option SetOperation
  | '&' :: '&' :: _ => some .intersection
  | '-' :: '-' :: _ => some .difference
  | '~' :: '~' :: _ => some .symmetricDifference
  | _ => none

/-- Reads the dashes that may stand first in a class. -/
def leadingDashes : (fuel : Nat) → Reader (List CharSet)
  | 0 => pure []
  | fuel + 1 => do
      if (← peek?) == some '-' then
        bumpSpace
        return .single '-' :: (← leadingDashes fuel)
      else pure []

mutual

/-- Reads a class in brackets, from its opening bracket on. -/
def bracketed : (fuel : Nat) → Reader (Nested CharSet)
  | 0 => refuse .unclosedClass
  | fuel + 1 => do
      bumpSpace
      let negated := (← peek?) == some '^'
      if negated then bumpSpace
      let dashes ← leadingDashes (← remaining).length
      let first ← do
        if dashes.isEmpty && (← peek?) == some ']' then
          bumpSpace
          pure [CharSet.single ']']
        else pure dashes
      let set ← bracketTail fuel none (first.map (⟨·, 0⟩))
      let options ← currentOptions
      return ⟨← negateIf options negated (foldSet options set.part), set.depth + 1⟩

/-- Reads the items of a class up to its closing bracket. -/
def bracketTail :
    (fuel : Nat) → PendingOperation → List (Nested CharSet) → Reader (Nested CharSet)
  | 0, _, _ => refuse .unclosedClass
  | fuel + 1, pending, items => do
      skipSpace
      let options ← currentOptions
      let rest ← remaining
      match rest with
      | [] => refuse .unclosedClass
      | ']' :: _ =>
          bump
          pure (completeSet options pending (unionOf items))
      | '[' :: _ =>
          match posixClass? rest with
          | some (set, negated, after) =>
              setRest after
              let set ← negateIf options negated (foldSet options set)
              bracketTail fuel pending (⟨set, 0⟩ :: items)
          | none =>
              let set ← bracketed fuel
              bracketTail fuel pending (set :: items)
      | _ =>
          match operationSign? rest with
          | some operation =>
              setRest (rest.drop 2)
              let left := completeSet options pending (unionOf items)
              bracketTail fuel (some (operation, left)) []
          | none =>
              let set ← classRange
              bracketTail fuel pending (⟨set, 0⟩ :: items)

end

/-! ### Repetitions -/

/-- The greatest number of a repetition. -/
def maxCount : Nat := 0xFFFFFFFF

/-- Passes over blanks. -/
def skipBlanks : Reader Unit := do
  setRest ((← remaining).dropWhile Text.isBlank)

/-- Takes decimal digits, passing over the space between them. -/
def takeDigits : (fuel : Nat) → Reader (List Char)
  | 0 => pure []
  | fuel + 1 => do
      match ← peek? with
      | some c =>
          if c.isDigit then
            bumpSpace
            return c :: (← takeDigits fuel)
          else pure []
      | none => pure []

/-- Reads a number with blanks around it. -/
def decimal : Reader Nat := do
  skipBlanks
  let digits ← takeDigits (← remaining).length
  skipBlanks
  skipSpace
  let n := digits.foldl (fun n c => 10 * n + (c.toNat - '0'.toNat)) 0
  if digits.isEmpty || maxCount < n then refuse .badRepetition else pure n

/-- Reads the bounds of a repetition in braces, after the opening brace. -/
def bounds : Reader (Nat × Option Nat) := do
  skipSpace
  let min ← decimal
  if (← peek?) == some ',' then
    bumpSpace
    if (← peek?) == some '\x7d' then
      bump
      pure (min, none)
    else
      let max ← decimal
      if (← peek?) == some '\x7d' && min ≤ max then
        bump
        pure (min, some max)
      else refuse .badRepetition
  else if (← peek?) == some '\x7d' then
    bump
    pure (min, some min)
  else refuse .badRepetition

/-- An item of a sequence; a setting of options is one, but cannot be repeated. -/
abbrev Item := Nested (Option Expr)

/-- The items of a sequence, given backwards, with the last one repeated. -/
def repeatLast (min : Nat) (max? : Option Nat) (items : List Item) : Reader (List Item) := do
  match items with
  | ⟨some body, depth⟩ :: before =>
      let lazy := (← peek?) == some '?'
      if lazy then bump
      let greedy := lazy == (← currentOptions).swapGreed
      pure (⟨some (.repeated min max? greedy body), depth + 1⟩ :: before)
  | _ => refuse .nothingToRepeat

/-! ### Groups -/

/-- An option with its letter and its setting. -/
def setOption? (letter : Char) (value : Bool) (options : Options) : Option Options :=
  match letter with
  | 'i' => some { options with ignoreCase := value }
  | 'm' => some { options with multiLine := value }
  | 's' => some { options with dotAll := value }
  | 'U' => some { options with swapGreed := value }
  | 'u' => some { options with unicode := value }
  | 'R' => some { options with returnLines := value }
  | 'x' => some { options with spaced := value }
  | _ => none

/--
Reads the letters of options up to a colon or a closing parenthesis, and gives the options, that
character, and whether there was any letter. Each letter, and the minus sign, may occur once.
-/
def optionLetters : (fuel : Nat) → (seen : List Char) → Options → Reader (Options × Char × Bool)
  | 0, _, _ => refuse .badOption
  | fuel + 1, seen, options => do
      let c ← takeOr .badOption
      if c == ':' || c == ')' then
        if seen.head? == some '-' then refuse .badOption
        else pure (options, c, !seen.isEmpty)
      else if seen.contains c then refuse .badOption
      else if c == '-' then optionLetters fuel (c :: seen) options
      else
        match setOption? c (!seen.contains '-') options with
        | some options => optionLetters fuel (c :: seen) options
        | none => refuse .badOption

/-- Whether a character can stand in the name of a group. -/
def isNameCharacter (isFirst : Bool) (c : Char) : Bool :=
  c == '_' || Text.alphabeticRanges.has c.toNat
    || (!isFirst && (c == '.' || c == '[' || c == ']'
        || Text.Category.number.any (·.has c.toNat)))

/-- Reads the name of a group up to its closing angle bracket. -/
def groupName : Reader Unit := do
  let rest ← remaining
  let name := rest.takeWhile (· != '>')
  match name, rest.drop name.length with
  | first :: more, _ :: after =>
      if !isNameCharacter true first || !more.all (isNameCharacter false) then
        refuse .badGroupName
      else if (← get).names.contains (String.ofList name) then refuse .repeatedGroupName
      else
        modify fun cursor =>
          { cursor with rest := after, names := String.ofList name :: cursor.names }
  | _, _ => refuse .badGroupName

/-- Counts one more group and gives its number. -/
def nextGroup : Reader Nat := do
  let index := (← get).groups + 1
  modify fun cursor => { cursor with groups := index }
  pure index

/-- How a parenthesis goes on. -/
inductive GroupStart where
  | settings (options : Options)
  | plain (options : Options)
  | numbered (index : Nat)
  deriving DecidableEq, Repr

/-- Reads what stands after an opening parenthesis. -/
def groupStart : Reader GroupStart := do
  bump
  skipSpace
  let rest ← remaining
  let looksAround := [['?', '='], ['?', '!'], ['?', '<', '='], ['?', '<', '!']].any
    (·.isPrefixOf rest)
  if looksAround then refuse .lookAround
  else if (← skipText ['?', 'P', '<']) then
    let index ← nextGroup
    groupName
    pure (.numbered index)
  else if (← skipText ['?', '<']) then
    let index ← nextGroup
    groupName
    pure (.numbered index)
  else if (← skipText ['?']) then
    let (options, stop, any) ←
      optionLetters ((← remaining).length + 1) [] (← currentOptions)
    if stop == ':' then pure (.plain options)
    else if any then pure (.settings options)
    else refuse .nothingToRepeat
  else return .numbered (← nextGroup)

/-- Sets the options that hold from here on. -/
def setOptions (options : Options) : Reader Unit :=
  modify fun cursor => { cursor with options }

/-- The sequence of items given backwards. -/
def sequence (items : List Item) : Nested Expr where
  part :=
    match items.filterMap (·.part) with
    | [] => .empty
    | last :: before => before.foldl (fun expr item => .cat item expr) last
  depth := listDepth items

/-- The choice between expressions, by preference. -/
def choiceOf : List Expr → Expr
  | [] => .empty
  | [expr] => expr
  | expr :: rest => .alt expr (choiceOf rest)

/-- The choice between branches. -/
def alternation (branches : List (Nested Expr)) : Nested Expr :=
  ⟨choiceOf (branches.map (·.part)), listDepth branches⟩

/-- Reads one character, escape or anchor. -/
def primitive : Reader Expr := do
  let c ← takeOr .badEscape
  let options ← currentOptions
  match c with
  | '\\' =>
      match ← escape with
      | .literal c => literal c
      | .set set => pure (.chars set)
      | .look condition => pure (.look condition)
  | '.' => anyCharacter
  | '^' =>
      pure (.look (if !options.multiLine then .textStart
        else if options.returnLines then .returnLineStart else .lineStart))
  | '$' =>
      pure (.look (if !options.multiLine then .textEnd
        else if options.returnLines then .returnLineEnd else .lineEnd))
  | c => literal c

mutual

/-- Reads alternatives up to a closing parenthesis or the end. -/
def branches : (fuel : Nat) → Reader (List (Nested Expr))
  | 0 => refuse .tooLarge
  | fuel + 1 => do
      let branch := sequence (← items fuel [])
      if (← peek?) == some '|' then
        bump
        return branch :: (← branches fuel)
      else pure [branch]

/-- Reads the items of one alternative, which are collected backwards. -/
def items : (fuel : Nat) → List Item → Reader (List Item)
  | 0, _ => refuse .tooLarge
  | fuel + 1, before => do
      skipSpace
      match ← peek? with
      | none | some ')' | some '|' => pure before
      | some '(' => items fuel ((← parenthesised fuel) :: before)
      | some '[' =>
          let set ← bracketed (2 * (← remaining).length + 2)
          items fuel (⟨some (.chars set.part), set.depth⟩ :: before)
      | some '*' =>
          bump
          items fuel (← repeatLast 0 none before)
      | some '+' =>
          bump
          items fuel (← repeatLast 1 none before)
      | some '?' =>
          bump
          items fuel (← repeatLast 0 (some 1) before)
      | some '\x7b' =>
          bump
          let (min, max?) ← bounds
          skipSpace
          items fuel (← repeatLast min max? before)
      | some _ => items fuel (⟨some (← primitive), 0⟩ :: before)

/-- Reads a group or a setting of options, from its opening parenthesis on. -/
def parenthesised : (fuel : Nat) → Reader Item
  | 0 => refuse .tooLarge
  | fuel + 1 => do
      let outer ← currentOptions
      match ← groupStart with
      | .settings options =>
          setOptions options
          pure ⟨none, 0⟩
      | .plain options =>
          setOptions options
          let body := alternation (← branches fuel)
          closeGroup
          setOptions outer
          pure ⟨some body.part, body.depth + 1⟩
      | .numbered index =>
          let body := alternation (← branches fuel)
          closeGroup
          setOptions outer
          pure ⟨some (.group index body.part), body.depth + 1⟩

/-- Passes over the closing parenthesis of a group. -/
def closeGroup : Reader Unit := do
  if (← takeOr .unclosedGroup) != ')' then refuse .unclosedGroup

end

/-- How deep a pattern may be nested. -/
def maxDepth : Nat := 250

/-- The expression that a text describes. -/
def Expr.parse (text : String) : Except PatternError Expr :=
  let chars := text.toList
  match branches (4 * chars.length + 4) ⟨chars, {}, 0, []⟩ with
  | .ok (list, cursor) =>
      let expr := alternation list
      if !cursor.rest.isEmpty then .error .unopenedGroup
      else if maxDepth < expr.depth then .error .tooDeep
      else .ok expr.part
  | .error error => .error error

end Pattern
end StringsAudit
