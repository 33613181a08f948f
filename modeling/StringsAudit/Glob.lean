/-!
# Glob patterns

A glob pattern matches a whole path below the audited folder. `?` stands for any one character and
`*` for any text; both may cross separators. `[...]` stands for one character of a set, `[!...]`
for one outside it. `**` stands for any number of whole path components, and must be one itself.

## Main definitions

* `Glob.acceptsTokens` : whether pieces of a pattern match a text.
* `Glob.parse` : the pattern that a text describes, or what is wrong with it.
-/

namespace StringsAudit

/-- One element of the set in a bracket. -/
inductive GlobRange where
  | single (c : Char)
  | between (first last : Char)
  deriving DecidableEq, Repr

/-- Whether a character is that element or lies in that range. -/
def GlobRange.has : GlobRange → Char → Bool
  | .single d, c => c == d
  | .between first last, c => decide (first ≤ c ∧ c ≤ last)

/-- One piece of a glob pattern. -/
inductive GlobToken where
  | literal (c : Char)
  /-- Any one character. -/
  | anyChar
  | oneOf (ranges : List GlobRange)
  | noneOf (ranges : List GlobRange)
  /-- Any text. -/
  | anyText
  /-- Any number of whole path components. -/
  | anyComponents
  deriving DecidableEq, Repr

/-- What is wrong with the text of a glob pattern. -/
inductive GlobFault where
  | tooManyStars
  | partialComponent
  | badRange
  deriving DecidableEq, Repr

/-- What is wrong with the text of a glob pattern, and near which character. -/
structure GlobError where
  position : Nat
  fault : GlobFault
  deriving DecidableEq, Repr

/-- The wording of a fault. -/
def GlobFault.message : GlobFault → String
  | .tooManyStars => "wildcards are either regular `*` or recursive `**`"
  | .partialComponent => "recursive wildcards must form a single path component"
  | .badRange => "invalid range pattern"

/-- The wording of an error. -/
def GlobError.message (error : GlobError) : String :=
  s!"Pattern syntax error near position {error.position}: {error.fault.message}"

/-- A compiled glob pattern, given by the paths that it matches. -/
structure Glob where
  /-- Whether the pattern matches a path. -/
  accepts : String → Bool

namespace Glob

/-- The elements of a set; a dash between two characters makes a range of them. -/
def ranges : List Char → List GlobRange
  | first :: '-' :: last :: rest => .between first last :: ranges rest
  | c :: rest => .single c :: ranges rest
  | [] => []

/-- The text before a closing bracket and the text after it. -/
def closeBracket? (text : List Char) : Option (List Char × List Char) :=
  match text.dropWhile (· != ']') with
  | _ :: after => some (text.takeWhile (· != ']'), after)
  | [] => none

/--
The set that a text after an opening bracket starts with, and the text after it. The first
character of a set may be a closing bracket.
-/
def readSet? : List Char → Option (GlobToken × List Char)
  | '!' :: first :: rest =>
      (closeBracket? rest).map fun (body, after) => (.noneOf (ranges (first :: body)), after)
  | first :: rest =>
      if first == '!' then none
      else (closeBracket? rest).map fun (body, after) => (.oneOf (ranges (first :: body)), after)
  | [] => none

/--
Reads a pattern from a position, where `before?` is the character before it. There are at most
`fuel` pieces left to read.
-/
def readFrom : (fuel : Nat) → (position : Nat) → (before? : Option Char) → List Char →
    Except GlobError (List GlobToken)
  | 0, _, _, _ => .ok []
  | _, _, _, [] => .ok []
  | fuel + 1, position, before?, '*' :: rest =>
      let stars := (rest.takeWhile (· == '*')).length + 1
      let after := rest.drop (stars - 1)
      if 2 < stars then .error ⟨position + 2, .tooManyStars⟩
      else if stars == 1 then
        (readFrom fuel (position + 1) (some '*') rest).map (.anyText :: ·)
      else if before?.any (· != '/') then .error ⟨position - 1, .partialComponent⟩
      else
        match after with
        | [] => .ok [.anyComponents]
        | '/' :: more =>
            (readFrom fuel (position + 3) (some '/') more).map (.anyComponents :: ·)
        | _ => .error ⟨position + 2, .partialComponent⟩
  | fuel + 1, position, _, '?' :: rest =>
      (readFrom fuel (position + 1) (some '?') rest).map (.anyChar :: ·)
  | fuel + 1, position, _, '[' :: rest =>
      match readSet? rest with
      | some (token, after) =>
          (readFrom fuel (position + 1 + (rest.length - after.length)) (some ']') after).map
            (token :: ·)
      | none => .error ⟨position, .badRange⟩
  | fuel + 1, position, _, c :: rest =>
      (readFrom fuel (position + 1) (some c) rest).map (.literal c :: ·)

/-- Whether some ending of a text satisfies a test. -/
def someSuffix (test : List Char → Bool) : List Char → Bool
  | [] => test []
  | c :: rest => test (c :: rest) || someSuffix test rest

/-- Whether the end of a text, or what follows one of its separators, satisfies a test. -/
def someComponentStart (test : List Char → Bool) : List Char → Bool
  | [] => test []
  | c :: rest => (c == '/' && test rest) || someComponentStart test rest

/-- Whether pieces of a pattern match a whole text. -/
def acceptsTokens : List GlobToken → List Char → Bool
  | [], text => text.isEmpty
  | .anyText :: rest, text => someSuffix (acceptsTokens rest) text
  | .anyComponents :: rest, text =>
      acceptsTokens rest text || someComponentStart (acceptsTokens rest) text
  | _ :: _, [] => false
  | .literal d :: rest, c :: text => c == d && acceptsTokens rest text
  | .anyChar :: rest, _ :: text => acceptsTokens rest text
  | .oneOf set :: rest, c :: text => set.any (·.has c) && acceptsTokens rest text
  | .noneOf set :: rest, c :: text => !set.any (·.has c) && acceptsTokens rest text

/-- The pattern that a text describes. -/
def parse (text : String) : Except GlobError Glob :=
  (readFrom text.length 0 none text.toList).map fun tokens =>
    ⟨fun path => acceptsTokens tokens path.toList⟩

end Glob
end StringsAudit
