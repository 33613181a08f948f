/-!
# Physical lines

## Main definitions

* `Line` : one line of a file with its 1-based number.
* `Line.texts` : the texts of the lines of a content.
* `Line.ofContent` : the numbered lines of a content.

## Main results

* `Line.textsFrom_append` : text without a line feed is read into the first line.
-/

namespace StringsAudit

/-- One line of a file, with its 1-based number. -/
structure Line where
  number : Nat
  text : String
  deriving DecidableEq, Repr

namespace Line

/-- The character that some editors write in front of a file. -/
def byteOrderMark : Char := '\uFEFF'

/-- A content without a leading byte-order mark. -/
def dropByteOrderMark : List Char → List Char
  | c :: rest => if c == byteOrderMark then rest else c :: rest
  | [] => []

/-- A finished line, given backwards: a carriage return before the line feed is not part of it. -/
def finish : List Char → List Char
  | '\r' :: reversed => reversed.reverse
  | reversed => reversed.reverse

/--
The texts of the lines of a content, where `reversed` holds what was read of the first one. A line
ends at a line feed; what follows the last line feed is a line unless it is empty.
-/
def textsFrom : List Char → List Char → List (List Char)
  | [], [] => []
  | reversed, [] => [reversed.reverse]
  | reversed, '\n' :: rest => finish reversed :: textsFrom [] rest
  | reversed, c :: rest => textsFrom (c :: reversed) rest

/-- The texts of the lines of a content. -/
def texts (content : List Char) : List (List Char) :=
  textsFrom [] content

/-- Texts as lines numbered from `first`. -/
def numberFrom : Nat → List (List Char) → List Line
  | _, [] => []
  | first, text :: rest => ⟨first, String.ofList text⟩ :: numberFrom (first + 1) rest

/-- The numbered lines of a content; a leading byte-order mark belongs to none of them. -/
def ofContent (content : String) : List Line :=
  numberFrom 1 (texts (dropByteOrderMark content.toList))

@[simp] theorem textsFrom_nil_nil :
    textsFrom [] [] = [] := by
  rfl

@[simp] theorem textsFrom_lineFeed
    (reversed rest : List Char) :
    textsFrom reversed ('\n' :: rest) = finish reversed :: textsFrom [] rest := by
  cases reversed <;> rfl

theorem textsFrom_cons
    {c : Char}
    (reversed rest : List Char)
    (h : c ≠ '\n') :
    textsFrom reversed (c :: rest) = textsFrom (c :: reversed) rest := by
  rw [textsFrom]
  exact h

theorem textsFrom_append
    {text : List Char}
    (reversed rest : List Char)
    (h : '\n' ∉ text) :
    textsFrom reversed (text ++ rest) = textsFrom (text.reverse ++ reversed) rest := by
  induction text generalizing reversed with
  | nil => rfl
  | cons c text ih =>
      simp only [List.mem_cons, not_or] at h
      rw [List.cons_append, textsFrom_cons _ _ (Ne.symm h.1), ih _ h.2]
      simp

@[simp] theorem length_numberFrom
    (first : Nat)
    (list : List (List Char)) :
    (numberFrom first list).length = list.length := by
  induction list generalizing first with
  | nil => rfl
  | cons text rest ih => simp [numberFrom, ih]

end Line
end StringsAudit
