import StringsAudit.Line
import StringsAudit.Text.Blank

/-!
# Comments

Strings tables and Swift sources share their comments: a line that starts with `//`, and block
comments that may nest. Comments are removed by whole lines: a line is kept as it stands or
dropped.

## Main definitions

* `Comment.Depth` : how many nested block comments are honoured.
* `Comment.markers` : the block comment markers of a text.
* `Comment.scanLine` : what the markers of one line do to the open comments.
* `Comment.strip` : the lines outside comments, with a warning for each unmatched end.

## Main results

* `Comment.stripFrom_cons_of_isInert` : blank lines and `//` lines are passed over.
* `Comment.stripFrom_append` : stripping goes on where the lines before left off.
-/

namespace StringsAudit
namespace Comment

open Text

/-- How many nested block comments are honoured; a start past the limit is ordinary text. -/
inductive Depth where
  | unlimited
  | limited (max : Nat)
  deriving DecidableEq, Repr

/-- Whether one more block comment can be opened inside `depth` open ones. -/
def Depth.allows : Depth → Nat → Bool
  | .unlimited, _ => true
  | .limited max, depth => decide (depth < max)

/-- No number means no limit. -/
def Depth.ofOption : Option Nat → Depth
  | none => .unlimited
  | some max => .limited max

/-- The marker of a line comment. -/
def lineMarker : List Char := ['/', '/']

/-- The two markers of block comments. -/
inductive Marker where
  | opening
  | closing
  deriving DecidableEq, Repr

/-- The block comment markers of a text, from left to right and without overlap. -/
def markers : List Char → List Marker
  | '/' :: '*' :: rest => .opening :: markers rest
  | '*' :: '/' :: rest => .closing :: markers rest
  | _ :: rest => markers rest
  | [] => []

/-- An end of a block comment with no open comment before it. -/
structure Warning where
  line : Nat
  deriving DecidableEq, Repr

/-- The wording of a warning. -/
def Warning.message (_ : Warning) : String :=
  "unbalanced block comment end"

/-- The state of the scan of one line. -/
structure LineScan where
  /-- The open block comments. -/
  depth : Nat
  /-- The starts past the limit on this line that no end has paired with. -/
  ignored : Nat
  /-- Whether a marker of this line opened or closed a comment, or had nothing to close. -/
  touched : Bool
  /-- The ends that had nothing to close. -/
  unmatched : Nat
  deriving DecidableEq, Repr

/-- An end pairs first with a start past the limit, then with an open comment. -/
def LineScan.step (limit : Depth) (scan : LineScan) : Marker → LineScan
  | .opening =>
      if limit.allows scan.depth then
        { scan with depth := scan.depth + 1, touched := true }
      else { scan with ignored := scan.ignored + 1 }
  | .closing =>
      if 0 < scan.ignored then { scan with ignored := scan.ignored - 1 }
      else if 0 < scan.depth then { scan with depth := scan.depth - 1, touched := true }
      else { scan with unmatched := scan.unmatched + 1, touched := true }

/-- The scan of a line that starts inside `depth` open block comments. -/
def scanLine (limit : Depth) (depth : Nat) (text : List Char) : LineScan :=
  (markers text).foldl (LineScan.step limit) ⟨depth, 0, false, 0⟩

/-- Whether a line is blank or a line comment; its markers count for nothing. -/
def isInert (text : List Char) : Bool :=
  (trim text).isEmpty || lineMarker.isPrefixOf (trim text)

/-- The lines outside comments and the warnings raised on the way. -/
structure Stripped where
  lines : List Line
  warnings : List Warning
  deriving DecidableEq, Repr

/-- Whether a scanned line that starts inside `depth` open comments has no part in a comment. -/
def LineScan.isClear (depth : Nat) (scan : LineScan) : Bool :=
  depth == 0 && !scan.touched && scan.depth == 0

/-- Removes the comments of lines that start inside `depth` open block comments. -/
def stripFrom (limit : Depth) : Nat → List Line → Stripped
  | _, [] => ⟨[], []⟩
  | depth, line :: rest =>
      if isInert line.text.toList then stripFrom limit depth rest
      else
        let scan := scanLine limit depth (trim line.text.toList)
        let after := stripFrom limit scan.depth rest
        ⟨if scan.isClear depth then line :: after.lines else after.lines,
          List.replicate scan.unmatched ⟨line.number⟩ ++ after.warnings⟩

/-- Removes blank lines, line comments and the lines of block comments. -/
def strip (limit : Depth) (lines : List Line) : Stripped :=
  stripFrom limit 0 lines

/-- The lines of a content outside comments. -/
def stripContent (limit : Depth) (content : String) : Stripped :=
  strip limit (Line.ofContent content)

/-- The block comments that one more line leaves open. -/
def depthStep (limit : Depth) (depth : Nat) (line : Line) : Nat :=
  if isInert line.text.toList then depth
  else (scanLine limit depth (trim line.text.toList)).depth

/-- The block comments that lines leave open. -/
def depthAfter (limit : Depth) (depth : Nat) (lines : List Line) : Nat :=
  lines.foldl (depthStep limit) depth

@[simp] theorem stripFrom_nil
    (limit : Depth)
    (depth : Nat) :
    stripFrom limit depth [] = ⟨[], []⟩ := by
  rfl

/-- Blank lines and `//` lines are passed over. -/
theorem stripFrom_cons_of_isInert
    {limit : Depth}
    {depth : Nat}
    {line : Line}
    (rest : List Line)
    (h : isInert line.text.toList = true) :
    stripFrom limit depth (line :: rest) = stripFrom limit depth rest := by
  simp [stripFrom, h]

theorem stripFrom_cons
    {limit : Depth}
    {depth : Nat}
    {line : Line}
    (rest : List Line)
    (h : isInert line.text.toList = false) :
    stripFrom limit depth (line :: rest) =
      let scan := scanLine limit depth (trim line.text.toList)
      let after := stripFrom limit scan.depth rest
      ⟨if scan.isClear depth then line :: after.lines else after.lines,
        List.replicate scan.unmatched ⟨line.number⟩ ++ after.warnings⟩ := by
  simp [stripFrom, h]

@[simp] theorem depthAfter_nil
    (limit : Depth)
    (depth : Nat) :
    depthAfter limit depth [] = depth := by
  rfl

@[simp] theorem depthAfter_cons
    (limit : Depth)
    (depth : Nat)
    (line : Line)
    (rest : List Line) :
    depthAfter limit depth (line :: rest) =
      depthAfter limit (depthStep limit depth line) rest := by
  rfl

/-- Stripping goes on where the lines before left off. -/
theorem stripFrom_append
    (limit : Depth)
    (depth : Nat)
    (before after : List Line) :
    stripFrom limit depth (before ++ after) =
      ⟨(stripFrom limit depth before).lines
          ++ (stripFrom limit (depthAfter limit depth before) after).lines,
        (stripFrom limit depth before).warnings
          ++ (stripFrom limit (depthAfter limit depth before) after).warnings⟩ := by
  induction before generalizing depth with
  | nil => simp
  | cons line rest ih =>
      by_cases h : isInert line.text.toList = true
      · simp [stripFrom_cons_of_isInert _ h, ih, depthStep, h]
      · simp only [Bool.not_eq_true] at h
        simp only [List.cons_append, stripFrom_cons _ h, ih, depthAfter_cons, depthStep, h,
          Bool.false_eq_true, if_false, List.append_assoc]
        split <;> simp

end Comment
end StringsAudit
