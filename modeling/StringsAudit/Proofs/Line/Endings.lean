import StringsAudit.Proofs.Line.Content
import StringsAudit.Proofs.Line.Number

/-!
# Lines and the ways in which they end

A file may mix its line endings, lack the last one and start with a byte-order mark. None of this
is left in the lines that are read: they are the texts that were written, numbered from 1.

## Main definitions

* `Ending` : how a line ends.
* `AreWritable` : lines that can stand in a file one after the other.
* `write` : the content in which they do.

## Main results

* `texts_append_ending` : a line is read up to its ending.
* `ofContent_write` : the lines of a file are the texts that were written.
-/

namespace StringsAudit
namespace Line

/-- How a line ends. -/
inductive Ending where
  | lineFeed
  | returnAndLineFeed
  | endOfFile
  deriving DecidableEq, Repr

/-- What is written at the end of a line. -/
def Ending.chars : Ending → List Char
  | .lineFeed => ['\n']
  | .returnAndLineFeed => ['\r', '\n']
  | .endOfFile => []

/-- A text with the way in which its line ends. -/
structure EndedLine where
  text : String
  ending : Ending
  deriving DecidableEq, Repr

/-- What is written for a line. -/
def EndedLine.chars (line : EndedLine) : List Char :=
  line.text.toList ++ line.ending.chars

/-- A text that no ending runs into. -/
structure IsLineText (text : String) : Prop where
  one_line : '\n' ∉ text.toList
  not_return : text.toList.getLast? ≠ some '\r'

/-- Lines that can stand in a file: only the last one may end with the file, if it has a text. -/
inductive AreWritable : List EndedLine → Prop
  | nil : AreWritable []
  | ended
      {line : EndedLine}
      {rest : List EndedLine}
      (htext : IsLineText line.text)
      (hending : line.ending ≠ .endOfFile)
      (hrest : AreWritable rest) :
      AreWritable (line :: rest)
  | unended
      {text : String}
      (htext : IsLineText text)
      (hne : text ≠ "") :
      AreWritable [⟨text, .endOfFile⟩]

/-- The content of a file with given lines, which may start with a byte-order mark. -/
def write (marked : Bool) (lines : List EndedLine) : String :=
  String.ofList ((if marked then [byteOrderMark] else []) ++ lines.flatMap EndedLine.chars)

/-- A line is read up to its ending. -/
theorem texts_append_ending
    {line : EndedLine}
    (rest : List Char)
    (htext : IsLineText line.text)
    (hending : line.ending ≠ .endOfFile) :
    texts (line.chars ++ rest) = line.text.toList :: texts rest := by
  obtain ⟨text, ending⟩ := line
  rw [EndedLine.chars, List.append_assoc]
  cases ending with
  | lineFeed =>
      have hline := texts_line_append rest htext.one_line
      rwa [finish_reverse_of_getLast? htext.not_return] at hline
  | returnAndLineFeed => exact texts_line_append_return rest htext.one_line
  | endOfFile => exact absurd rfl hending

theorem texts_flatMap_chars
    {lines : List EndedLine}
    (h : AreWritable lines) :
    texts (lines.flatMap EndedLine.chars) = lines.map fun line => line.text.toList := by
  induction h with
  | nil => rfl
  | ended htext hending _ ih =>
      rw [List.flatMap_cons, texts_append_ending _ htext hending, ih, List.map_cons]
  | @unended text htext hne =>
      have hchars : text.toList ≠ [] := mt String.toList_eq_nil_iff.mp hne
      rw [List.flatMap_singleton, EndedLine.chars, Ending.chars, List.append_nil]
      exact texts_of_not_mem htext.one_line hchars

/-- What is written starts with a byte-order mark only if the first text does. -/
theorem head?_flatMap_chars_ne
    {lines : List EndedLine}
    (h : AreWritable lines)
    (hfirst : ∀ line ∈ lines.head?, line.text.toList.head? ≠ some byteOrderMark) :
    (lines.flatMap EndedLine.chars).head? ≠ some byteOrderMark := by
  cases h with
  | nil => exact nofun
  | @ended line rest _ hending _ =>
      rw [List.flatMap_cons, EndedLine.chars, List.append_assoc]
      refine head?_append_ne_byteOrderMark (hfirst line rfl) fun _ => ?_
      obtain ⟨text, ending⟩ := line
      cases ending with
      | lineFeed => exact head?_cons_ne_byteOrderMark _ (by decide)
      | returnAndLineFeed => exact head?_cons_ne_byteOrderMark _ (by decide)
      | endOfFile => exact absurd rfl hending
  | unended =>
      rw [List.flatMap_singleton, EndedLine.chars]
      exact head?_append_ne_byteOrderMark (hfirst _ rfl) fun _ => nofun

theorem numberFrom_map_toList
    (first : Nat)
    (lines : List EndedLine) :
    numberFrom first (lines.map fun line => line.text.toList) =
      lines.mapIdx fun index line => ⟨first + index, line.text⟩ := by
  refine List.ext_getElem? fun index => ?_
  rw [getElem?_numberFrom, List.getElem?_mapIdx, List.getElem?_map, Option.map_map]
  simp only [Function.comp_def, String.ofList_toList]

/--
The lines of a file are the texts that were written, numbered from 1, whichever ending each of them
has, and with or without a byte-order mark in front.
-/
theorem ofContent_write
    {lines : List EndedLine}
    (hlines : AreWritable lines)
    (marked : Bool)
    (hmark : marked = false →
      ∀ line ∈ lines.head?, line.text.toList.head? ≠ some byteOrderMark) :
    ofContent (write marked lines) = lines.mapIdx fun index line => ⟨index + 1, line.text⟩ := by
  have hdrop : dropByteOrderMark (write marked lines).toList = lines.flatMap EndedLine.chars := by
    rw [write, String.toList_ofList, dropByteOrderMark_append]
    · cases marked <;> rfl
    · intro hempty
      cases marked with
      | false => exact head?_flatMap_chars_ne hlines (hmark rfl)
      | true => exact absurd hempty (List.cons_ne_nil _ _)
  rw [ofContent, hdrop, texts_flatMap_chars hlines, numberFrom_map_toList]
  simp only [Nat.add_comm 1]

/-- Mixed endings, an empty line, and a carriage return and a mark that belong to their texts. -/
theorem ofContent_write_mixed :
    let lines : List EndedLine :=
      [⟨"", .returnAndLineFeed⟩, ⟨"a\rb", .lineFeed⟩, ⟨"\uFEFFc", .endOfFile⟩]
    AreWritable lines ∧
    (∀ line ∈ lines.head?, line.text.toList.head? ≠ some byteOrderMark) ∧
    write false lines = "\r\na\rb\n\uFEFFc" ∧
    ofContent "\r\na\rb\n\uFEFFc" = [⟨1, ""⟩, ⟨2, "a\rb"⟩, ⟨3, "\uFEFFc"⟩] := by
  intro lines
  have hlines : AreWritable lines :=
    .ended ⟨by decide, by decide⟩ (by decide) <|
      .ended ⟨by decide, by decide⟩ (by decide) <|
        .unended ⟨by decide, by decide⟩ (by decide)
  have hmark : ∀ line ∈ lines.head?, line.text.toList.head? ≠ some byteOrderMark := by
    simp [lines]
  have hwritten : write false lines = "\r\na\rb\n\uFEFFc" := by decide +kernel
  refine ⟨hlines, hmark, hwritten, ?_⟩
  rw [← hwritten]
  exact ofContent_write hlines false fun _ => hmark

end Line
end StringsAudit
