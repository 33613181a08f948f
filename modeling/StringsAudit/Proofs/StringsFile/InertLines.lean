import StringsAudit.Proofs.Assignments
import StringsAudit.Proofs.Comment.InertLines
import StringsAudit.StringsFile

/-!
# Blank lines and line comments in a strings file

What a line says does not depend on its number, which is only carried along: into the entry of its
key or into a warning. So a file in which lines have other numbers is read as the same file with
these numbers, and this is all that blank lines and line comments between its lines can do.

## Main definitions

* `Parsed.renumber` : what was read of a file, with the numbers of its lines changed.

## Main results

* `readLine_renumber` : what a line says is the same under another number.
* `ofAssignments_map_renumber` : keys, values and counts are the same under other numbers.
* `parse_intercalate_of_isInsertion` : inserted lines change nothing but numbers.
-/

namespace StringsAudit

/-- An entry with the number of its line changed. -/
def Entry.renumber (entry : Entry) (number : Nat → Nat) : Entry :=
  { entry with line := number entry.line }

/-- An assignment with the number of its line changed. -/
def Assignment.renumber (assignment : Assignment) (number : Nat → Nat) : Assignment :=
  { assignment with entry := assignment.entry.renumber number }

namespace Database

/-- A database with the numbers of the lines of its entries changed. -/
def renumber (db : Database) (number : Nat → Nat) : Database :=
  { db with entries := db.entries.map (·.renumber number) }

theorem assign_renumber
    (db : Database)
    (assignment : Assignment)
    (number : Nat → Nat) :
    (db.renumber number).assign (assignment.renumber number) =
      (db.assign assignment).renumber number := by
  rw [renumber, renumber, assign, assign, Dict.map_insert]
  rfl

/-- Keys, values and counts are the same when lines have other numbers. -/
theorem ofAssignments_map_renumber
    (name locale file : String)
    (list : List Assignment)
    (number : Nat → Nat) :
    ofAssignments name locale file (list.map (·.renumber number)) =
      (ofAssignments name locale file list).renumber number := by
  induction list using List.reverseRecOn with
  | nil => rfl
  | append_singleton list last ih =>
      rw [List.map_append, List.map_singleton, ofAssignments_append_singleton, ih,
        assign_renumber, ofAssignments_append_singleton]

end Database

namespace StringsFile

open Comment

/-- A warning with the number of its line changed. -/
def Warning.renumber (warning : Warning) (number : Nat → Nat) : Warning :=
  { warning with line := number warning.line }

/-- What a line says, with its number changed. -/
def Reading.renumber (reading : Reading) (number : Nat → Nat) : Reading :=
  match reading with
  | .nothing => .nothing
  | .assignment own => .assignment (own.renumber number)
  | .malformed warning => .malformed (warning.renumber number)

/-- What was read of a file, with the numbers of its lines changed. -/
def Parsed.renumber (parsed : Parsed) (number : Nat → Nat) : Parsed :=
  ⟨parsed.database.renumber number, parsed.commentWarnings.map (·.renumber number),
    parsed.entryWarnings.map (·.renumber number)⟩

variable {number : Nat → Nat}

/-! ### What lines say -/

theorem assignment?_renumber
    (own : Nat)
    (code : List Char) :
    assignment? (number own) code = (assignment? own code).map (·.renumber number) := by
  rw [assignment?, assignment?]
  split <;> rfl

/-- What a line says is the same when it has another number. -/
theorem readLine_renumber
    (line : Line) :
    readLine (line.renumber number) = (readLine line).renumber number := by
  rw [readLine, readLine]
  simp only [Line.text_renumber, Line.number_renumber, assignment?_renumber]
  split
  next => rfl
  next =>
    split
    next => cases assignment? line.number (codeOf (Text.trim line.text.toList)) <;> rfl
    next => split <;> rfl

theorem assignments_map_renumber
    (lines : List Line) :
    assignments (lines.map (·.renumber number)) =
      (assignments lines).map (·.renumber number) := by
  rw [assignments, List.filterMap_map, assignments, List.map_filterMap]
  refine List.filterMap_congr fun line _ => ?_
  rw [Function.comp_apply, readLine_renumber]
  cases readLine line <;> rfl

theorem warnings_map_renumber
    (lines : List Line) :
    warnings (lines.map (·.renumber number)) = (warnings lines).map (·.renumber number) := by
  rw [warnings, List.filterMap_map, warnings, List.map_filterMap]
  refine List.filterMap_congr fun line _ => ?_
  rw [Function.comp_apply, readLine_renumber]
  cases readLine line <;> rfl

/-! ### Inserted lines -/

/--
Blank lines and line comments between the lines of a file, also inside of its block comments, change
nothing of what is read but the numbers of the lines, each of which is found at its new place.
-/
theorem parse_intercalate_of_isInsertion
    {place : Nat → Nat}
    {original extended : List String}
    (hinsertion : IsInsertion place original extended)
    (horiginal : AreLines original)
    (file suffix : String)
    (limit : Depth) :
    parse ("\n".intercalate extended) file suffix limit =
      (parse ("\n".intercalate original) file suffix limit).renumber fun number =>
        place (number - 1) + 1 := by
  rw [parse, stripContent_of_isInsertion hinsertion horiginal]
  simp only [parse, Stripped.renumber, assignments_map_renumber, warnings_map_renumber,
    Database.ofAssignments_map_renumber]
  rfl

/-- An end of a block comment in a line comment, and a blank line, both inside a block comment. -/
theorem parse_with_lines_in_block_comment :
    let original :=
      ["/* open", "\"hidden\" = \"h\";", "*/ */", "\"key\" = \"value\";", "\"broken\" = \"b\""]
    let extended :=
      ["/* open", "// */", "\"hidden\" = \"h\";", "", "*/ */", "\"key\" = \"value\";",
        "\"broken\" = \"b\""]
    AreLines original ∧
      ∃ place, IsInsertion place original extended ∧ place 3 = 5 ∧
        parse ("\n".intercalate extended) "en.lproj/A.strings" ".lproj" .unlimited =
          (parse ("\n".intercalate original) "en.lproj/A.strings" ".lproj" .unlimited).renumber
            fun number => place (number - 1) + 1 := by
  intro original extended
  have horiginal : AreLines original := ⟨by decide +kernel, by decide +kernel, by decide +kernel⟩
  have hcomment : IsPassedOver "// */" := ⟨by decide, .inr (by decide)⟩
  have hblank : IsPassedOver "" := ⟨by decide, .inl rfl⟩
  have honce := IsInsertion.insert (original.take 1) (original.drop 1) (.refl original) hcomment
  have htwice := IsInsertion.insert (extended.take 3) (extended.drop 4) honce hblank
  refine ⟨horiginal, _, htwice, rfl, ?_⟩
  exact parse_intercalate_of_isInsertion htwice horiginal "en.lproj/A.strings" ".lproj" .unlimited

end StringsFile
end StringsAudit
