import StringsAudit.Proofs.Assignments
import StringsAudit.Proofs.Line.Content
import StringsAudit.Proofs.Line.Number
import StringsAudit.Proofs.StringsFile.EntryLine

/-!
# Reading what was written

Pairs of keys and values are written one on a line. Reading the lines gives the pairs back, with
the numbers of their lines: no line is taken for a comment, whatever the depth limit, and each line
has its one separator between key and value.

## Main definitions

* `render` : the content that is written for pairs.
* `numbered` : pairs as the assignments of consecutive lines.

## Main results

* `assignments_numberFrom` : the lines of pairs are read as their assignments.
* `parse_render` : a written file is read without warnings, the last pair of a key gives its entry
  and the number of its pairs is its count.
-/

namespace StringsAudit
namespace StringsFile

open Text Comment

/-- The content that is written for pairs of keys and values, one on a line. -/
def render (pairs : List (String × String)) : String :=
  "\n".intercalate (pairs.map fun pair => entryText pair.1 pair.2)

def lineTexts (pairs : List (String × String)) : List (List Char) :=
  pairs.map fun pair => (entryText pair.1 pair.2).toList

/-- Pairs as the assignments of consecutive lines. -/
def numbered (first : Nat) (pairs : List (String × String)) : List Assignment :=
  pairs.mapIdx fun index pair => ⟨pair.1, first + index, pair.2⟩

/-- Pairs of texts that can stand in quotes as they are. -/
def AllWritable (pairs : List (String × String)) : Prop :=
  ∀ pair ∈ pairs, IsWritable pair.1 ∧ IsWritable pair.2

instance (pairs : List (String × String)) : Decidable (AllWritable pairs) :=
  inferInstanceAs (Decidable (∀ pair ∈ pairs, _))

theorem toList_render
    (pairs : List (String × String)) :
    (render pairs).toList = ['\n'].intercalate (lineTexts pairs) := by
  simp [render, lineTexts, Function.comp_def]

theorem dropByteOrderMark_render
    (pairs : List (String × String)) :
    Line.dropByteOrderMark (render pairs).toList = (render pairs).toList := by
  rw [toList_render]
  refine Line.dropByteOrderMark_intercalate fun text htext => ?_
  obtain ⟨pair, -, rfl⟩ := List.mem_map.mp (List.mem_of_mem_head? htext)
  rw [toList_entryText]
  exact Line.head?_cons_ne_byteOrderMark _ (by decide)

theorem ofContent_render
    {pairs : List (String × String)}
    (hpairs : AllWritable pairs) :
    Line.ofContent (render pairs) = Line.numberFrom 1 (lineTexts pairs) := by
  rw [Line.ofContent, dropByteOrderMark_render, toList_render, Line.texts_intercalate]
  · intro text htext
    obtain ⟨pair, hpair, rfl⟩ := List.mem_map.mp htext
    exact lineFeed_not_mem_entryText (hpairs pair hpair).1.one_line (hpairs pair hpair).2.one_line
  · intro text htext
    obtain ⟨pair, -, rfl⟩ := List.mem_map.mp htext
    rw [getLast?_entryText]
    decide
  · intro text htext
    obtain ⟨pair, -, rfl⟩ := List.mem_map.mp htext
    rw [toList_entryText]
    exact List.cons_ne_nil _ _

/-- Every line of a written content is the line of one of its pairs. -/
theorem text_of_mem_numberFrom
    {pairs : List (String × String)}
    {first : Nat}
    {line : Line}
    (h : line ∈ Line.numberFrom first (lineTexts pairs)) :
    ∃ pair ∈ pairs, line.text = entryText pair.1 pair.2 := by
  obtain ⟨-, htext⟩ := Line.mem_numberFrom_iff.mp h
  obtain ⟨pair, hpair, heq⟩ := List.mem_map.mp (List.mem_of_getElem? htext)
  exact ⟨pair, hpair, (String.toList_inj.mp heq).symm⟩

/-- No line of a written content is taken for a comment, whatever the depth limit. -/
theorem strip_numberFrom_lineTexts
    {pairs : List (String × String)}
    (hpairs : AllWritable pairs)
    (first : Nat)
    (limit : Depth) :
    strip limit (Line.numberFrom first (lineTexts pairs)) =
      ⟨Line.numberFrom first (lineTexts pairs), []⟩ := by
  rw [strip_eq_self_iff]
  intro line hline
  obtain ⟨pair, hpair, htext⟩ := text_of_mem_numberFrom hline
  refine isPlain_of_markers_eq_nil limit ?_ ?_
  · rw [htext]
    exact isInert_entryText pair.1 pair.2
  · rw [htext, trim_entryText]
    exact markers_entryText (hpairs pair hpair).1 (hpairs pair hpair).2

@[simp] theorem numbered_cons
    (first : Nat)
    (pair : String × String)
    (rest : List (String × String)) :
    numbered first (pair :: rest) = ⟨pair.1, first, pair.2⟩ :: numbered (first + 1) rest := by
  simp [numbered, Nat.add_assoc, Nat.add_comm 1]

/-- The lines of pairs are read as their assignments. -/
theorem assignments_numberFrom
    {pairs : List (String × String)}
    (hpairs : AllWritable pairs)
    (first : Nat) :
    assignments (Line.numberFrom first (lineTexts pairs)) = numbered first pairs := by
  induction pairs generalizing first with
  | nil => rfl
  | cons pair rest ih =>
      obtain ⟨hkey, hvalue⟩ := hpairs pair List.mem_cons_self
      have hrest :=
        ih (fun other hother => hpairs other (List.mem_cons_of_mem pair hother)) (first + 1)
      rw [assignments] at hrest
      rw [lineTexts, List.map_cons, Line.numberFrom, String.ofList_toList, assignments,
        List.filterMap_cons, readLine_entryText first hkey hvalue, numbered_cons, ← hrest]
      rfl

theorem warnings_numberFrom
    {pairs : List (String × String)}
    (hpairs : AllWritable pairs)
    (first : Nat) :
    warnings (Line.numberFrom first (lineTexts pairs)) = [] := by
  rw [warnings, List.filterMap_eq_nil_iff]
  intro line hline
  obtain ⟨pair, hpair, htext⟩ := text_of_mem_numberFrom hline
  obtain ⟨number, text⟩ := line
  obtain ⟨hkey, hvalue⟩ := hpairs pair hpair
  subst htext
  rw [readLine_entryText number hkey hvalue]

theorem parse_render_eq
    {pairs : List (String × String)}
    (hpairs : AllWritable pairs)
    (file suffix : String)
    (limit : Depth) :
    parse (render pairs) file suffix limit =
      let folder := (LocaleFolder.ofPath? suffix ⟨file⟩).getD ⟨file, file⟩
      ⟨.ofAssignments folder.name folder.locale file (numbered 1 pairs), [], []⟩ := by
  rw [parse, stripContent, ofContent_render hpairs, strip_numberFrom_lineTexts hpairs,
    assignments_numberFrom hpairs, warnings_numberFrom hpairs]

theorem numbered_append
    (first : Nat)
    (before after : List (String × String)) :
    numbered first (before ++ after) =
      numbered first before ++ numbered (first + before.length) after := by
  induction before generalizing first with
  | nil => rfl
  | cons pair before ih =>
      rw [List.cons_append, numbered_cons, ih, numbered_cons, List.cons_append, List.length_cons,
        Nat.add_right_comm, Nat.add_assoc]

theorem keys_numbered
    (first : Nat)
    (pairs : List (String × String)) :
    (numbered first pairs).map (·.key) = pairs.map (·.1) := by
  induction pairs generalizing first with
  | nil => rfl
  | cons pair rest ih => simp [ih]

/-- The last assignment of a key stands on the line of the last pair of the key. -/
theorem numbered_eq_append_cons_iff
    {first line : Nat}
    {pairs : List (String × String)}
    {key value : String} :
    (∃ before after,
      numbered first pairs = before ++ ⟨key, line, value⟩ :: after ∧
      ∀ assignment ∈ after, assignment.key ≠ key) ↔
    ∃ before after,
      pairs = before ++ (key, value) :: after ∧
      line = before.length + first ∧
      ∀ pair ∈ after, pair.1 ≠ key := by
  constructor
  · rintro ⟨before, after, heq, hafter⟩
    obtain ⟨left, right, rfl, -, hright⟩ := List.mapIdx_eq_append_iff.mp heq
    obtain ⟨pair, rest, rfl, hpair, hrest⟩ := List.mapIdx_eq_cons_iff.mp hright
    simp only [Nat.zero_add, Assignment.mk.injEq, Entry.mk.injEq] at hpair
    obtain ⟨rfl, rfl, rfl⟩ := hpair
    refine ⟨left, rest, rfl, Nat.add_comm first left.length, fun other hother hsame => ?_⟩
    obtain ⟨index, hindex, rfl⟩ := List.mem_iff_getElem.mp hother
    subst hrest
    refine hafter _ (List.mem_mapIdx.mpr ⟨index, hindex, rfl⟩) hsame
  · rintro ⟨before, after, rfl, rfl, hafter⟩
    refine ⟨numbered first before, numbered (first + before.length + 1) after, ?_, ?_⟩
    · rw [numbered_append, numbered_cons, Nat.add_comm first]
    · intro assignment hassignment
      have hkey : assignment.key ∈ (numbered (first + before.length + 1) after).map (·.key) :=
        List.mem_map_of_mem hassignment
      rw [keys_numbered] at hkey
      obtain ⟨pair, hpair, heq⟩ := List.mem_map.mp hkey
      rw [← heq]
      exact hafter pair hpair

/--
A written file is read without warnings. The count of a key is the number of its pairs, and its
entry is that of its last pair, on the line where that pair stands; no other key is found.
-/
theorem parse_render
    {pairs : List (String × String)}
    (hpairs : AllWritable pairs)
    (file suffix : String)
    (limit : Depth) :
    (parse (render pairs) file suffix limit).commentWarnings = [] ∧
    (parse (render pairs) file suffix limit).entryWarnings = [] ∧
    (∀ key,
      (parse (render pairs) file suffix limit).database.counts.find? key =
        if (pairs.map (·.1)).count key = 0 then none else some ((pairs.map (·.1)).count key)) ∧
    ∀ key line value,
      (parse (render pairs) file suffix limit).database.entries.find? key = some ⟨line, value⟩ ↔
        ∃ before after,
          pairs = before ++ (key, value) :: after ∧
          line = before.length + 1 ∧
          ∀ pair ∈ after, pair.1 ≠ key := by
  rw [parse_render_eq hpairs]
  refine ⟨rfl, rfl, fun key => ?_, fun key line value => ?_⟩
  · rw [Database.counts_ofAssignments, Database.timesAssigned, keys_numbered]
  · rw [← numbered_eq_append_cons_iff]
    exact Database.find?_ofAssignments_eq_some_iff

/-- A key that is written twice, around an entry without a key and with delimiters inside. -/
theorem parse_render_greeting :
    AllWritable [("greeting", "hi"), ("", "a \";= / b"), ("greeting", "hello")] ∧
      (parse (render [("greeting", "hi"), ("", "a \";= / b"), ("greeting", "hello")])
        "en.lproj/A.strings" ".lproj" (.limited 1)).database.counts.find? "greeting" = some 2 ∧
      (parse (render [("greeting", "hi"), ("", "a \";= / b"), ("greeting", "hello")])
        "en.lproj/A.strings" ".lproj" (.limited 1)).database.entries.find? "greeting" =
          some ⟨3, "hello"⟩ := by
  have hpairs : AllWritable [("greeting", "hi"), ("", "a \";= / b"), ("greeting", "hello")] := by
    decide +kernel
  obtain ⟨-, -, hcounts, hfound⟩ := parse_render hpairs "en.lproj/A.strings" ".lproj" (.limited 1)
  refine ⟨hpairs, ?_, ?_⟩
  · rw [hcounts]
    simp
  · rw [hfound]
    exact ⟨[("greeting", "hi"), ("", "a \";= / b")], [], rfl, rfl, by simp⟩

end StringsFile
end StringsAudit
