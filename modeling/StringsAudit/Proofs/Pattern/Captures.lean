import Mathlib.Data.String.Basic
import StringsAudit.Proofs.Pattern.Matches
import StringsAudit.UsagePattern

/-!
# Matches by byte offsets

A match is reported by byte offsets, and a site by the column of a character. An offset between two
characters has a number of characters before it, which grows with the offset; so what is known of
the offsets of matches holds of their columns too. All that is asked of the matches is that they
lie on boundaries, come one after the other without overlap, and hold their first groups; the
project's own search sees to that for every pattern.

## Main definitions

* `AreSuccessiveIn` : matches of a text that do not overlap, on boundaries between characters.

## Main results

* `UsagePattern.extract_prefix_drop_column` : the text of a span stands at its column.
* `UsagePattern.column_add_length_le` : a span ends before the column of a later offset.
* `Regex.areSuccessiveIn_captures` : the matches that the project's own search finds.
-/

namespace StringsAudit

open String (utf8Len)

/-! ### Columns -/

namespace UsagePattern

variable {text : String} {start stop later : String.Pos.Raw}

/-- An offset between characters comes behind some of them. -/
theorem exists_utf8Len_of_isValid
    (h : start.IsValid text) :
    ∃ before after, text = String.ofList (before ++ after) ∧ start = ⟨utf8Len before⟩ := by
  obtain ⟨first, second, rfl, rfl⟩ := String.Pos.Raw.isValid_iff_exists_append.mp h
  refine ⟨first.toList, second.toList, ?_, ?_⟩
  · rw [String.ofList_append, String.ofList_toList, String.ofList_toList]
  · rw [← String.rawEndPos_ofList, String.ofList_toList]

theorem extract_utf8Len
    (before inside after : List Char) :
    String.Pos.Raw.extract (String.ofList (before ++ inside ++ after)) ⟨utf8Len before⟩
      ⟨utf8Len (before ++ inside)⟩ = String.ofList inside := by
  rw [String.utf8Len_append]
  exact String.extract_of_valid before inside after

/-- The column of an offset is told by the characters before it. -/
theorem column_utf8Len
    (before after : List Char) :
    column (String.ofList (before ++ after)) ⟨utf8Len before⟩ = before.length + 1 := by
  have hextract : String.Pos.Raw.extract (String.ofList (before ++ after)) 0 ⟨utf8Len before⟩ =
      String.ofList before := extract_utf8Len [] before after
  rw [column, hextract, String.length_ofList]

/-- Of two initial parts of a text, the one with more bytes goes on where the other ends. -/
theorem prefix_of_utf8Len_le
    {first second chars : List Char}
    (hfirst : first <+: chars)
    (hsecond : second <+: chars)
    (hle : utf8Len first ≤ utf8Len second) :
    first <+: second := by
  rcases List.prefix_or_prefix_of_prefix hfirst hsecond with hprefix | ⟨rest, hrest⟩
  · exact hprefix
  · have hnone : rest = [] := by
      rw [← String.utf8Len_eq_zero]
      rw [← hrest, String.utf8Len_append] at hle
      omega
    rw [hnone, List.append_nil] at hrest
    exact hrest ▸ List.prefix_refl second

/-- Two offsets between characters, and the characters between them. -/
theorem exists_utf8Len_append_of_le
    (hstart : start.IsValid text)
    (hstop : stop.IsValid text)
    (hle : start ≤ stop) :
    ∃ before inside after, text = String.ofList (before ++ inside ++ after) ∧
      start = ⟨utf8Len before⟩ ∧ stop = ⟨utf8Len (before ++ inside)⟩ := by
  obtain ⟨before, behind, rfl, rfl⟩ := exists_utf8Len_of_isValid hstart
  obtain ⟨first, after, htext, rfl⟩ := exists_utf8Len_of_isValid hstop
  have hchars : before ++ behind = first ++ after := String.ofList_injective htext
  obtain ⟨inside, rfl⟩ : before <+: first :=
    prefix_of_utf8Len_le ⟨behind, rfl⟩ ⟨after, hchars.symm⟩ hle
  exact ⟨before, inside, after, htext, rfl, rfl⟩

theorem column_le_column
    (hstart : start.IsValid text)
    (hstop : stop.IsValid text)
    (hle : start ≤ stop) :
    column text start ≤ column text stop := by
  obtain ⟨before, inside, after, rfl, rfl, rfl⟩ := exists_utf8Len_append_of_le hstart hstop hle
  rw [column_utf8Len, List.append_assoc, column_utf8Len, List.length_append]
  omega

/-- A span ends at the column of its end. -/
theorem column_add_length
    (hstart : start.IsValid text)
    (hstop : stop.IsValid text)
    (hle : start ≤ stop) :
    column text start + (String.Pos.Raw.extract text start stop).length = column text stop := by
  obtain ⟨before, inside, after, rfl, rfl, rfl⟩ := exists_utf8Len_append_of_le hstart hstop hle
  rw [extract_utf8Len, column_utf8Len, List.append_assoc, column_utf8Len, List.length_append,
    String.length_ofList, Nat.add_right_comm]

/-- What ends before it starts has no text. -/
theorem extract_eq_empty_of_le
    (hle : stop ≤ start) :
    String.Pos.Raw.extract text start stop = "" := by
  rw [String.Pos.Raw.extract]
  exact if_pos hle

/-- The text of a span stands at its column. -/
theorem extract_prefix_drop_column
    (hstart : start.IsValid text)
    (hstop : stop.IsValid text) :
    (String.Pos.Raw.extract text start stop).toList <+:
      text.toList.drop (column text start - 1) := by
  rcases Nat.le_total start.byteIdx stop.byteIdx with hle | hle
  · obtain ⟨before, inside, after, rfl, rfl, rfl⟩ := exists_utf8Len_append_of_le hstart hstop hle
    rw [extract_utf8Len, List.append_assoc, column_utf8Len, Nat.add_sub_cancel,
      String.toList_ofList, String.toList_ofList, List.drop_left]
    exact List.prefix_append inside after
  · rw [extract_eq_empty_of_le hle]
    exact List.nil_prefix

/-- A span ends before the column of a later offset. -/
theorem column_add_length_le
    (hstart : start.IsValid text)
    (hstop : stop.IsValid text)
    (hlater : later.IsValid text)
    (hstartLater : start ≤ later)
    (hstopLater : stop ≤ later) :
    column text start + (String.Pos.Raw.extract text start stop).length ≤ column text later := by
  rcases Nat.le_total start.byteIdx stop.byteIdx with hle | hle
  · rw [column_add_length hstart hstop hle]
    exact column_le_column hstop hlater hstopLater
  · rw [extract_eq_empty_of_le hle]
    exact column_le_column hstart hlater hstartLater

theorem column_le_length
    (h : start.IsValid text) :
    1 ≤ column text start ∧ column text start ≤ text.length + 1 := by
  obtain ⟨before, after, rfl, rfl⟩ := exists_utf8Len_of_isValid h
  rw [column_utf8Len, String.length_ofList, List.length_append]
  omega

end UsagePattern

/-! ### Matches -/

namespace Pattern

/-- A part of a text that begins and ends between characters. -/
structure Span.IsIn (text : String) (span : Span) : Prop where
  start : span.start.IsValid text
  stop : span.stop.IsValid text

/-- A part of a text that begins and ends inside another. -/
structure Span.IsInside (inner outer : Span) : Prop where
  le_start : outer.start ≤ inner.start
  start_le : inner.start ≤ outer.stop
  le_stop : outer.start ≤ inner.stop
  stop_le : inner.stop ≤ outer.stop

/--
Matches of a text that come one after the other and do not overlap. They lie on boundaries between
characters, and a first group lies inside its match.
-/
structure AreSuccessiveIn (text : String) (list : List Captures) : Prop where
  isIn : ∀ found ∈ list, found.whole.IsIn text ∧ ∀ group ∈ found.first?, group.IsIn text
  isInside : ∀ found ∈ list, ∀ group ∈ found.first?, group.IsInside found.whole
  ordered : list.Pairwise fun first second => first.whole.stop ≤ second.whole.start

/-! ### The matches of the project's own search -/

theorem isValid_rawEndPos_take
    (text : String)
    (position : Nat) :
    (String.ofList (text.toList.take position)).rawEndPos.IsValid text := by
  refine String.Pos.Raw.isValid_iff_exists_append.mpr
    ⟨_, String.ofList (text.toList.drop position), ?_, rfl⟩
  rw [← String.ofList_append, List.take_append_drop, String.ofList_toList]

theorem rawEndPos_take_le
    (text : String)
    {position other : Nat}
    (hle : position ≤ other) :
    (String.ofList (text.toList.take position)).rawEndPos ≤
      (String.ofList (text.toList.take other)).rawEndPos := by
  rw [String.rawEndPos_ofList, String.rawEndPos_ofList]
  exact String.utf8Len_le_of_prefix (List.take_prefix_take_left hle)

/-- Positions count characters, and so do columns. -/
theorem column_rawEndPos_take
    {text : String}
    {position : Nat}
    (h : position ≤ text.length) :
    UsagePattern.column text (String.ofList (text.toList.take position)).rawEndPos =
      position + 1 := by
  have hcolumn :=
    UsagePattern.column_utf8Len (text.toList.take position) (text.toList.drop position)
  rwa [List.take_append_drop, String.ofList_toList, ← String.rawEndPos_ofList, List.length_take,
    String.length_toList, Nat.min_eq_left h] at hcolumn

/-- The order of positions in a text is that of their offsets. -/
theorem le_of_rawEndPos_take_le
    {text : String}
    {position other : Nat}
    (h : position ≤ text.length)
    (hle : (String.ofList (text.toList.take position)).rawEndPos ≤
      (String.ofList (text.toList.take other)).rawEndPos) :
    position ≤ other := by
  by_contra hlt
  have hother : other ≤ text.length := by omega
  have hcolumns := UsagePattern.column_le_column (isValid_rawEndPos_take text position)
    (isValid_rawEndPos_take text other) hle
  rw [column_rawEndPos_take h, column_rawEndPos_take hother] at hcolumns
  omega

/-- The text of a span is that between its positions. -/
theorem extract_ofPositions
    (text : String)
    {start stop : Nat}
    (hle : start ≤ stop) :
    String.Pos.Raw.extract text (Span.ofPositions text start stop).start
        (Span.ofPositions text start stop).stop =
      String.ofList ((text.toList.drop start).take (stop - start)) := by
  have htake : text.toList.take stop =
      text.toList.take start ++ (text.toList.drop start).take (stop - start) := by
    rw [← List.take_add, Nat.add_sub_cancel' hle]
  have hextract := UsagePattern.extract_utf8Len (text.toList.take start)
    ((text.toList.drop start).take (stop - start)) (text.toList.drop stop)
  rwa [← htake, List.take_append_drop, String.ofList_toList, ← String.rawEndPos_ofList,
    ← String.rawEndPos_ofList] at hextract

theorem Span.isIn_ofPositions
    (text : String)
    (start stop : Nat) :
    (ofPositions text start stop).IsIn text :=
  ⟨isValid_rawEndPos_take text start, isValid_rawEndPos_take text stop⟩

/-- The matches that the project's own search finds are successive, whatever the pattern. -/
theorem Regex.areSuccessiveIn_captures
    (regex : Regex)
    (text : String) :
    AreSuccessiveIn text (regex.captures text) := by
  have hmatches := Program.areSuccessive_findAll regex.program text.toList
  refine ⟨?_, ?_, ?_⟩
  · intro captured hcaptured
    obtain ⟨found, -, rfl⟩ := List.mem_map.mp hcaptured
    refine ⟨Span.isIn_ofPositions text _ _, fun group hgroup => ?_⟩
    obtain ⟨⟨start, stop⟩, -, rfl⟩ := Option.map_eq_some_iff.mp hgroup
    exact Span.isIn_ofPositions text start stop
  · intro captured hcaptured group hgroup
    obtain ⟨found, hfound, rfl⟩ := List.mem_map.mp hcaptured
    obtain ⟨⟨start, stop⟩, hnoted, rfl⟩ := Option.map_eq_some_iff.mp hgroup
    obtain ⟨⟨hstart, hstart'⟩, hstop, hstop'⟩ := (hmatches.within found hfound).group? hnoted
    exact ⟨rawEndPos_take_le text hstart, rawEndPos_take_le text hstart',
      rawEndPos_take_le text hstop, rawEndPos_take_le text hstop'⟩
  · rw [Regex.captures, List.pairwise_map]
    exact hmatches.ordered.imp fun hle => rawEndPos_take_le text hle

end Pattern
end StringsAudit
