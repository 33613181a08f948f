import StringsAudit.Line
import StringsAudit.Proofs.Text.Trim

/-!
# The lines of a content that is put together

A content is read into lines from left to right, so what stands before the start of a line has no
part in how the rest is read. A line is found again in a content up to a carriage return at its
end, which is trimmed away wherever lines are read.

## Main definitions

* `StartsLine` : a new line starts behind a text.
* `EndsLine` : a line ends in front of a text.
* `ReadAs` : what is read of a text that stands as a line.
* `linesBehind` : the lines behind one line of a content.
* `continuation` : the text that ends a line and goes on with other lines.

## Main results

* `texts_intercalate` : texts joined by line feeds are the lines of the content.
* `ofContent_append_append` : a line between what comes before and after it is one line of the
  content, and the other lines do not depend on it.
-/

namespace StringsAudit
namespace Line

open Text

/-- A new line starts behind the text. -/
def StartsLine (before : List Char) : Prop :=
  dropByteOrderMark before = [] ∨ ∃ rest, before = rest ++ ['\n']

/-- A line ends in front of the text. -/
def EndsLine (after : List Char) : Prop :=
  after = [] ∨ ∃ rest, after = '\n' :: rest ∨ after = '\r' :: '\n' :: rest

/-- What is read of a text that stands as a line, where a carriage return at its end is not. -/
def ReadAs (text read : List Char) : Prop :=
  text = read ∨ text = read ++ ['\r']

/-- What follows behind the end of a line. -/
def behindLineEnd : List Char → List Char
  | '\r' :: '\n' :: rest => rest
  | '\n' :: rest => rest
  | _ => []

/-- The lines behind one line that stands between what comes before and after it. -/
def linesBehind (before after : String) : List Line :=
  numberFrom ((ofContent before).length + 2) (texts (behindLineEnd after.toList))

theorem finish_reverse_of_getLast?
    {text : List Char}
    (h : text.getLast? ≠ some '\r') :
    finish text.reverse = text := by
  rw [finish]
  · exact List.reverse_reverse text
  · intro rest heq
    rw [List.getLast?_eq_head?_reverse, heq] at h
    exact h rfl

theorem readAs_finish_reverse
    (text : List Char) :
    ReadAs text (finish text.reverse) := by
  by_cases h : text.getLast? = some '\r'
  · obtain ⟨before, rfl⟩ := List.getLast?_eq_some_iff.mp h
    refine .inr ?_
    rw [List.reverse_append, List.reverse_singleton, List.singleton_append, finish,
      List.reverse_reverse]
  · exact .inl (finish_reverse_of_getLast? h).symm

/-- What is not read of a line would be trimmed anyway. -/
theorem ReadAs.trim_eq
    {text read : List Char}
    (h : ReadAs text read) :
    trim read = trim text := by
  rcases h with rfl | rfl
  · rfl
  · have hblank : ∀ c ∈ ['\r'], isBlank c = true := List.forall_mem_singleton.mpr rfl
    rw [trim, trim, stripEnds_append_of_forall read hblank]

/-- What stands before the start of a line is read by itself. -/
theorem textsFrom_append_lineFeed
    (reversed before rest : List Char) :
    textsFrom reversed (before ++ '\n' :: rest) =
      textsFrom reversed (before ++ ['\n']) ++ texts rest := by
  induction before generalizing reversed with
  | nil => simp [texts]
  | cons c before ih =>
      by_cases hc : c = '\n'
      · subst hc
        simp [ih]
      · rw [List.cons_append, List.cons_append, textsFrom_cons _ _ hc, textsFrom_cons _ _ hc, ih]

theorem texts_append_lineFeed
    (before rest : List Char) :
    texts (before ++ '\n' :: rest) = texts (before ++ ['\n']) ++ texts rest :=
  textsFrom_append_lineFeed [] before rest

/-- The first line of a content ends at its first line feed. -/
theorem texts_line_append
    {text : List Char}
    (rest : List Char)
    (h : '\n' ∉ text) :
    texts (text ++ '\n' :: rest) = finish text.reverse :: texts rest := by
  rw [texts, textsFrom_append _ _ h, List.append_nil, textsFrom_lineFeed, texts]

/-- A carriage return before the line feed is not part of the line. -/
theorem texts_line_append_return
    {text : List Char}
    (rest : List Char)
    (h : '\n' ∉ text) :
    texts (text ++ '\r' :: '\n' :: rest) = text :: texts rest := by
  have hreturn : '\n' ∉ text ++ ['\r'] := by
    simpa using h
  have hline := texts_line_append rest hreturn
  rwa [List.append_assoc, List.singleton_append, List.reverse_append, List.reverse_singleton,
    List.singleton_append, finish, List.reverse_reverse] at hline

theorem texts_of_not_mem
    {text : List Char}
    (h : '\n' ∉ text)
    (hne : text ≠ []) :
    texts text = [text] := by
  have happend := textsFrom_append [] [] h
  rw [List.append_nil, List.append_nil] at happend
  rw [texts, happend]
  cases hreverse : text.reverse with
  | nil => exact absurd (List.reverse_eq_nil_iff.mp hreverse) hne
  | cons c rest => rw [textsFrom, ← hreverse, List.reverse_reverse]; exact List.cons_ne_nil c rest

/-- Texts joined by line feeds are the lines of the content. -/
theorem texts_intercalate
    {list : List (List Char)}
    (hlineFeed : ∀ text ∈ list, '\n' ∉ text)
    (hreturn : ∀ text ∈ list, text.getLast? ≠ some '\r')
    (hne : ∀ text ∈ list, text ≠ []) :
    texts (['\n'].intercalate list) = list := by
  induction list with
  | nil => rfl
  | cons text rest ih =>
      have hrest := ih
        (fun other hother => hlineFeed other (List.mem_cons_of_mem text hother))
        (fun other hother => hreturn other (List.mem_cons_of_mem text hother))
        (fun other hother => hne other (List.mem_cons_of_mem text hother))
      have hfirst := hlineFeed text List.mem_cons_self
      cases rest with
      | nil =>
          rw [List.intercalate_singleton]
          exact texts_of_not_mem hfirst (hne text List.mem_cons_self)
      | cons next rest =>
          rw [List.intercalate_cons_cons, List.append_assoc, List.singleton_append,
            texts_line_append _ hfirst, hrest,
            finish_reverse_of_getLast? (hreturn text List.mem_cons_self)]

/-- The text that ends a line and goes on with other lines. -/
def continuation (list : List (List Char)) : String :=
  String.ofList ('\n' :: ['\n'].intercalate list)

theorem endsLine_continuation
    (list : List (List Char)) :
    EndsLine (continuation list).toList := by
  rw [continuation, String.toList_ofList]
  exact .inr ⟨_, .inl rfl⟩

theorem linesBehind_continuation
    {list : List (List Char)}
    (before : String)
    (hlineFeed : ∀ text ∈ list, '\n' ∉ text)
    (hreturn : ∀ text ∈ list, text.getLast? ≠ some '\r')
    (hne : ∀ text ∈ list, text ≠ []) :
    linesBehind before (continuation list) = numberFrom ((ofContent before).length + 2) list := by
  have hrest : behindLineEnd (continuation list).toList = ['\n'].intercalate list := by
    rw [continuation, String.toList_ofList, behindLineEnd]
  rw [linesBehind, hrest, texts_intercalate hlineFeed hreturn hne]

theorem numberFrom_append
    (first : Nat)
    (before after : List (List Char)) :
    numberFrom first (before ++ after) =
      numberFrom first before ++ numberFrom (first + before.length) after := by
  induction before generalizing first with
  | nil => rfl
  | cons text before ih =>
      rw [List.cons_append, numberFrom, ih, numberFrom, List.cons_append, List.length_cons,
        Nat.add_right_comm, Nat.add_assoc]

/-- The first line of a content is found up to a carriage return at its end. -/
theorem texts_line_append_of_endsLine
    {text after : List Char}
    (hlineFeed : '\n' ∉ text)
    (hne : text ++ after ≠ [])
    (hafter : EndsLine after) :
    ∃ read,
      ReadAs text read ∧
      texts (text ++ after) = read :: texts (behindLineEnd after) := by
  rcases hafter with rfl | ⟨rest, rfl | rfl⟩
  · rw [List.append_nil] at hne
    exact ⟨text, .inl rfl, by rw [List.append_nil, texts_of_not_mem hlineFeed hne]; rfl⟩
  · exact ⟨finish text.reverse, readAs_finish_reverse text, texts_line_append rest hlineFeed⟩
  · exact ⟨text, .inl rfl, texts_line_append_return rest hlineFeed⟩

theorem texts_append_of_startsLine
    {before : List Char}
    (rest : List Char)
    (hbefore : before = [] ∨ ∃ init, before = init ++ ['\n']) :
    texts (before ++ rest) = texts before ++ texts rest := by
  rcases hbefore with rfl | ⟨init, rfl⟩
  · rfl
  · rw [List.append_assoc, List.singleton_append, texts_append_lineFeed]

theorem dropByteOrderMark_append
    {text : List Char}
    (before : List Char)
    (hmark : before = [] → text.head? ≠ some byteOrderMark) :
    dropByteOrderMark (before ++ text) = dropByteOrderMark before ++ text := by
  cases before with
  | cons c before =>
      rw [List.cons_append, dropByteOrderMark, dropByteOrderMark]
      split <;> rfl
  | nil =>
      cases text with
      | nil => rfl
      | cons c text =>
          have hc : ¬ (c == byteOrderMark) = true := by simpa using hmark rfl
          rw [List.nil_append, dropByteOrderMark, if_neg hc]
          rfl

theorem head?_cons_ne_byteOrderMark
    {c : Char}
    (rest : List Char)
    (hc : c ≠ byteOrderMark) :
    (c :: rest).head? ≠ some byteOrderMark :=
  fun hhead => hc (Option.some.inj hhead)

/-- A byte-order mark in front comes from the first part that is not empty. -/
theorem head?_append_ne_byteOrderMark
    {text rest : List Char}
    (htext : text.head? ≠ some byteOrderMark)
    (hrest : text = [] → rest.head? ≠ some byteOrderMark) :
    (text ++ rest).head? ≠ some byteOrderMark := by
  cases text with
  | nil => exact hrest rfl
  | cons c text => exact htext

/-- Joined texts have a byte-order mark in front only if the first of them has. -/
theorem dropByteOrderMark_intercalate
    {list : List (List Char)}
    (hmark : ∀ text ∈ list.head?, text.head? ≠ some byteOrderMark) :
    dropByteOrderMark (['\n'].intercalate list) = ['\n'].intercalate list := by
  have hhead : (['\n'].intercalate list).head? ≠ some byteOrderMark := by
    cases list with
    | nil => exact nofun
    | cons text rest =>
        have hfirst := hmark text rfl
        cases rest with
        | nil => rwa [List.intercalate_singleton]
        | cons next rest =>
            rw [List.intercalate_cons_cons, List.append_assoc]
            refine head?_append_ne_byteOrderMark hfirst fun _ => ?_
            exact head?_cons_ne_byteOrderMark _ (by decide)
  exact dropByteOrderMark_append [] fun _ => hhead

theorem StartsLine.dropByteOrderMark
    {before : List Char}
    (h : StartsLine before) :
    dropByteOrderMark before = [] ∨ ∃ init, dropByteOrderMark before = init ++ ['\n'] := by
  rcases h with hnil | ⟨rest, rfl⟩
  · exact .inl hnil
  · exact .inr ⟨Line.dropByteOrderMark rest, dropByteOrderMark_append rest fun _ => by decide⟩

theorem ofContent_append_append
    {before text after : String}
    (hbefore : StartsLine before.toList)
    (hlineFeed : '\n' ∉ text.toList)
    (hne : text.toList ++ after.toList ≠ [])
    (hmark : before = "" → text.toList.head? ≠ some byteOrderMark)
    (hafter : EndsLine after.toList) :
    ∃ read : String,
      ReadAs text.toList read.toList ∧
      ofContent (before ++ text ++ after) =
        ofContent before ++
          ⟨(ofContent before).length + 1, read⟩ :: linesBehind before after := by
  obtain ⟨read, hreadAs, hread⟩ := texts_line_append_of_endsLine hlineFeed hne hafter
  refine ⟨String.ofList read, by rwa [String.toList_ofList], ?_⟩
  have hhead (hempty : before.toList = []) :
      (text.toList ++ after.toList).head? ≠ some byteOrderMark := by
    refine head?_append_ne_byteOrderMark (hmark (String.toList_eq_nil_iff.mp hempty)) fun _ => ?_
    rcases hafter with hnil | ⟨rest, heq | heq⟩
    · simp [hnil]
    · rw [heq]
      exact head?_cons_ne_byteOrderMark _ (by decide)
    · rw [heq]
      exact head?_cons_ne_byteOrderMark _ (by decide)
  rw [ofContent, String.toList_append, String.toList_append, List.append_assoc,
    dropByteOrderMark_append _ hhead, texts_append_of_startsLine _ hbefore.dropByteOrderMark,
    hread, numberFrom_append, linesBehind, ofContent, length_numberFrom, numberFrom, Nat.add_comm 1]

end Line
end StringsAudit
