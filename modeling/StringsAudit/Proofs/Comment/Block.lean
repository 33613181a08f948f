import Mathlib.Data.List.Infix
import StringsAudit.Proofs.Comment.Stripping

/-!
# Block comments of whole lines

A block comment that fills its lines is removed with them, and the lines around it are kept as if
it were not there. This rests on its end being read, and a line that starts with two slashes is
passed over inside of a block comment too: such a last line leaves the comment open, and the lines
behind it are lost. So does a single line whose start and end share their star.

## Main definitions

* `IsBlock` : lines filled by one block comment.
* `EndIsRead` : the last line of a block is read, and its end is not part of its start.

## Main results

* `stripFrom_block_append_of_endIsRead` : behind a block whose end is read, stripping goes on
  outside of comments.
* `strip_block_iff_endIsRead` : a block is removed with exactly its own lines, whatever follows,
  exactly if its end is read.
-/

namespace StringsAudit
namespace Comment

open Text LineScan

/-- Lines filled by one block comment, with no marker but its start and its end. -/
structure IsBlock (block : List Line) : Prop where
  nonempty : block ≠ []
  opens : openingText <+: trim (block.head nonempty).text.toList
  closes : closingText <:+ trim (block.getLast nonempty).text.toList
  single : block.flatMap (fun line => markers (trim line.text.toList)) <+: [.opening, .closing]

/-- The last line of a block is not passed over, and its end shares its star with no start. -/
def EndIsRead (last : Line) : Prop :=
  ¬ lineMarker <+: trim last.text.toList ∧ trim last.text.toList ≠ ['/', '*', '/']

instance : DecidablePred IsBlock
  | [] => .isFalse fun h => h.nonempty rfl
  | first :: rest =>
      decidable_of_iff
        (openingText <+: trim first.text.toList ∧
          closingText <:+ trim ((first :: rest).getLast (List.cons_ne_nil first rest)).text.toList ∧
          (first :: rest).flatMap (fun line => markers (trim line.text.toList))
            <+: [.opening, .closing]) <| by
        constructor
        · rintro ⟨hopens, hcloses, hsingle⟩
          exact ⟨List.cons_ne_nil first rest, by simpa using hopens, hcloses, hsingle⟩
        · rintro ⟨_, hopens, hcloses, hsingle⟩
          exact ⟨by simpa using hopens, hcloses, hsingle⟩

instance : DecidablePred EndIsRead :=
  fun last => inferInstanceAs (Decidable (¬ lineMarker <+: trim last.text.toList ∧ _))

variable {limit : Depth} {depth : Nat} {line : Line}

theorem isInert_eq_false_of_opening
    (h : openingText <+: trim line.text.toList) :
    isInert line.text.toList = false := by
  obtain ⟨tail, heq⟩ := h
  rw [isInert, ← heq]
  rfl

theorem isInert_iff_of_closing
    (h : closingText <:+ trim line.text.toList) :
    isInert line.text.toList = true ↔ lineMarker <+: trim line.text.toList := by
  have hne : trim line.text.toList ≠ [] := by
    rintro hnil
    rw [hnil] at h
    simpa [closingText] using List.suffix_nil.mp h
  simp [isInert, hne]

/-- A line that is read and dropped without a warning only moves the level. -/
theorem stripFrom_cons_of_run
    {found : List Marker}
    {scan : LineScan}
    (rest : List Line)
    (hinert : isInert line.text.toList = false)
    (hmarkers : markers (trim line.text.toList) = found)
    (hrun : run limit ⟨depth, 0, false, 0⟩ found = scan)
    (hdropped : 0 < depth ∨ scan.touched = true)
    (hunmatched : scan.unmatched = 0) :
    stripFrom limit depth (line :: rest) = stripFrom limit scan.depth rest := by
  have hscan : scanLine limit depth (trim line.text.toList) = scan := by
    rw [scanLine_eq_run, hmarkers, hrun]
  have hplain : ¬ (depth = 0 ∧ IsPlain limit line) := by
    rintro ⟨rfl, hplain⟩
    rcases hdropped with hpos | htouched
    · exact Nat.lt_irrefl 0 hpos
    · have huntouched := hplain.untouched
      rw [hscan, htouched] at huntouched
      exact Bool.noConfusion huntouched
  rw [stripFrom_cons_eq, if_neg hplain]
  simp [depthStep, unmatchedOn, hinert, hscan, hunmatched]

/-- Lines without markers vanish inside of a comment. -/
theorem stripFrom_append_of_markers_eq_nil
    {inner : List Line}
    (rest : List Line)
    (hdepth : 0 < depth)
    (hinner : ∀ line ∈ inner, markers (trim line.text.toList) = []) :
    stripFrom limit depth (inner ++ rest) = stripFrom limit depth rest := by
  induction inner with
  | nil => rfl
  | cons line inner ih =>
      have hrest := ih fun other hother => hinner other (List.mem_cons_of_mem line hother)
      rw [List.cons_append]
      by_cases hinert : isInert line.text.toList = true
      · rw [stripFrom_cons_of_isInert _ hinert, hrest]
      · rw [Bool.not_eq_true] at hinert
        have hmarkers := hinner line List.mem_cons_self
        rw [stripFrom_cons_of_run _ hinert hmarkers run_nil (.inl hdepth) rfl, hrest]

theorem markers_of_opening_prefix
    {text : List Char}
    (h : openingText <+: text) :
    ∃ tail, text = '/' :: '*' :: tail ∧ markers text = .opening :: markers tail := by
  obtain ⟨tail, rfl⟩ := h
  exact ⟨tail, rfl, rfl⟩

/-- A text that ends like a block has a marker, if only a start that shares the star of the end. -/
theorem markers_ne_nil_of_closing_suffix
    {text : List Char}
    (h : closingText <:+ text) :
    markers text ≠ [] := by
  intro hnil
  exact (markers_eq_nil_iff.mp hnil).2 h.isInfix

theorem eq_of_append_prefix_singleton
    {α : Type}
    {before last : List α}
    {x : α}
    (h : before ++ last <+: [x])
    (hlast : last ≠ []) :
    before = [] ∧ last = [x] := by
  rcases List.prefix_cons_iff.mp h with hnil | ⟨rest, heq, hrest⟩
  · exact absurd (List.append_eq_nil_iff.mp hnil).2 hlast
  · rw [List.prefix_nil.mp hrest] at heq
    rcases List.append_eq_singleton_iff.mp heq with hsplit | hsplit
    · exact hsplit
    · exact absurd hsplit.2 hlast

/-- A block is a single line that holds both markers, or its first and last line hold one each. -/
theorem IsBlock.cases
    {block : List Line}
    (h : IsBlock block) :
    (∃ line, block = [line] ∧ (trim line.text.toList = ['/', '*', '/'] ∨
      markers (trim line.text.toList) = [.opening, .closing])) ∨
    (∃ first inner last, block = first :: (inner ++ [last]) ∧
      markers (trim first.text.toList) = [.opening] ∧
      (∀ line ∈ inner, markers (trim line.text.toList) = []) ∧
      markers (trim last.text.toList) = [.closing]) := by
  obtain ⟨hne, hopens, hcloses, hsingle⟩ := h
  cases block with
  | nil => exact absurd rfl hne
  | cons first rest =>
      obtain ⟨tail, htext, hmarkers⟩ := markers_of_opening_prefix hopens
      rw [List.head_cons] at htext hmarkers
      rw [List.flatMap_cons, hmarkers, List.cons_append, List.cons_prefix_cons] at hsingle
      rcases List.eq_nil_or_concat rest with rfl | ⟨inner, last, rfl⟩
      · refine .inl ⟨first, rfl, ?_⟩
        rw [List.getLast_singleton, htext] at hcloses
        rw [List.flatMap_nil, List.append_nil] at hsingle
        rcases List.suffix_cons_iff.mp hcloses with heq | hcloses
        · simp [closingText] at heq
        rcases List.suffix_cons_iff.mp hcloses with heq | hcloses
        · obtain ⟨-, rfl⟩ := List.cons.inj heq
          exact .inl htext
        · have htail := markers_ne_nil_of_closing_suffix hcloses
          rcases List.prefix_cons_iff.mp hsingle.2 with hnil | ⟨found, hfound, hinitial⟩
          · exact absurd hnil htail
          · rw [List.prefix_nil.mp hinitial] at hfound
            exact .inr (by rw [hmarkers, hfound])
      · simp only [List.concat_eq_append] at hcloses hsingle ⊢
        refine .inr ⟨first, inner, last, rfl, ?_⟩
        rw [List.getLast_cons (by simp), List.getLast_concat] at hcloses
        have hlast := markers_ne_nil_of_closing_suffix hcloses
        rw [List.flatMap_append, List.flatMap_singleton, ← List.append_assoc] at hsingle
        obtain ⟨hbefore, hclosing⟩ := eq_of_append_prefix_singleton hsingle.2 hlast
        obtain ⟨htail, hinner⟩ := List.append_eq_nil_iff.mp hbefore
        exact ⟨by rw [hmarkers, htail], List.flatMap_eq_nil_iff.mp hinner, hclosing⟩

theorem run_opening
    (hlimit : limit.allows 0 = true) :
    run limit ⟨0, 0, false, 0⟩ [.opening] = ⟨1, 0, true, 0⟩ := by
  simp [step, hlimit]

theorem run_closing
    (limit : Depth) :
    run limit ⟨1, 0, false, 0⟩ [.closing] = ⟨0, 0, true, 0⟩ := by
  simp [step]

theorem run_opening_closing
    (hlimit : limit.allows 0 = true) :
    run limit ⟨0, 0, false, 0⟩ [.opening, .closing] = ⟨0, 0, true, 0⟩ := by
  simp [step, hlimit]

/-- Behind a block whose end is read, stripping goes on outside of comments. -/
theorem stripFrom_block_append_of_endIsRead
    {block : List Line}
    (after : List Line)
    (hlimit : limit.allows 0 = true)
    (hblock : IsBlock block)
    (hread : EndIsRead (block.getLast hblock.nonempty)) :
    stripFrom limit 0 (block ++ after) = stripFrom limit 0 after := by
  have hinertFirst := isInert_eq_false_of_opening hblock.opens
  have hinertLast := (isInert_iff_of_closing hblock.closes).not.mpr hread.1
  rw [Bool.not_eq_true] at hinertLast
  rcases hblock.cases with
    ⟨line, rfl, hshared | hmarkers⟩ | ⟨first, inner, last, rfl, hfirst, hinner, hlast⟩
  · exact absurd hshared hread.2
  · exact stripFrom_cons_of_run after hinertFirst hmarkers (run_opening_closing hlimit) (.inr rfl)
      rfl
  · rw [List.head_cons] at hinertFirst
    rw [List.getLast_cons (by simp), List.getLast_concat] at hinertLast
    rw [List.cons_append, List.append_assoc, List.singleton_append,
      stripFrom_cons_of_run _ hinertFirst hfirst (run_opening hlimit) (.inr rfl) rfl,
      stripFrom_append_of_markers_eq_nil _ Nat.one_pos hinner,
      stripFrom_cons_of_run _ hinertLast hlast (run_closing limit) (.inl Nat.one_pos) rfl]

/-- Behind a block whose end is not read, stripping goes on inside of the comment. -/
theorem stripFrom_block_append_of_not_endIsRead
    {block : List Line}
    (after : List Line)
    (hlimit : limit.allows 0 = true)
    (hblock : IsBlock block)
    (hread : ¬ EndIsRead (block.getLast hblock.nonempty)) :
    stripFrom limit 0 (block ++ after) = stripFrom limit 1 after := by
  have hinertFirst := isInert_eq_false_of_opening hblock.opens
  have hinertLast := isInert_iff_of_closing hblock.closes
  rcases hblock.cases with
    ⟨line, rfl, hshared | hmarkers⟩ | ⟨first, inner, last, rfl, hfirst, hinner, hlast⟩
  · have hmarkers : markers (trim line.text.toList) = [.opening] := by
      rw [hshared]
      rfl
    exact stripFrom_cons_of_run after hinertFirst hmarkers (run_opening hlimit) (.inr rfl) rfl
  · -- a line that starts the block is no line comment, and this one holds its end as well
    refine absurd ⟨fun hslashes => ?_, fun hshared => ?_⟩ hread
    · exact Bool.eq_false_iff.mp hinertFirst (hinertLast.mpr hslashes)
    · rw [List.getLast_singleton] at hshared
      rw [hshared] at hmarkers
      exact absurd hmarkers (by decide)
  · rw [List.head_cons] at hinertFirst
    rw [List.getLast_cons (by simp), List.getLast_concat] at hinertLast hread
    have hslashes : lineMarker <+: trim last.text.toList := by
      by_contra hnot
      refine hread ⟨hnot, fun hshared => ?_⟩
      rw [hshared] at hlast
      exact absurd hlast (by decide)
    rw [List.cons_append, List.append_assoc, List.singleton_append,
      stripFrom_cons_of_run _ hinertFirst hfirst (run_opening hlimit) (.inr rfl) rfl,
      stripFrom_append_of_markers_eq_nil _ Nat.one_pos hinner,
      stripFrom_cons_of_isInert _ (hinertLast.mpr hslashes)]

/--
A block behind lines that leave no comment open is removed with exactly its own lines, whatever
follows it, exactly if its end is read.
-/
theorem strip_block_iff_endIsRead
    {before block : List Line}
    (hlimit : limit.allows 0 = true)
    (hbefore : depthAfter limit 0 before = 0)
    (hblock : IsBlock block) :
    (∀ after,
      strip limit (before ++ block ++ after) =
        ⟨(strip limit before).lines ++ (strip limit after).lines,
          (strip limit before).warnings ++ (strip limit after).warnings⟩) ↔
      EndIsRead (block.getLast hblock.nonempty) := by
  constructor
  · intro h
    by_contra hread
    -- one more line shows the difference: inside of the comment it is not kept
    have hplain : IsPlain limit ⟨0, "a"⟩ := ⟨by decide, rfl⟩
    have hkept := hplain.stripFrom_cons []
    have hlost : stripFrom limit 1 ([⟨0, "a"⟩] ++ []) = ⟨[], []⟩ := by
      refine stripFrom_append_of_markers_eq_nil [] Nat.one_pos fun line hline => ?_
      rw [List.mem_singleton.mp hline]
      rfl
    rw [List.append_nil] at hlost
    have hequal := h [⟨0, "a"⟩]
    rw [strip, List.append_assoc, stripFrom_append, hbefore,
      stripFrom_block_append_of_not_endIsRead _ hlimit hblock hread, hlost, strip, strip,
      hkept] at hequal
    simp at hequal
  · intro hread after
    rw [strip, List.append_assoc, stripFrom_append, hbefore,
      stripFrom_block_append_of_endIsRead after hlimit hblock hread]
    rfl

/-- A block between two entries, with a line comment inside of it. -/
theorem strip_block_between_entries :
    strip .unlimited
        ([⟨1, "\"a\" = \"A\";"⟩] ++ [⟨2, "/*"⟩, ⟨3, "// note"⟩, ⟨4, "*/"⟩]
          ++ [⟨5, "\"b\" = \"B\";"⟩]) =
      ⟨[⟨1, "\"a\" = \"A\";"⟩, ⟨5, "\"b\" = \"B\";"⟩], []⟩ := by
  have hblock : IsBlock [⟨2, "/*"⟩, ⟨3, "// note"⟩, ⟨4, "*/"⟩] := by decide
  have hbefore : depthAfter .unlimited 0 [⟨1, "\"a\" = \"A\";"⟩] = 0 := by decide
  have hread : EndIsRead ⟨4, "*/"⟩ := by decide
  exact (strip_block_iff_endIsRead rfl hbefore hblock).mpr hread _

/-- An end behind two slashes is not read: the block swallows the entry that follows it. -/
theorem strip_block_with_end_in_line_comment :
    IsBlock [⟨1, "/*"⟩, ⟨2, "// end */"⟩] ∧
      strip .unlimited ([⟨1, "/*"⟩, ⟨2, "// end */"⟩] ++ [⟨3, "\"b\" = \"B\";"⟩]) = ⟨[], []⟩ ∧
      strip .unlimited [⟨3, "\"b\" = \"B\";"⟩] = ⟨[⟨3, "\"b\" = \"B\";"⟩], []⟩ := by
  decide

end Comment
end StringsAudit
