import StringsAudit.Proofs.UsagePattern.Standard

/-!
# Leftmost searches for the standard usage pattern

A leftmost search takes the matches of a text from left to right, and passes over a match only if it
begins inside of one that was taken. No match of the standard pattern begins inside another, so a
leftmost search finds them all, whoever carries it out. The project's own search is one of them.

## Main definitions

* `IsStandardMatch` : a match of the standard pattern in a text.
* `IsLeftmostSearch` : what a leftmost search without overlaps finds.

## Main results

* `IsLeftmostSearch.mem_iff` : a leftmost search finds all matches of the standard pattern.
* `mem_usesOn_iff_mem_references` : the references to keys on a line, with any leftmost search.
* `isLeftmostSearch_standardPattern` : the project's own search is leftmost.
-/

namespace StringsAudit
namespace UsagePattern

open Pattern Text

/--
A match of the standard pattern in a text: a key of word characters in quotes with `.localized`
behind it, where the first group is the key.
-/
def IsStandardMatch (text : String) (found : Captures) : Prop :=
  ∃ before key after : String,
    key ≠ "" ∧ (∀ c ∈ key.toList, isWord c = true) ∧
    text = before ++ "\"" ++ key ++ "\".localized" ++ after ∧
    found.whole = ⟨before.rawEndPos, (before ++ "\"" ++ key ++ "\".localized").rawEndPos⟩ ∧
    found.first? = some ⟨(before ++ "\"").rawEndPos, (before ++ "\"" ++ key).rawEndPos⟩

/--
What a leftmost search without overlaps finds: matches from left to right, where each match that is
passed over begins inside of one that was taken.
-/
structure IsLeftmostSearch (IsMatch : Captures → Prop) (list : List Captures) : Prop where
  sound : ∀ found ∈ list, IsMatch found
  ordered : list.Pairwise fun first second => first.whole.stop ≤ second.whole.start
  leftmost : ∀ found, IsMatch found → ∃ taken ∈ list,
    taken.whole.start ≤ found.whole.start ∧ found.whole.start < taken.whole.stop

variable {pattern : UsagePattern} {text : String} {found : Captures} {list : List Captures}

/-! ### Matches and references -/

/-- A reference stands in a text with what is before it and what is behind it. -/
theorem keyAt?_drop_eq_some_iff
    {i : Nat}
    {key : List Char} :
    keyAt? (text.toList.drop i) = some key ↔
      ∃ before word after : String,
        word ≠ "" ∧ (∀ c ∈ word.toList, isWord c = true) ∧
        text = before ++ "\"" ++ word ++ "\".localized" ++ after ∧
        i = before.length ∧ key = word.toList := by
  have htext (before word after : String) :
      (before ++ "\"" ++ word ++ "\".localized" ++ after).toList =
        before.toList ++ '"' :: (word.toList ++ closing ++ after.toList) := by
    simp only [String.toList_append, List.append_assoc]
    rfl
  rw [keyAt?_eq_some_iff]
  constructor
  · rintro ⟨hne, hword, after, heq⟩
    have hbehind : text.toList.drop i ≠ [] := heq ▸ List.cons_ne_nil _ _
    have hi : i ≤ text.toList.length := by
      by_contra hover
      exact hbehind (List.drop_eq_nil_of_le (Nat.le_of_not_le hover))
    refine ⟨.ofList (text.toList.take i), .ofList key, .ofList after, ?_, ?_, ?_, ?_, ?_⟩
    · rwa [ne_eq, String.ofList_eq_empty_iff]
    · rwa [String.toList_ofList]
    · refine String.toList_injective ?_
      rw [htext, String.toList_ofList, String.toList_ofList, String.toList_ofList,
        ← List.cons_append, heq, List.take_append_drop]
    · rw [String.length_ofList, List.length_take, Nat.min_eq_left hi]
    · rw [String.toList_ofList]
  · rintro ⟨before, word, after, hne, hword, rfl, rfl, rfl⟩
    refine ⟨?_, hword, after.toList, ?_⟩
    · rwa [ne_eq, String.toList_eq_nil_iff]
    · rw [htext, ← String.length_toList, List.drop_left]
      rfl

theorem rawEndPos_take_append
    (first second : String) :
    (String.ofList ((first ++ second).toList.take first.length)).rawEndPos = first.rawEndPos := by
  rw [String.toList_append, ← String.length_toList, List.take_left, String.ofList_toList]

/-- The match of a reference, where it stands in a text. -/
theorem captures_matchOf_append
    (before word after : String) :
    (matchOf (before.length + 1, word.toList)).captures
        (before ++ "\"" ++ word ++ "\".localized" ++ after) =
      ⟨⟨before.rawEndPos, (before ++ "\"" ++ word ++ "\".localized").rawEndPos⟩,
        some ⟨(before ++ "\"").rawEndPos, (before ++ "\"" ++ word).rawEndPos⟩⟩ := by
  have hquote : before.length + 1 = (before ++ "\"").length := by
    rw [String.length_append]
    rfl
  have hword : before.length + 1 + word.toList.length = (before ++ "\"" ++ word).length := by
    rw [String.length_toList, String.length_append, hquote]
  have hstop : before.length + 1 + word.toList.length + closing.length =
      (before ++ "\"" ++ word ++ "\".localized").length := by
    rw [String.length_append, hword]
    rfl
  have hstart := rawEndPos_take_append before ("\"" ++ word ++ "\".localized" ++ after)
  have hopen := rawEndPos_take_append (before ++ "\"") (word ++ "\".localized" ++ after)
  have hclose := rawEndPos_take_append (before ++ "\"" ++ word) ("\".localized" ++ after)
  have hend := rawEndPos_take_append (before ++ "\"" ++ word ++ "\".localized") after
  simp only [← String.append_assoc] at hstart hopen hclose hend
  rw [captures_matchOf, Span.ofPositions, Span.ofPositions, hstop, hword, hquote, hstart, hopen,
    hclose, hend]

/-- The matches of the standard pattern are those of the references of a text. -/
theorem isStandardMatch_iff :
    IsStandardMatch text found ↔
      ∃ i key, keyAt? (text.toList.drop i) = some key ∧
        found = (matchOf (i + 1, key)).captures text := by
  simp only [keyAt?_drop_eq_some_iff]
  constructor
  · rintro ⟨before, word, after, hne, hword, rfl, hwhole, hfirst⟩
    refine ⟨_, _, ⟨before, word, after, hne, hword, rfl, rfl, rfl⟩, ?_⟩
    rw [captures_matchOf_append, ← hwhole, ← hfirst]
  · rintro ⟨_, _, ⟨before, word, after, hne, hword, rfl, rfl, rfl⟩, rfl⟩
    rw [captures_matchOf_append]
    exact ⟨before, word, after, hne, hword, rfl, rfl, rfl⟩

/-! ### No match begins inside another -/

/-- A reference that begins before another has ended is that other reference. -/
theorem eq_of_lt_stop
    {chars first second : List Char}
    {i j : Nat}
    (hfirst : keyAt? (chars.drop i) = some first)
    (hsecond : keyAt? (chars.drop j) = some second)
    (hle : i ≤ j)
    (hlt : j < i + 1 + first.length + closing.length) :
    i = j := by
  by_contra hne
  have hquote : chars.drop i = '"' :: chars.drop (i + 1) := by
    obtain ⟨-, -, after, heq⟩ := keyAt?_eq_some_iff.mp hfirst
    rw [← List.tail_drop, ← heq]
    rfl
  rw [hquote] at hfirst
  have hinside : j - (i + 1) < first.length + closing.length := by omega
  have hnone := keyAt?_drop_eq_none hfirst hinside
  rw [List.drop_drop, Nat.add_sub_cancel' (by omega), hsecond] at hnone
  cases hnone

/-- A match that begins inside of another is that other match. -/
theorem IsStandardMatch.eq_of_start_lt_stop
    {taken : Captures}
    (hfound : IsStandardMatch text found)
    (htaken : IsStandardMatch text taken)
    (hle : taken.whole.start ≤ found.whole.start)
    (hlt : found.whole.start < taken.whole.stop) :
    taken = found := by
  obtain ⟨i, key, hkey, rfl⟩ := isStandardMatch_iff.mp hfound
  obtain ⟨j, own, hown, rfl⟩ := isStandardMatch_iff.mp htaken
  have hlength := lt_length_of_keyAt? hown
  rw [String.length_toList] at hlength
  have hij : j ≤ i := le_of_rawEndPos_take_le (by omega) hle
  have hbefore : i < j + 1 + own.length + closing.length := by
    by_contra hbehind
    exact Nat.not_lt.mpr (rawEndPos_take_le text (Nat.not_lt.mp hbehind)) hlt
  obtain rfl := eq_of_lt_stop hown hkey hij hbefore
  rw [hkey, Option.some.injEq] at hown
  rw [hown]

namespace IsLeftmostSearch

/-- A leftmost search finds all matches of the standard pattern. -/
theorem mem_iff
    (h : IsLeftmostSearch (IsStandardMatch text) list) :
    found ∈ list ↔ IsStandardMatch text found := by
  refine ⟨h.sound found, fun hfound => ?_⟩
  obtain ⟨taken, htaken, hle, hlt⟩ := h.leftmost found hfound
  have heq := hfound.eq_of_start_lt_stop (h.sound taken htaken) hle hlt
  exact heq ▸ htaken

/-- The matches of a leftmost search for the standard pattern are successive. -/
theorem areSuccessiveIn
    (h : IsLeftmostSearch (IsStandardMatch text) list) :
    AreSuccessiveIn text list := by
  refine ⟨fun found hfound => ?_, fun found hfound => ?_, h.ordered⟩
  · obtain ⟨i, key, -, rfl⟩ := isStandardMatch_iff.mp (h.sound found hfound)
    rw [captures_matchOf]
    refine ⟨Span.isIn_ofPositions text _ _, fun group hgroup => ?_⟩
    rw [← Option.some.inj hgroup]
    exact Span.isIn_ofPositions text _ _
  · obtain ⟨i, key, -, rfl⟩ := isStandardMatch_iff.mp (h.sound found hfound)
    rw [captures_matchOf]
    intro group hgroup
    rw [← Option.some.inj hgroup]
    exact ⟨rawEndPos_take_le text (by omega), rawEndPos_take_le text (by omega),
      rawEndPos_take_le text (by omega), rawEndPos_take_le text (by omega)⟩

end IsLeftmostSearch

/-- With any leftmost search, the references to keys on a line are those that stand in its text. -/
theorem mem_usesOn_iff_mem_references
    {file : String}
    {line : Line}
    {use : String × Site}
    (h : IsLeftmostSearch (IsStandardMatch line.text) (pattern.captures line.text)) :
    use ∈ pattern.usesOn file line ↔
      use ∈ (references 0 line.text.toList).map (siteOf file line) := by
  rw [usesOn, List.mem_filterMap, List.mem_map]
  constructor
  · rintro ⟨found, hfound, huse⟩
    obtain ⟨i, key, hkey, rfl⟩ := isStandardMatch_iff.mp (h.mem_iff.mp hfound)
    rw [captures_matchOf, Option.map_some, use_of_keyAt? file line hkey] at huse
    exact ⟨(i + 1, key), mem_references_iff.mpr ⟨i, by omega, hkey⟩, Option.some.inj huse⟩
  · rintro ⟨⟨start, key⟩, hreference, rfl⟩
    obtain ⟨i, rfl, hkey⟩ := mem_references_iff.mp hreference
    refine ⟨_, h.mem_iff.mpr (isStandardMatch_iff.mpr ⟨i, key, hkey, rfl⟩), ?_⟩
    rw [captures_matchOf, Option.map_some, use_of_keyAt? file line hkey, Nat.zero_add]

/-! ### The project's own search -/

theorem mem_captures_standardPattern_iff :
    found ∈ standardPattern.captures text ↔ IsStandardMatch text found := by
  rw [captures_standard, List.mem_map, isStandardMatch_iff]
  constructor
  · rintro ⟨⟨start, key⟩, hreference, rfl⟩
    obtain ⟨i, rfl, hkey⟩ := mem_references_iff.mp hreference
    exact ⟨i, key, hkey, by rw [Nat.zero_add]⟩
  · rintro ⟨i, key, hkey, rfl⟩
    exact ⟨(i + 1, key), mem_references_iff.mpr ⟨i, by omega, hkey⟩, rfl⟩

theorem IsStandardMatch.start_lt_stop
    (h : IsStandardMatch text found) :
    found.whole.start < found.whole.stop := by
  obtain ⟨i, key, hkey, rfl⟩ := isStandardMatch_iff.mp h
  have hlength := lt_length_of_keyAt? hkey
  rw [String.length_toList] at hlength
  rw [captures_matchOf]
  refine Nat.lt_of_not_le fun hle => ?_
  have hover := le_of_rawEndPos_take_le hlength hle
  omega

/-- The project's own search for the standard pattern is leftmost. -/
theorem isLeftmostSearch_standardPattern
    (text : String) :
    IsLeftmostSearch (IsStandardMatch text) (standardPattern.captures text) := by
  refine ⟨fun found hfound => mem_captures_standardPattern_iff.mp hfound, ?_,
    fun found hfound => ?_⟩
  · exact (Regex.areSuccessiveIn_captures _ text).ordered
  · -- all matches are taken, and a match begins inside of itself
    exact ⟨found, mem_captures_standardPattern_iff.mpr hfound, Nat.le_refl _,
      hfound.start_lt_stop⟩

end UsagePattern
end StringsAudit
