import Mathlib.Data.Finset.Card
import Mathlib.Data.Set.Pairwise.Basic
import Mathlib.Order.Bounds.Basic
import StringsAudit.Text.Substring

/-!
# How many occurrences of a pattern have room in a text

A pattern may overlap itself, so its occurrences in a text compete for characters. Counting takes
the first one, goes on behind it, and never looks back. No other choice of occurrences that share
no character holds more of them: of any choice, at most one occurrence begins within the first one,
since all of these cover its last character, and the others are left to choose from behind it.

## Main definitions

* `IsPacking` : positions at which a pattern occurs, no two of which share a character.
* `packingsFrom` : the packings that begin at or behind a position.

## Main results

* `isGreatest_packingsFrom_of_prefix` : the first occurrence takes the place of at most one other.
* `isGreatest_occurrences` : the number of occurrences is that of the greatest packings.
-/

namespace StringsAudit
namespace Text

/-- Positions at which a pattern occurs in a text, no two of which share a character. -/
structure IsPacking (pattern text : List Char) (positions : Finset Nat) : Prop where
  occurs : ∀ position ∈ positions, pattern <+: text.drop position
  disjoint : (positions : Set Nat).Pairwise fun first second =>
    first + pattern.length ≤ second ∨ second + pattern.length ≤ first

/-- The packings that begin at or behind a position. -/
def packingsFrom (pattern text : List Char) (start : Nat) : Set (Finset Nat) :=
  {positions | IsPacking pattern text positions ∧ ∀ position ∈ positions, start ≤ position}

variable {pattern text : List Char} {start : Nat}

theorem IsPacking.subset
    {positions fewer : Finset Nat}
    (h : IsPacking pattern text positions)
    (hfewer : fewer ⊆ positions) :
    IsPacking pattern text fewer :=
  ⟨fun position hposition => h.occurs position (hfewer hposition),
    h.disjoint.mono (Finset.coe_subset.mpr hfewer)⟩

/-- No two occurrences begin within the length of one from the same position on. -/
theorem IsPacking.eq_of_begin_within
    {positions : Finset Nat}
    {first second : Nat}
    (h : IsPacking pattern text positions)
    (hfirst : first ∈ positions)
    (hsecond : second ∈ positions)
    (hfirst' : start ≤ first ∧ first < start + pattern.length)
    (hsecond' : start ≤ second ∧ second < start + pattern.length) :
    first = second := by
  by_contra hother
  have hapart := h.disjoint hfirst hsecond hother
  omega

/-- One more occurrence has room in front of a packing. -/
theorem IsPacking.insert
    {positions : Finset Nat}
    (h : IsPacking pattern text positions)
    (hstart : pattern <+: text.drop start)
    (hbehind : ∀ position ∈ positions, start + pattern.length ≤ position) :
    IsPacking pattern text (insert start positions) := by
  refine ⟨?_, ?_⟩
  · rw [Finset.forall_mem_insert]
    exact ⟨hstart, h.occurs⟩
  · rw [Finset.coe_insert]
    refine h.disjoint.insert fun position hposition _ => ?_
    have hfollows := hbehind position hposition
    exact ⟨.inl hfollows, .inr hfollows⟩

/-- Only the empty packing begins at or behind the end of a text. -/
theorem isGreatest_packingsFrom_of_drop_eq_nil
    {later : Nat}
    (hne : pattern ≠ [])
    (hnil : text.drop start = [])
    (hlater : start ≤ later) :
    IsGreatest (Finset.card '' packingsFrom pattern text later) 0 := by
  refine ⟨⟨∅, ⟨⟨by simp, by simp⟩, by simp⟩, Finset.card_empty⟩, ?_⟩
  rintro _ ⟨positions, ⟨hpacking, hbehind⟩, rfl⟩
  have hempty : positions = ∅ := by
    refine Finset.eq_empty_of_forall_notMem fun position hposition => hne ?_
    have hoccurs := hpacking.occurs position hposition
    have hend : text.drop position = [] := by
      rw [List.drop_eq_nil_iff] at hnil ⊢
      exact hnil.trans (hlater.trans (hbehind position hposition))
    rwa [hend, List.prefix_nil] at hoccurs
  rw [hempty, Finset.card_empty]

/-- A position at which the pattern does not occur is in no packing. -/
theorem packingsFrom_succ_of_not_prefix
    (h : ¬ pattern <+: text.drop start) :
    packingsFrom pattern text (start + 1) = packingsFrom pattern text start := by
  ext positions
  refine and_congr_right fun hpacking => forall₂_congr fun position hposition => ?_
  have hother : start ≠ position := by
    rintro rfl
    exact h (hpacking.occurs start hposition)
  omega

/-- All but one of the occurrences of a packing leave room for one at its start. -/
theorem IsPacking.card_le_card_behind
    {positions : Finset Nat}
    (h : IsPacking pattern text positions)
    (hstart : ∀ position ∈ positions, start ≤ position) :
    positions.card ≤ (positions.filter (start + pattern.length ≤ ·)).card + 1 := by
  have hwithin : (positions.filter (¬ start + pattern.length ≤ ·)).card ≤ 1 := by
    rw [Finset.card_le_one_iff]
    intro first second hfirst hsecond
    rw [Finset.mem_filter, not_le] at hfirst hsecond
    exact h.eq_of_begin_within hfirst.1 hsecond.1 ⟨hstart first hfirst.1, hfirst.2⟩
      ⟨hstart second hsecond.1, hsecond.2⟩
  have hparts : (positions.filter (start + pattern.length ≤ ·)).card
      + (positions.filter (¬ start + pattern.length ≤ ·)).card = positions.card :=
    Finset.card_filter_add_card_filter_not _
  omega

/-- The first occurrence takes the place of at most one other. -/
theorem isGreatest_packingsFrom_of_prefix
    {count : Nat}
    (hne : pattern ≠ [])
    (hstart : pattern <+: text.drop start)
    (h : IsGreatest (Finset.card '' packingsFrom pattern text (start + pattern.length)) count) :
    IsGreatest (Finset.card '' packingsFrom pattern text start) (count + 1) := by
  obtain ⟨⟨positions, ⟨hpacking, hbehind⟩, rfl⟩, hupper⟩ := h
  have hlength := List.length_pos_iff.mpr hne
  refine ⟨⟨insert start positions, ⟨hpacking.insert hstart hbehind, ?_⟩, ?_⟩, ?_⟩
  · rw [Finset.forall_mem_insert]
    exact ⟨le_rfl, fun position hposition => (Nat.le_add_right _ _).trans (hbehind _ hposition)⟩
  · refine Finset.card_insert_of_notMem fun hmem => ?_
    have := hbehind start hmem
    omega
  · rintro _ ⟨others, ⟨hothers, hfrom⟩, rfl⟩
    have hrest : (others.filter (start + pattern.length ≤ ·)).card ≤ positions.card :=
      hupper ⟨_, ⟨hothers.subset (Finset.filter_subset _ _),
        fun position hposition => (Finset.mem_filter.mp hposition).2⟩, rfl⟩
    have hbound := hothers.card_le_card_behind hfrom
    omega

/-- Counting from a position on finds as many occurrences as the greatest packings from there. -/
theorem isGreatest_occurrencesFrom
    {rest : List Char}
    (skip : Nat)
    (hne : pattern ≠ [])
    (hrest : text.drop start = rest) :
    IsGreatest (Finset.card '' packingsFrom pattern text (start + skip))
      (occurrencesFrom pattern skip rest) := by
  induction rest generalizing start skip with
  | nil =>
      rw [occurrencesFrom]
      exact isGreatest_packingsFrom_of_drop_eq_nil hne hrest (Nat.le_add_right start skip)
  | cons c rest ih =>
      have hnext : text.drop (start + 1) = rest := by
        rw [← List.tail_drop, hrest, List.tail_cons]
      cases skip with
      | succ skip =>
          have hbehind := ih skip hnext
          rwa [Nat.add_assoc, Nat.add_comm 1 skip] at hbehind
      | zero =>
          rw [Nat.add_zero, occurrencesFrom]
          split
          next hinitial =>
            have hlength := List.length_pos_iff.mpr hne
            rw [List.isPrefixOf_iff_prefix, ← hrest] at hinitial
            refine isGreatest_packingsFrom_of_prefix hne hinitial ?_
            have hbehind := ih (pattern.length - 1) hnext
            rwa [Nat.add_assoc, Nat.add_sub_cancel' hlength] at hbehind
          next hinitial =>
            rw [List.isPrefixOf_iff_prefix, ← hrest] at hinitial
            rw [← packingsFrom_succ_of_not_prefix hinitial]
            exact ih 0 hnext

/--
The number of occurrences of a pattern is the greatest number of its occurrences that pairwise share
no character, also if the pattern overlaps itself.
-/
theorem isGreatest_occurrences
    {pattern : List Char}
    (text : List Char)
    (hne : pattern ≠ []) :
    IsGreatest
      {count | ∃ positions : Finset Nat,
        IsPacking pattern text positions ∧ positions.card = count}
      (occurrences pattern text) := by
  have hempty : ¬ pattern.isEmpty = true := by simpa using hne
  have hall : Finset.card '' packingsFrom pattern text 0 =
      {count | ∃ positions : Finset Nat,
        IsPacking pattern text positions ∧ positions.card = count} := by
    simp [packingsFrom, Set.image]
  have hstart : text.drop 0 = text := rfl
  rw [occurrences, if_neg hempty, ← hall]
  exact isGreatest_occurrencesFrom 0 hne hstart

/-- Three of the five occurrences of a pattern that overlaps itself have room. -/
theorem isGreatest_of_overlapping_occurrences :
    let pattern := "aba".toList
    let text := "abababababa".toList
    pattern ≠ [] ∧
      IsGreatest
        {count | ∃ positions : Finset Nat,
          IsPacking pattern text positions ∧ positions.card = count}
        3 := by
  intro pattern text
  have hne : pattern ≠ [] := by decide
  have hcount : occurrences pattern text = 3 := by decide
  exact ⟨hne, hcount ▸ isGreatest_occurrences text hne⟩

end Text
end StringsAudit
