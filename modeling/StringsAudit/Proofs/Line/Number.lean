import Mathlib.Data.List.Nodup
import Mathlib.Data.List.Sort
import StringsAudit.Line

/-!
# The numbers of lines

## Main results

* `map_number_ofContent` : the lines of a content are numbered from 1 without a gap.
* `number_of_getElem?_ofContent`, `getElem?_of_mem_ofContent` : a line carries its 1-based position
  in the file.
* `mem_numberFrom_iff` : a numbered text is found at its number.
* `pairwise_number_ofContent` : the numbers increase.
* `eq_of_mem_iff` : lines in the order of their numbers are determined by which lines they are.
* `eq_of_number_eq` : a number belongs to one line only, also among the lines that are left.
-/

namespace StringsAudit
namespace Line

theorem map_number_numberFrom
    (first : Nat)
    (list : List (List Char)) :
    (numberFrom first list).map (·.number) = List.range' first list.length := by
  induction list generalizing first with
  | nil => rfl
  | cons text rest ih =>
      rw [numberFrom, List.map_cons, ih, List.length_cons, List.range'_succ]

theorem getElem?_numberFrom
    (first : Nat)
    (list : List (List Char))
    (index : Nat) :
    (numberFrom first list)[index]? =
      list[index]?.map fun text => ⟨first + index, String.ofList text⟩ := by
  induction list generalizing first index with
  | nil => rfl
  | cons text rest ih =>
      cases index with
      | zero => rfl
      | succ index =>
          rw [numberFrom, List.getElem?_cons_succ, ih, List.getElem?_cons_succ, Nat.add_right_comm,
            Nat.add_assoc]

/-- The lines of a content are numbered from 1 without a gap. -/
theorem map_number_ofContent
    (content : String) :
    (ofContent content).map (·.number) = List.range' 1 (ofContent content).length := by
  rw [ofContent, map_number_numberFrom, length_numberFrom]

/-- A line carries its 1-based position in the file. -/
theorem number_of_getElem?_ofContent
    {content : String}
    {index : Nat}
    {line : Line}
    (h : (ofContent content)[index]? = some line) :
    line.number = index + 1 := by
  rw [ofContent, getElem?_numberFrom, Option.map_eq_some_iff] at h
  obtain ⟨text, -, rfl⟩ := h
  exact Nat.add_comm 1 index

/-- A line is found in the file at the position that it carries. -/
theorem getElem?_of_mem_ofContent
    {content : String}
    {line : Line}
    (h : line ∈ ofContent content) :
    1 ≤ line.number ∧ (ofContent content)[line.number - 1]? = some line := by
  obtain ⟨index, hindex⟩ := List.getElem?_of_mem h
  have hnumber := number_of_getElem?_ofContent hindex
  rw [hnumber, Nat.add_sub_cancel]
  exact ⟨Nat.le_add_left 1 index, hindex⟩

/-- A numbered text is found at its number. -/
theorem mem_numberFrom_iff
    {first : Nat}
    {list : List (List Char)}
    {line : Line} :
    line ∈ numberFrom first list ↔
      first ≤ line.number ∧ list[line.number - first]? = some line.text.toList := by
  constructor
  · intro hline
    obtain ⟨index, hindex⟩ := List.getElem?_of_mem hline
    rw [getElem?_numberFrom, Option.map_eq_some_iff] at hindex
    obtain ⟨text, htext, rfl⟩ := hindex
    refine ⟨Nat.le_add_right first index, ?_⟩
    rwa [Nat.add_sub_cancel_left, String.toList_ofList]
  · rintro ⟨hfirst, htext⟩
    have hindex : (numberFrom first list)[line.number - first]? = some line := by
      rw [getElem?_numberFrom, htext, Option.map_some, Nat.add_sub_cancel' hfirst,
        String.ofList_toList]
    exact List.mem_of_getElem? hindex

theorem pairwise_number_numberFrom
    (first : Nat)
    (list : List (List Char)) :
    (numberFrom first list).Pairwise fun line other => line.number < other.number := by
  have hnumbers : ((numberFrom first list).map (·.number)).Pairwise (· < ·) := by
    rw [map_number_numberFrom]
    exact List.pairwise_lt_range'
  exact List.pairwise_map.mp hnumbers

/-- The numbers of the lines of a content increase. -/
theorem pairwise_number_ofContent
    (content : String) :
    (ofContent content).Pairwise fun line other => line.number < other.number :=
  pairwise_number_numberFrom 1 _

/-- Lines in the order of their numbers are determined by which lines they are. -/
theorem eq_of_mem_iff
    {first second : List Line}
    (hfirst : first.Pairwise fun line other => line.number < other.number)
    (hsecond : second.Pairwise fun line other => line.number < other.number)
    (h : ∀ line, line ∈ first ↔ line ∈ second) :
    first = second := by
  have : Std.Antisymm fun line other : Line => line.number < other.number :=
    ⟨fun _ _ hlt hgt => absurd hgt (Nat.lt_asymm hlt)⟩
  have : Std.Irrefl fun line other : Line => line.number < other.number :=
    ⟨fun line => Nat.lt_irrefl line.number⟩
  exact hfirst.eq_of_mem_iff hsecond h

/-- Among lines that are left of a content, a number belongs to one line only. -/
theorem eq_of_number_eq
    {content : String}
    {left : List Line}
    {first second : Line}
    (hleft : left.Sublist (ofContent content))
    (hfirst : first ∈ left)
    (hsecond : second ∈ left)
    (heq : first.number = second.number) :
    first = second := by
  have hnodup : ((ofContent content).map (·.number)).Nodup := by
    rw [map_number_ofContent]
    exact List.nodup_range'
  exact List.inj_on_of_nodup_map hnodup (hleft.subset hfirst) (hleft.subset hsecond) heq

end Line
end StringsAudit
