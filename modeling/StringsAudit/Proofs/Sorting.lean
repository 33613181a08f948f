import Mathlib.Data.List.Basic
import StringsAudit.Sorting

/-!
# What a stable sort depends on

Elements that compare equal keep their order, and all other order of a list is forgotten. So the
sorted list is determined by what the list holds, in its order, of each class of elements that
compare equal.

## Main results

* `filter_cmp_sortBy` : sorting keeps the order within each class.
* `sortBy_eq_of_filter_eq` : lists that agree within each class are sorted alike.
* `sortBy_eq_of_perm` : the order of a list does not matter if only equal elements compare equal.
* `filter_sortBy` : elements can be left out before or after sorting.
* `pairwise_lt_sortBy` : the order is strict if no two elements compare equal.
* `map_sortBy` : elements can be replaced before or after sorting.
* `filter_append_filter_not` : a list with the elements of one kind in front.
-/

namespace StringsAudit

/-- What is in order already stays as it is. -/
theorem sortBy_eq_self
    {α : Type}
    {cmp : α → α → Ordering}
    {list : List α}
    (ordered : list.Pairwise fun a b => (cmp a b).isLE) :
    sortBy cmp list = list :=
  List.mergeSort_of_pairwise ordered

/-- Elements can be replaced by what they are compared by before or after sorting. -/
theorem map_sortBy
    {α β : Type}
    {cmp : α → α → Ordering}
    {own : β → β → Ordering}
    {f : β → α}
    (hcmp : ∀ a b, own a b = cmp (f a) (f b))
    (list : List β) :
    (sortBy own list).map f = sortBy cmp (list.map f) :=
  List.map_mergeSort fun a _ b _ => by rw [hcmp]

/-- A list whose elements of one kind stand in front is put together from its two kinds. -/
theorem filter_append_filter_not
    {α : Type}
    {list : List α}
    {kind : α → Bool}
    (h : list.Pairwise fun a b => kind b = true → kind a = true) :
    list.filter kind ++ list.filter (fun a => !kind a) = list := by
  induction list with
  | nil => rfl
  | cons a rest ih =>
      obtain ⟨hbehind, hrest⟩ := List.pairwise_cons.mp h
      cases hkind : kind a with
      | true => simp [hkind, ih hrest]
      | false =>
          -- behind an element of the other kind there is none of the first
          have hnone : rest.filter kind = [] := by
            rw [List.filter_eq_nil_iff]
            intro b hb hkindb
            exact absurd (hbehind b hb hkindb) (by simp [hkind])
          have hall := ih hrest
          rw [hnone, List.nil_append] at hall
          simp [hkind, hnone, hall]

section StableSort

variable {α β : Type} (cmp : α → α → Ordering) [Std.TransCmp cmp]

/-- Elements can be compared by what a function gives for them. -/
theorem transCmp_on
    (f : β → α) :
    Std.TransCmp fun a b => cmp (f a) (f b) where
  eq_swap := Std.OrientedCmp.eq_swap
  isLE_trans := Std.TransCmp.isLE_trans

/-- Elements of one class compare equal. -/
theorem pairwise_filter_cmp
    (list : List α)
    (a : α) :
    (list.filter (cmp a · == .eq)).Pairwise fun b c => cmp b c = .eq := by
  refine List.pairwise_of_forall_mem_list fun b hb c hc => ?_
  have hab : cmp a b = .eq := beq_iff_eq.mp (List.mem_filter.mp hb).2
  have hac : cmp a c = .eq := beq_iff_eq.mp (List.mem_filter.mp hc).2
  exact Std.TransCmp.eq_trans (Std.OrientedCmp.eq_symm hab) hac

/-- Sorting keeps the order within each class of elements that compare equal. -/
theorem filter_cmp_sortBy
    (list : List α)
    (a : α) :
    (sortBy cmp list).filter (cmp a · == .eq) = list.filter (cmp a · == .eq) := by
  have hordered : (list.filter (cmp a · == .eq)).Pairwise fun b c => (cmp b c).isLE :=
    (pairwise_filter_cmp cmp list a).imp fun heq => by simp [heq]
  have hsub : (list.filter (cmp a · == .eq)).Sublist
      ((sortBy cmp list).filter (cmp a · == .eq)) := by
    simpa using (sublist_sortBy cmp hordered List.filter_sublist).filter (cmp a · == .eq)
  have hlength := ((perm_sortBy cmp list).filter (cmp a · == .eq)).length_eq
  exact (hsub.eq_of_length hlength.symm).symm

/-- A list in order starts with an element that is at most any of its elements. -/
theorem isLE_head_of_mem
    {first b : α}
    {rest : List α}
    (h : (first :: rest).Pairwise fun a b => (cmp a b).isLE)
    (hb : b ∈ first :: rest) :
    (cmp first b).isLE := by
  rcases List.mem_cons.mp hb with rfl | hb
  · simp [Std.ReflCmp.compare_self]
  · exact (List.pairwise_cons.mp h).1 b hb

/-- A list in order is determined by what it holds of each class. -/
theorem eq_of_pairwise_of_filter_eq
    {first second : List α}
    (hfirst : first.Pairwise fun a b => (cmp a b).isLE)
    (hsecond : second.Pairwise fun a b => (cmp a b).isLE)
    (h : ∀ a, first.filter (cmp a · == .eq) = second.filter (cmp a · == .eq)) :
    first = second := by
  induction first generalizing second with
  | nil =>
      cases second with
      | nil => rfl
      | cons b second =>
          have hb := h b
          simp [Std.ReflCmp.compare_self] at hb
  | cons a first ih =>
      -- A class that has an element on one side has one on the other.
      have hmem : ∀ b, b ∈ a :: first ↔ b ∈ second := by
        intro b
        have hself : cmp b b = .eq := Std.ReflCmp.compare_self
        have hiff := iff_of_eq (congrArg (b ∈ ·) (h b))
        simpa [hself] using hiff
      cases second with
      | nil => exact absurd ((hmem a).mp List.mem_cons_self) List.not_mem_nil
      | cons b second =>
          have hab : cmp a b = .eq := by
            have hle := isLE_head_of_mem cmp hfirst ((hmem b).mpr List.mem_cons_self)
            have hge := isLE_head_of_mem cmp hsecond ((hmem a).mp List.mem_cons_self)
            exact Std.OrientedCmp.isLE_antisymm hle hge
          have hself : cmp a a = .eq := Std.ReflCmp.compare_self
          have hheads := h a
          simp only [List.filter_cons, hself, hab, beq_self_eq_true, if_true,
            List.cons.injEq] at hheads
          obtain ⟨rfl, -⟩ := hheads
          congr 1
          refine ih (List.pairwise_cons.mp hfirst).2 (List.pairwise_cons.mp hsecond).2 fun c => ?_
          have hclass := h c
          simp only [List.filter_cons] at hclass
          split at hclass
          · exact (List.cons.inj hclass).2
          · exact hclass

/-- Lists that agree within each class of elements that compare equal are sorted alike. -/
theorem sortBy_eq_of_filter_eq
    {first second : List α}
    (h : ∀ a, first.filter (cmp a · == .eq) = second.filter (cmp a · == .eq)) :
    sortBy cmp first = sortBy cmp second := by
  refine eq_of_pairwise_of_filter_eq cmp (pairwise_sortBy cmp first) (pairwise_sortBy cmp second)
    fun a => ?_
  rw [filter_cmp_sortBy, filter_cmp_sortBy, h]

/-- A class of equal elements is the same in each order. -/
theorem filter_eq_of_perm
    {first second : List α}
    (hperm : first.Perm second)
    (hties : ∀ a ∈ first, ∀ b ∈ first, cmp a b = .eq → a = b)
    (a : α) :
    first.filter (cmp a · == .eq) = second.filter (cmp a · == .eq) := by
  refine List.Perm.eq_of_pairwise ?_ (pairwise_filter_cmp cmp first a)
    (pairwise_filter_cmp cmp second a) (hperm.filter (cmp a · == .eq))
  intro b c hb hc hbc _
  exact hties b (List.mem_of_mem_filter hb) c (hperm.mem_iff.mpr (List.mem_of_mem_filter hc)) hbc

/-- The order of a list does not matter for sorting if only equal elements compare equal. -/
theorem sortBy_eq_of_perm
    {first second : List α}
    (hperm : first.Perm second)
    (hties : ∀ a ∈ first, ∀ b ∈ first, cmp a b = .eq → a = b) :
    sortBy cmp first = sortBy cmp second :=
  sortBy_eq_of_filter_eq cmp (filter_eq_of_perm cmp hperm hties)

/-- The order is strict if no two elements compare equal. -/
theorem pairwise_lt_sortBy
    {list : List α}
    (hne : list.Pairwise fun a b => cmp a b ≠ .eq) :
    (sortBy cmp list).Pairwise fun a b => cmp a b = .lt := by
  have hsymm {a b : α} (h : cmp a b ≠ .eq) : cmp b a ≠ .eq :=
    fun heq => h (Std.OrientedCmp.eq_symm heq)
  have hsorted := (perm_sortBy cmp list).symm.pairwise hne hsymm
  refine (pairwise_sortBy cmp list).imp₂ (fun a b hle hne => ?_) hsorted
  rcases Ordering.isLE_iff_eq_lt_or_eq_eq.mp hle with hlt | heq
  · exact hlt
  · exact absurd heq hne

/-- Elements can be left out before or after sorting. -/
theorem filter_sortBy
    (keep : α → Bool)
    (list : List α) :
    (sortBy cmp list).filter keep = sortBy cmp (list.filter keep) := by
  refine eq_of_pairwise_of_filter_eq cmp ((pairwise_sortBy cmp list).filter keep)
    (pairwise_sortBy cmp (list.filter keep)) fun a => ?_
  rw [filter_cmp_sortBy, List.filter_comm, filter_cmp_sortBy, List.filter_comm]

end StableSort
end StringsAudit
