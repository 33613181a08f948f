/-!
# Stable sorting by a comparison

## Main definitions

* `sortBy` : a list in the order of a comparison; elements that compare equal keep their order.

## Main results

* `perm_sortBy` : sorting only rearranges.
* `pairwise_sortBy` : the result is in order.
* `sublist_sortBy` : a sublist that is in order already keeps its order.
-/

namespace StringsAudit

variable {α : Type}

/-- A list in the order of a comparison; elements that compare equal keep their order. -/
def sortBy (cmp : α → α → Ordering) (list : List α) : List α :=
  list.mergeSort fun a b => (cmp a b).isLE

/-- Sorting only rearranges. -/
theorem perm_sortBy
    (cmp : α → α → Ordering)
    (list : List α) :
    (sortBy cmp list).Perm list :=
  List.mergeSort_perm ..

@[simp] theorem length_sortBy
    (cmp : α → α → Ordering)
    (list : List α) :
    (sortBy cmp list).length = list.length :=
  (perm_sortBy cmp list).length_eq

@[simp] theorem mem_sortBy
    {cmp : α → α → Ordering}
    {list : List α}
    {a : α} :
    a ∈ sortBy cmp list ↔ a ∈ list :=
  (perm_sortBy cmp list).mem_iff

/-- The result is in order. -/
theorem pairwise_sortBy
    (cmp : α → α → Ordering)
    [Std.TransCmp cmp]
    (list : List α) :
    (sortBy cmp list).Pairwise fun a b => (cmp a b).isLE := by
  refine List.pairwise_mergeSort (fun _ _ _ => Std.TransCmp.isLE_trans) (fun a b => ?_) list
  cases h : cmp a b with
  | lt => simp
  | eq => simp
  | gt => simp [Std.OrientedCmp.lt_of_gt h]

/-- A sublist that is in order already keeps its order. -/
theorem sublist_sortBy
    (cmp : α → α → Ordering)
    [Std.TransCmp cmp]
    {sub list : List α}
    (ordered : sub.Pairwise fun a b => (cmp a b).isLE)
    (h : sub.Sublist list) :
    sub.Sublist (sortBy cmp list) := by
  refine List.sublist_mergeSort (fun _ _ _ => Std.TransCmp.isLE_trans) (fun a b => ?_) ordered h
  cases h : cmp a b with
  | lt => simp
  | eq => simp
  | gt => simp [Std.OrientedCmp.lt_of_gt h]

end StringsAudit
