import Mathlib.Algebra.GroupWithZero.Nat
import Mathlib.Data.List.Induction
import Mathlib.Data.List.Sort
import StringsAudit.Dict

/-!
# What a dictionary is determined by

## Main definitions

* `gather` : the values of a list of pairs, gathered by their keys.
* `items` : gathered values one by one, each with its key.
* `map` : a dictionary with every value changed.

## Main results

* `eq_of_find?_eq` : a dictionary is determined by its answers to look-ups.
* `keys_eq_of_contains_eq` : two dictionaries with a value for the same keys have the same list of
  keys.
* `pairs_gather` : what is gathered, key by key.
* `perm_items_gather` : what is gathered is neither lost nor doubled.
* `sum_update` : counting a key once more adds one to the total.
-/

namespace StringsAudit
namespace Dict

variable {α β : Type}

/-! ### Pairs and look-ups -/

/-- A dictionary answers a look-up with the value that is paired with the key. -/
theorem find?_eq_some_iff
    {dict : Dict α}
    {key : String}
    {value : α} :
    dict.find? key = some value ↔ (key, value) ∈ dict.pairs := by
  rw [find?, List.lookup_eq_some_iff]
  constructor
  · rintro ⟨before, after, heq, -⟩
    rw [heq]
    exact List.mem_append_cons_self
  · intro hmem
    obtain ⟨before, after, heq⟩ := List.append_of_mem hmem
    refine ⟨before, after, heq, fun pair hpair => ?_⟩
    have hsorted := dict.sorted
    rw [heq, List.pairwise_append] at hsorted
    have hlt : pair.1 < key := hsorted.2.2 pair hpair (key, value) List.mem_cons_self
    simp only [bne_iff_ne, ne_eq]
    rintro rfl
    exact String.lt_irrefl pair.1 hlt

/-- Dictionaries that answer every look-up alike are equal. -/
theorem eq_of_find?_eq
    {first second : Dict α}
    (h : ∀ key, first.find? key = second.find? key) :
    first = second := by
  have : Std.Antisymm fun a b : String × α => a.1 < b.1 :=
    ⟨fun a b hab hba => absurd (String.lt_trans hab hba) (String.lt_irrefl a.1)⟩
  have : Std.Irrefl fun a b : String × α => a.1 < b.1 :=
    ⟨fun a => String.lt_irrefl a.1⟩
  refine Dict.ext (first.sorted.eq_of_mem_iff second.sorted fun pair => ?_)
  rw [← find?_eq_some_iff, ← find?_eq_some_iff, h]

/-- The pairs are the keys in their order, each with its value. -/
theorem pairs_eq_map
    {dict : Dict α}
    {value : String → α}
    (h : ∀ key ∈ dict.keys, dict.find? key = some (value key)) :
    dict.pairs = dict.keys.map fun key => (key, value key) := by
  rw [keys, List.map_map]
  conv_lhs => rw [← List.map_id dict.pairs]
  refine List.map_congr_left fun pair hpair => ?_
  have hvalue := h pair.1 (List.mem_map_of_mem hpair)
  rw [find?_eq_some_iff.mpr hpair, Option.some.injEq] at hvalue
  rw [id, Function.comp_apply, ← hvalue]

/-! ### Lists of keys -/

/-- Two dictionaries with a value for the same keys list them alike. -/
theorem keys_eq_of_contains_eq
    {first : Dict α}
    {second : Dict β}
    (h : ∀ key, first.contains key = second.contains key) :
    first.keys = second.keys := by
  refine (pairwise_keys first).eq_of_mem_iff (pairwise_keys second) fun key => ?_
  rw [mem_keys_iff, mem_keys_iff, h]

theorem contains_update
    (dict : Dict α)
    (key other : String)
    (value : Option α → α) :
    (dict.update key value).contains other = (other == key || dict.contains other) := by
  rw [contains, find?_update]
  by_cases heq : other = key
  · simp [heq]
  · simp [heq, contains]

theorem mem_sortedKeys
    {keys : List String}
    {key : String} :
    key ∈ sortedKeys keys ↔ key ∈ keys := by
  rw [sortedKeys, mem_keys_iff]
  induction keys using List.reverseRecOn with
  | nil => simp [contains]
  | append_singleton keys last ih =>
      rw [List.foldl_concat, insert, contains_update, Bool.or_eq_true, ih, beq_iff_eq,
        List.mem_append, List.mem_singleton, or_comm]

/-- The sorted list of keys only depends on which keys there are. -/
theorem sortedKeys_eq_of_mem_iff
    {first second : List String}
    (h : ∀ key, key ∈ first ↔ key ∈ second) :
    sortedKeys first = sortedKeys second := by
  refine (pairwise_keys _).eq_of_mem_iff (pairwise_keys _) fun key => ?_
  exact mem_sortedKeys.trans ((h key).trans mem_sortedKeys.symm)

/-! ### Values gathered by their keys -/

/-- The values of a list of pairs, gathered by their keys. -/
def gather (list : List (String × α)) : Dict (List α) :=
  list.foldl (fun dict pair => dict.push pair.1 pair.2) empty

/-- The values that a list of pairs has for a key, in their order. -/
def valuesOf (list : List (String × α)) (key : String) : List α :=
  (list.filter (·.1 == key)).map (·.2)

theorem valuesOf_append
    (first second : List (String × α))
    (key : String) :
    valuesOf (first ++ second) key = valuesOf first key ++ valuesOf second key := by
  rw [valuesOf, List.filter_append, List.map_append, valuesOf, valuesOf]

theorem valuesOf_concat
    (list : List (String × α))
    (pair : String × α)
    (key : String) :
    valuesOf (list ++ [pair]) key =
      if key = pair.1 then valuesOf list key ++ [pair.2] else valuesOf list key := by
  rw [valuesOf_append]
  by_cases heq : key = pair.1
  · simp [valuesOf, heq]
  · simp [valuesOf, heq, Ne.symm heq]

theorem valuesOf_eq_nil_iff
    {list : List (String × α)}
    {key : String} :
    valuesOf list key = [] ↔ key ∉ list.map (·.1) := by
  simp only [valuesOf, List.map_eq_nil_iff, List.filter_eq_nil_iff, beq_iff_eq, List.mem_map,
    not_exists, not_and]

/-- A key that occurs has all its values, in their order. -/
theorem find?_gather
    (list : List (String × α))
    (key : String) :
    (gather list).find? key =
      if valuesOf list key = [] then none else some (valuesOf list key) := by
  induction list using List.reverseRecOn with
  | nil => rfl
  | append_singleton list pair ih =>
      rw [gather, List.foldl_concat, push, find?_update, valuesOf_concat]
      rw [gather] at ih
      by_cases heq : key = pair.1
      · subst heq
        rw [if_pos rfl, if_pos rfl, ih, if_neg (List.append_ne_nil_of_right_ne_nil _ (by simp))]
        split
        next hnil => simp [hnil]
        next => rfl
      · rw [if_neg heq, if_neg heq, ih]

theorem contains_gather
    {list : List (String × α)}
    {key : String} :
    (gather list).contains key = true ↔ key ∈ list.map (·.1) := by
  rw [contains, find?_gather]
  split
  next hnil => simpa using valuesOf_eq_nil_iff.mp hnil
  next hvalues => simpa using (not_congr valuesOf_eq_nil_iff).mp hvalues

/-- The pairs of what was gathered, in the order of the keys. -/
theorem pairs_gather
    (list : List (String × α)) :
    (gather list).pairs =
      (sortedKeys (list.map (·.1))).map fun key => (key, valuesOf list key) := by
  have hkeys : (gather list).keys = sortedKeys (list.map (·.1)) := by
    refine (pairwise_keys _).eq_of_mem_iff (pairwise_keys _) fun key => ?_
    rw [mem_keys_iff, contains_gather]
    exact mem_sortedKeys.symm
  rw [← hkeys]
  refine pairs_eq_map fun key hkey => ?_
  rw [mem_keys_iff, contains_gather] at hkey
  rw [find?_gather, if_neg fun hnil => valuesOf_eq_nil_iff.mp hnil hkey]

theorem valuesOf_perm
    {first second : List (String × α)}
    (h : first.Perm second)
    (key : String) :
    (valuesOf first key).Perm (valuesOf second key) :=
  (h.filter _).map _

/-! ### The items of gathered values -/

/-- The values of a dictionary of lists, each with its key. -/
def items (dict : Dict (List α)) : List (String × α) :=
  dict.pairs.flatMap fun pair => pair.2.map (pair.1, ·)

theorem perm_flatMap_updatePairs
    (key : String)
    (value : α)
    (pairs : List (String × List α)) :
    ((updatePairs key (fun old => old.getD [] ++ [value]) pairs).flatMap fun pair =>
        pair.2.map (pair.1, ·)).Perm
      ((key, value) :: pairs.flatMap fun pair => pair.2.map (pair.1, ·)) := by
  induction pairs with
  | nil => exact .refl _
  | cons head rest ih =>
      obtain ⟨own, values⟩ := head
      rw [updatePairs]
      split
      next => exact .refl _
      next =>
        split
        next heq =>
          subst heq
          simp only [List.flatMap_cons, Option.getD_some, List.map_append, List.append_assoc]
          exact List.perm_middle
        next =>
          rw [List.flatMap_cons, List.flatMap_cons]
          exact (ih.append_left _).trans List.perm_middle

/-- A value that is pushed is one more item. -/
theorem perm_items_push
    (dict : Dict (List α))
    (key : String)
    (value : α) :
    (dict.push key value).items.Perm ((key, value) :: dict.items) :=
  perm_flatMap_updatePairs key value dict.pairs

/-- What is gathered is neither lost nor doubled. -/
theorem perm_items_gather
    (list : List (String × α)) :
    (gather list).items.Perm list := by
  induction list using List.reverseRecOn with
  | nil => exact .refl _
  | append_singleton list pair ih =>
      rw [gather, List.foldl_concat]
      exact (perm_items_push _ pair.1 pair.2).trans
        ((ih.cons pair).trans (List.perm_append_singleton pair list).symm)

/-! ### Changed values -/

/-- A dictionary with every value changed. -/
def map (dict : Dict α) (change : α → β) : Dict β :=
  ⟨dict.pairs.map fun pair => (pair.1, change pair.2), List.pairwise_map.mpr dict.sorted⟩

theorem lookup_map
    (change : α → β)
    (key : String)
    (pairs : List (String × α)) :
    (pairs.map fun pair => (pair.1, change pair.2)).lookup key = (pairs.lookup key).map change := by
  induction pairs with
  | nil => rfl
  | cons pair rest ih =>
      rw [List.map_cons, lookup_cons, lookup_cons, ih]
      split <;> rfl

@[simp] theorem find?_map
    (dict : Dict α)
    (change : α → β)
    (key : String) :
    (dict.map change).find? key = (dict.find? key).map change :=
  lookup_map change key dict.pairs

/-- A key that is set before the values are changed has its changed value. -/
theorem map_insert
    (dict : Dict α)
    (change : α → β)
    (key : String)
    (value : α) :
    (dict.insert key value).map change = (dict.map change).insert key (change value) := by
  refine eq_of_find?_eq fun other => ?_
  rw [find?_map, find?_insert, find?_insert, find?_map]
  split <;> rfl

/-! ### Totals -/

theorem sum_updatePairs
    (key : String)
    (pairs : List (String × Nat)) :
    ((updatePairs key (fun old => old.getD 0 + 1) pairs).map (·.2)).sum =
      (pairs.map (·.2)).sum + 1 := by
  induction pairs with
  | nil => rfl
  | cons head rest ih =>
      obtain ⟨k, count⟩ := head
      rw [updatePairs]
      split
      next => simp [Nat.add_comm]
      next =>
        split
        next => simp only [Option.getD_some, List.map_cons, List.sum_cons]; omega
        next => simp only [List.map_cons, List.sum_cons, ih]; omega

/-- Counting a key once more adds one to the total. -/
theorem sum_update
    (counts : Dict Nat)
    (key : String) :
    ((counts.update key fun old => old.getD 0 + 1).pairs.map (·.2)).sum =
      (counts.pairs.map (·.2)).sum + 1 :=
  sum_updatePairs key counts.pairs

end Dict
end StringsAudit
