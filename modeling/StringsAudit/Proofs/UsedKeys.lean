import Mathlib.Data.List.Induction
import StringsAudit.Proofs.Dict
import StringsAudit.Proofs.Sorting
import StringsAudit.UsedKeys

/-!
# The places of the keys in a collection of references

A collection comes about from single references, which are kept in their order, and from merging,
which puts the places of a key in order. Many collections merged hold the places of all of them in
one order, so it does not matter in which order they come.

## Main definitions

* `UsedKeys.placesIn` : the places of a key in a list of references.
* `UsedKeys.SamePlaces` : the same keys at the same places.
* `UsedKeys.IsBuilt` : the collections that come about.
* `UsedKeys.merged` : many collections together.

## Main results

* `usages_ofList`, `contains_ofList` : what a collection of references holds.
* `sum_length_usages_ofList` : no reference is lost or doubled.
* `samePlaces_ofList_iff` : collections are compared key by key.
* `IsBuilt.usages_ne_nil` : a key that is referred to has a place.
* `usages_merged`, `merged_eq_of_perm` : what many collections hold together.
-/

namespace StringsAudit
namespace UsedKeys

/-- The places of a key in a list of references, in their order. -/
def placesIn (uses : List (String × Site)) (key : String) : List Location :=
  (uses.filter (·.1 == key)).map (·.2.location)

/-- Two collections have the same keys at the same places, whatever the lines there say. -/
structure SamePlaces (first second : UsedKeys) : Prop where
  keys : first.keys = second.keys
  locations : ∀ key, (first.usages key).map (·.location) = (second.usages key).map (·.location)

instance : Std.TransCmp siteCmp :=
  transCmp_on Location.cmp Site.location

theorem mem_keys
    {used : UsedKeys}
    {key : String} :
    key ∈ used.keys ↔ used.contains key = true :=
  Dict.mem_keys_iff used.sites key

/-! ### Single references -/

theorem ofList_eq_gather
    (uses : List (String × Site)) :
    ofList uses = ⟨Dict.gather uses⟩ := by
  rw [ofList, Dict.gather]
  exact List.foldl_hom mk fun _ _ => rfl

/-- The places of a key are its references, in their order. -/
theorem usages_ofList
    (uses : List (String × Site))
    (key : String) :
    (ofList uses).usages key = Dict.valuesOf uses key := by
  rw [usages, ofList_eq_gather, Dict.find?_gather]
  split
  next hnone => rw [hnone, Option.getD_none]
  next => rw [Option.getD_some]

/-- No reference is lost or doubled: the places of all keys are as many as the references. -/
theorem sum_length_usages_ofList
    (uses : List (String × Site)) :
    ((ofList uses).keys.map fun key => ((ofList uses).usages key).length).sum = uses.length := by
  have hitems := (Dict.perm_items_gather uses).length_eq
  rw [Dict.items, List.length_flatMap] at hitems
  rw [← hitems, ofList_eq_gather, keys, Dict.keys, List.map_map]
  refine congrArg List.sum (List.map_congr_left fun pair hpair => ?_)
  have hfound : (Dict.gather uses).find? pair.1 = some pair.2 := Dict.find?_eq_some_iff.mpr hpair
  rw [Function.comp_apply, usages, hfound, Option.getD_some, List.length_map]

theorem contains_insert
    (used : UsedKeys)
    (key other : String)
    (site : Site) :
    (used.insert key site).contains other = (other == key || used.contains other) :=
  Dict.contains_update used.sites key other _

theorem usages_insert
    (used : UsedKeys)
    (key other : String)
    (site : Site) :
    (used.insert key site).usages other =
      if other = key then used.usages other ++ [site] else used.usages other := by
  rw [usages, insert, Dict.push, Dict.find?_update]
  split
  next heq => rw [heq, Option.getD_some, usages]
  next => rw [usages]

/-- The keys of a collection are those that are referred to. -/
theorem contains_ofList
    (uses : List (String × Site))
    (key : String) :
    (ofList uses).contains key = uses.any (·.1 == key) := by
  have hgather : (Dict.gather uses).contains key = true ↔ key ∈ uses.map (·.1) :=
    Dict.contains_gather
  rw [contains, ofList_eq_gather, Bool.eq_iff_iff, hgather]
  simp

theorem placesIn_append
    (first second : List (String × Site))
    (key : String) :
    placesIn (first ++ second) key = placesIn first key ++ placesIn second key := by
  rw [placesIn, List.filter_append, List.map_append, placesIn, placesIn]

theorem placesIn_eq_nil_iff
    {uses : List (String × Site)}
    {key : String} :
    placesIn uses key = [] ↔ uses.any (·.1 == key) = false := by
  rw [placesIn, List.map_eq_nil_iff, List.filter_eq_nil_iff, List.any_eq_false]

/-- Collections of references are compared key by key. -/
theorem samePlaces_ofList_iff
    {first second : List (String × Site)} :
    SamePlaces (ofList first) (ofList second) ↔
      ∀ key, placesIn first key = placesIn second key := by
  have hlocations (uses : List (String × Site)) (key : String) :
      ((ofList uses).usages key).map (·.location) = placesIn uses key := by
    rw [usages_ofList, Dict.valuesOf, List.map_map]
    rfl
  constructor
  · intro h key
    rw [← hlocations, h.locations key, hlocations]
  · intro h
    refine ⟨Dict.keys_eq_of_contains_eq fun key => ?_, fun key => ?_⟩
    · have hboth : first.any (·.1 == key) = false ↔ second.any (·.1 == key) = false := by
        rw [← placesIn_eq_nil_iff, h key, placesIn_eq_nil_iff]
      change (ofList first).contains key = (ofList second).contains key
      rw [contains_ofList, contains_ofList]
      exact Bool.eq_iff_iff.mpr (by simpa using not_congr hboth)
    · rw [hlocations, hlocations, h key]

/-! ### Merging -/

theorem find?_foldl_merge
    {pairs : List (String × List Site)}
    (hsorted : pairs.Pairwise fun a b => a.1 < b.1)
    (used : UsedKeys)
    (key : String) :
    (pairs.foldl (fun used pair => used.merge pair.1 pair.2) used).sites.find? key =
      match pairs.lookup key with
      | some sites => some (sortBy siteCmp (used.usages key ++ sites))
      | none => used.sites.find? key := by
  induction pairs generalizing used with
  | nil => rfl
  | cons pair rest ih =>
      obtain ⟨own, sites⟩ := pair
      obtain ⟨hbelow, hrest⟩ := List.pairwise_cons.mp hsorted
      rw [List.foldl_cons, ih hrest, Dict.lookup_cons, merge, usages]
      simp only [Dict.find?_update]
      by_cases heq : key = own
      · subst heq
        rw [Dict.lookup_eq_none_of_lt hbelow, if_pos rfl, if_pos rfl, usages]
      · rw [if_neg heq, if_neg heq, usages]

theorem find?_extend
    (used other : UsedKeys)
    (key : String) :
    (used.extend other).sites.find? key =
      match other.sites.find? key with
      | some sites => some (sortBy siteCmp (used.usages key ++ sites))
      | none => used.sites.find? key :=
  find?_foldl_merge other.sites.sorted used key

theorem contains_extend
    (used other : UsedKeys)
    (key : String) :
    (used.extend other).contains key = (used.contains key || other.contains key) := by
  rw [contains, Dict.contains, find?_extend, contains, contains, Dict.contains, Dict.contains]
  cases other.sites.find? key <;> simp

/-- The places of a key are put in order where the other collection has the key. -/
theorem usages_extend
    (used other : UsedKeys)
    (key : String) :
    (used.extend other).usages key =
      if other.contains key then sortBy siteCmp (used.usages key ++ other.usages key)
      else used.usages key := by
  rw [usages, find?_extend, contains, Dict.contains, usages, usages]
  cases other.sites.find? key <;> rfl

theorem usages_eq_nil_of_contains
    {used : UsedKeys}
    {key : String}
    (h : used.contains key = false) :
    used.usages key = [] := by
  rw [contains, Dict.contains, Option.isSome_eq_false_iff, Option.isNone_iff_eq_none] at h
  rw [usages, h, Option.getD_none]

theorem contains_of_usages_eq_cons
    {used : UsedKeys}
    {key : String}
    {first : Site}
    {others : List Site}
    (h : used.usages key = first :: others) :
    used.contains key = true := by
  by_contra hnot
  rw [usages_eq_nil_of_contains (Bool.not_eq_true _ ▸ hnot)] at h
  exact absurd h (List.cons_ne_nil first others).symm

/-- Collections are equal if they have the same keys with the same places. -/
theorem eq_of_usages_eq
    {first second : UsedKeys}
    (hcontains : ∀ key, first.contains key = second.contains key)
    (husages : ∀ key, first.usages key = second.usages key) :
    first = second := by
  obtain ⟨first⟩ := first
  obtain ⟨second⟩ := second
  congr 1
  refine Dict.eq_of_find?_eq fun key => ?_
  have hcontains := hcontains key
  have husages := husages key
  simp only [contains, Dict.contains] at hcontains
  simp only [usages] at husages
  cases hfirst : first.find? key <;> cases hsecond : second.find? key <;> simp_all

/-! ### Collections that come about -/

/-- Collections that come about from single references and from other such collections. -/
inductive IsBuilt : UsedKeys → Prop
  | empty : IsBuilt .empty
  | insert {used : UsedKeys} (key : String) (site : Site) :
      IsBuilt used → IsBuilt (used.insert key site)
  | extend {used other : UsedKeys} :
      IsBuilt used → IsBuilt other → IsBuilt (used.extend other)

theorem IsBuilt.ofList
    (uses : List (String × Site)) :
    IsBuilt (ofList uses) := by
  induction uses using List.reverseRecOn with
  | nil => exact .empty
  | append_singleton uses use ih =>
      rw [UsedKeys.ofList, List.foldl_concat]
      exact .insert use.1 use.2 ih

/-- A key that is referred to has a place. -/
theorem IsBuilt.usages_ne_nil
    {used : UsedKeys}
    (hbuilt : used.IsBuilt)
    {key : String}
    (hcontains : used.contains key = true) :
    used.usages key ≠ [] := by
  induction hbuilt with
  | empty => simp [contains, UsedKeys.empty, Dict.contains] at hcontains
  | @insert used own site _ ih =>
      rw [usages_insert]
      split
      next => exact List.append_ne_nil_of_right_ne_nil _ (List.cons_ne_nil site [])
      next hne =>
        rw [contains_insert, Bool.or_eq_true, beq_iff_eq] at hcontains
        exact ih (hcontains.resolve_left hne)
  | @extend used other _ _ ih ihother =>
      rw [usages_extend]
      split
      next hother =>
        intro hnil
        have hlength := congrArg List.length hnil
        rw [length_sortBy, List.length_append, List.length_nil] at hlength
        exact ihother hother (List.eq_nil_of_length_eq_zero (by omega))
      next hother =>
        rw [contains_extend, Bool.or_eq_true] at hcontains
        exact ih (hcontains.resolve_right hother)

/-! ### Many collections together -/

/-- The references of many collections together. -/
def merged (list : List UsedKeys) : UsedKeys :=
  list.foldl extend empty

theorem IsBuilt.merged
    {list : List UsedKeys}
    (h : ∀ used ∈ list, used.IsBuilt) :
    IsBuilt (UsedKeys.merged list) := by
  induction list using List.reverseRecOn with
  | nil => exact .empty
  | append_singleton list last ih =>
      rw [UsedKeys.merged, List.foldl_concat]
      refine .extend (ih fun used hused => h used (List.mem_append_left _ hused)) ?_
      exact h last (List.mem_append_right _ List.mem_cons_self)

theorem contains_merged
    (list : List UsedKeys)
    (key : String) :
    (merged list).contains key = list.any (·.contains key) := by
  induction list using List.reverseRecOn with
  | nil => rfl
  | append_singleton list last ih =>
      rw [merged, List.foldl_concat, contains_extend, List.any_append, ← ih, merged]
      simp

/-- The places of a key are those in all collections, put in order. -/
theorem usages_merged
    (list : List UsedKeys)
    (key : String) :
    (merged list).usages key = sortBy siteCmp (list.flatMap (·.usages key)) := by
  induction list using List.reverseRecOn with
  | nil => simp [merged, usages, empty, sortBy]
  | append_singleton list last ih =>
      rw [merged] at ih
      rw [merged, List.foldl_concat, usages_extend, ih, List.flatMap_append, List.flatMap_singleton]
      split
      next =>
        -- Sorting the first places beforehand does not change what each class holds.
        refine sortBy_eq_of_filter_eq siteCmp fun site => ?_
        rw [List.filter_append, List.filter_append, filter_cmp_sortBy]
      next hnot =>
        rw [usages_eq_nil_of_contains (Bool.not_eq_true _ ▸ hnot), List.append_nil]

/-- The order of collections does not matter if only equal sites are at one place. -/
theorem merged_eq_of_perm
    {first second : List UsedKeys}
    (hperm : first.Perm second)
    (hsites : ∀ key, ∀ a ∈ first.flatMap (·.usages key), ∀ b ∈ first.flatMap (·.usages key),
      a.location = b.location → a = b) :
    merged first = merged second := by
  refine eq_of_usages_eq (fun key => ?_) fun key => ?_
  · rw [contains_merged, contains_merged, hperm.any_eq]
  · rw [usages_merged, usages_merged]
    refine sortBy_eq_of_perm siteCmp (hperm.flatMap_right _) fun a ha b hb hab => ?_
    exact hsites key a ha b hb (Std.LawfulEqCmp.eq_of_compare hab)

end UsedKeys
end StringsAudit
