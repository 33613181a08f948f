import StringsAudit.Proofs.UsedKeys

/-!
# How a collection of references comes about

A collection starts without references and takes in single references, whole lists of them and
other collections that came about in the same way, in any order. What it holds of a key is what it
was given for it. A collection that only takes in other collections has the places of each key in
order, even where theirs are not: those keys that a step leaves alone were put in order before.

## Main definitions

* `UsedKeys.History` : the operations that a collection comes from.
* `History.run` : the collection.
* `History.given` : the references that were given for all keys.
* `UsedKeys.IsOrdered` : the places of each key are in order.

## Main results

* `History.isBuilt_run` : no operation leaves the collections that come about.
* `History.contains_run` : a collection has the keys that were given.
* `History.perm_usages_run` : a collection has the places that were given.
* `IsOrdered.extend` : a collection stays in order as it takes in another one.
* `UsedKeys.holds_what_is_given` : what is true of a collection in each of its states.
-/

namespace StringsAudit
namespace UsedKeys

/-- The operations that a collection comes from. -/
inductive History
  | new
  | ofList (uses : List (String × Site))
  | insert (before : History) (key : String) (site : Site)
  | extend (before other : History)

namespace History

/-- The collection that the operations leave. -/
def run : History → UsedKeys
  | new => .empty
  | ofList uses => .ofList uses
  | insert before key site => before.run.insert key site
  | extend before other => before.run.extend other.run

/-- The references that all operations give, those of other collections included. -/
def given : History → List (String × Site)
  | new => []
  | ofList uses => uses
  | insert before key site => before.given ++ [(key, site)]
  | extend before other => before.given ++ other.given

theorem isBuilt_run
    (history : History) :
    history.run.IsBuilt := by
  induction history with
  | new => exact .empty
  | ofList uses => exact .ofList uses
  | insert before key site ih => exact .insert key site ih
  | extend before other ih ihother => exact .extend ih ihother

/-- A collection has the keys that references were given for. -/
theorem contains_run
    (history : History)
    (key : String) :
    history.run.contains key = history.given.any (·.1 == key) := by
  induction history with
  | new => rfl
  | ofList uses => exact contains_ofList uses key
  | insert before own site ih =>
      rw [run, contains_insert, ih, given, List.any_append, List.any_cons, List.any_nil,
        Bool.or_false, Bool.or_comm, BEq.comm]
  | extend before other ih ihother =>
      rw [run, contains_extend, ih, ihother, given, List.any_append]

/-- A collection has the places that were given for a key, each as often as it was given. -/
theorem perm_usages_run
    (history : History)
    (key : String) :
    (history.run.usages key).Perm (Dict.valuesOf history.given key) := by
  induction history with
  | new => exact .refl _
  | ofList uses => rw [run, usages_ofList, given]
  | insert before own site ih =>
      rw [run, usages_insert, given, Dict.valuesOf_concat]
      split
      next => exact ih.append_right [site]
      next => exact ih
  | extend before other ih ihother =>
      rw [run, usages_extend, given, Dict.valuesOf_append]
      split
      next => exact (perm_sortBy siteCmp _).trans (ih.append ihother)
      next hnot =>
        -- a key that the other collection does not have has no places to take in
        rw [usages_eq_nil_of_contains (Bool.not_eq_true _ ▸ hnot)] at ihother
        rw [← ihother.nil_eq, List.append_nil]
        exact ih

end History

/-! ### The order of the places -/

/-- The places of each key are in order. -/
def IsOrdered (used : UsedKeys) : Prop :=
  ∀ key, (used.usages key).Pairwise fun a b => (Location.cmp a.location b.location).isLE

theorem isOrdered_empty :
    IsOrdered .empty :=
  fun _ => List.Pairwise.nil

/-- The keys of the other collection are put in order, and the others were in order. -/
theorem IsOrdered.extend
    {used : UsedKeys}
    (h : used.IsOrdered)
    (other : UsedKeys) :
    (used.extend other).IsOrdered := by
  intro key
  rw [usages_extend]
  split
  next => exact pairwise_sortBy siteCmp _
  next => exact h key

theorem IsOrdered.of_mem_scanl
    {start used : UsedKeys}
    {others : List UsedKeys}
    (h : start.IsOrdered)
    (hused : used ∈ others.scanl UsedKeys.extend start) :
    used.IsOrdered := by
  induction others generalizing start with
  | nil => exact List.mem_singleton.mp hused ▸ h
  | cons other others ih =>
      rw [List.scanl_cons, List.mem_cons] at hused
      rcases hused with rfl | hused
      · exact h
      · exact ih (h.extend other) hused

/--
Whatever operations a collection comes from, its keys are strictly increasing, they are those that
references were given for, each of them has a place, and its places are those that were given for
it. A collection that starts without references and only takes in other collections has the places
of each key in order before the first step and after each one, however the others have them.
-/
theorem holds_what_is_given
    (history : History)
    (others : List UsedKeys) :
    history.run.keys.Pairwise (· < ·) ∧
    (∀ key,
      (key ∈ history.run.keys ↔ key ∈ history.given.map (·.1)) ∧
      (key ∈ history.run.keys → history.run.usages key ≠ []) ∧
      (history.run.usages key).Perm ((history.given.filter (·.1 == key)).map (·.2))) ∧
    ∀ used ∈ others.scanl extend empty, ∀ key,
      (used.usages key).Pairwise fun a b => (Location.cmp a.location b.location).isLE := by
  refine ⟨Dict.pairwise_keys _, fun key => ⟨?_, ?_, ?_⟩, fun used hused => ?_⟩
  · rw [mem_keys, history.contains_run]
    simp
  · exact fun hkey => history.isBuilt_run.usages_ne_nil (mem_keys.mp hkey)
  · exact history.perm_usages_run key
  · exact isOrdered_empty.of_mem_scanl hused

/-- Places that come out of order are put in order, and stay so when another key comes. -/
theorem holds_title_in_order :
    let first : Site := ⟨⟨"a.swift", 9, 1⟩, "let t = \"title\".localized"⟩
    let second : Site := ⟨⟨"b.swift", 3, 1⟩, "show(\"title\".localized)"⟩
    let titles : History := .ofList [("title", second), ("title", first)]
    let body : History := .insert .new "body" first
    let history : History := .extend (.extend .new titles) body
    "title" ∈ history.run.keys ∧
    history.run.usages "title" ≠ [] ∧
    (history.run.usages "title").Perm [second, first] ∧
    history.run ∈ [titles.run, body.run].scanl extend empty ∧
    (history.run.usages "title").Pairwise fun a b =>
      (Location.cmp a.location b.location).isLE := by
  intro first second titles body history
  obtain ⟨-, hkey, hordered⟩ := holds_what_is_given history [titles.run, body.run]
  obtain ⟨hgiven, hplace, hperm⟩ := hkey "title"
  have htitle : "title" ∈ history.run.keys := hgiven.mpr (by decide)
  have hrun : history.run ∈ [titles.run, body.run].scanl extend empty := by
    simp only [List.scanl_cons, List.scanl_nil, List.mem_cons]
    exact .inr (.inr (.inl rfl))
  exact ⟨htitle, hplace htitle, hperm, hrun, hordered _ hrun "title"⟩

end UsedKeys
end StringsAudit
