/-!
# Dictionaries with text keys

A dictionary is a list of key and value pairs in strictly increasing order of the keys, so two
dictionaries that answer every look-up alike are equal, and its list of keys never depends on the
order in which they came in. Keys are compared character by character.

## Main definitions

* `Dict` : a dictionary.
* `Dict.find?` : the value of a key.
* `Dict.update` : a dictionary with the value of one key recomputed.

## Main results

* `Dict.find?_update` : an update changes the value of its own key only.
* `Dict.pairwise_keys` : the keys come in strictly increasing order.
-/

namespace StringsAudit

/-- A list of key and value pairs in strictly increasing order of the keys. -/
@[ext]
structure Dict (α : Type) where
  pairs : List (String × α)
  sorted : pairs.Pairwise fun a b => a.1 < b.1
  deriving DecidableEq

namespace Dict

variable {α : Type}

/-- The dictionary without keys. -/
def empty : Dict α :=
  ⟨[], .nil⟩

instance : Inhabited (Dict α) :=
  ⟨empty⟩

/-- The value of a key. -/
def find? (dict : Dict α) (key : String) : Option α :=
  dict.pairs.lookup key

/-- Whether a key has a value. -/
def contains (dict : Dict α) (key : String) : Bool :=
  (dict.find? key).isSome

/-- The keys, in strictly increasing order. -/
def keys (dict : Dict α) : List String :=
  dict.pairs.map (·.1)

/-- The number of keys. -/
def size (dict : Dict α) : Nat :=
  dict.pairs.length

/-- Recomputes the value of one key in a list of pairs in increasing order of the keys. -/
def updatePairs (key : String) (value : Option α → α) : List (String × α) → List (String × α)
  | [] => [(key, value none)]
  | (k, v) :: rest =>
      if key < k then (key, value none) :: (k, v) :: rest
      else if key = k then (k, value (some v)) :: rest
      else (k, v) :: updatePairs key value rest

theorem fst_of_mem_updatePairs
    {key : String}
    {value : Option α → α}
    {pairs : List (String × α)}
    {pair : String × α}
    (h : pair ∈ updatePairs key value pairs) :
    pair.1 = key ∨ ∃ v, (pair.1, v) ∈ pairs := by
  induction pairs with
  | nil => simp_all [updatePairs]
  | cons head rest ih =>
      obtain ⟨k, v⟩ := head
      simp only [updatePairs] at h
      split at h
      · rcases List.mem_cons.mp h with rfl | h
        · exact .inl rfl
        · exact .inr ⟨pair.2, h⟩
      · split at h
        next eq =>
          rcases List.mem_cons.mp h with rfl | h
          · exact .inl eq.symm
          · exact .inr ⟨pair.2, List.mem_cons_of_mem _ h⟩
        next =>
          rcases List.mem_cons.mp h with rfl | h
          · exact .inr ⟨v, List.mem_cons_self⟩
          · rcases ih h with h | ⟨v', h⟩
            · exact .inl h
            · exact .inr ⟨v', List.mem_cons_of_mem _ h⟩

theorem sorted_updatePairs
    (key : String)
    (value : Option α → α)
    {pairs : List (String × α)}
    (h : pairs.Pairwise fun a b => a.1 < b.1) :
    (updatePairs key value pairs).Pairwise fun a b => a.1 < b.1 := by
  induction pairs with
  | nil => simp [updatePairs]
  | cons head rest ih =>
      obtain ⟨k, v⟩ := head
      obtain ⟨below, later⟩ := List.pairwise_cons.mp h
      simp only [updatePairs]
      split
      next less =>
        refine List.pairwise_cons.mpr ⟨fun pair member => ?_, h⟩
        rcases List.mem_cons.mp member with rfl | member
        · exact less
        · exact String.lt_trans less (below pair member)
      next notLess =>
        split
        next => exact List.pairwise_cons.mpr ⟨below, later⟩
        next ne =>
          refine List.pairwise_cons.mpr ⟨fun pair member => ?_, ih later⟩
          rcases fst_of_mem_updatePairs member with eq | ⟨v', member⟩
          · rw [eq]
            refine Std.lt_of_le_of_ne (String.not_lt.mp notLess) (Ne.symm ne)
          · exact below (pair.1, v') member

/-- A dictionary with the value of one key recomputed from the value it had. -/
def update (dict : Dict α) (key : String) (value : Option α → α) : Dict α :=
  ⟨updatePairs key value dict.pairs, sorted_updatePairs key value dict.sorted⟩

/-- A dictionary with one key set to a value. -/
def insert (dict : Dict α) (key : String) (value : α) : Dict α :=
  dict.update key fun _ => value

/-- A dictionary of lists with one more element at the end of the list of a key. -/
def push (dict : Dict (List α)) (key : String) (value : α) : Dict (List α) :=
  dict.update key fun old => old.getD [] ++ [value]

/-- Each key of a list once, in increasing order. -/
def sortedKeys (keys : List String) : List String :=
  (keys.foldl (fun (dict : Dict Unit) key => dict.insert key ()) empty).keys

@[simp] theorem find?_empty
    (key : String) :
    (empty : Dict α).find? key = none := by
  rfl

theorem lookup_cons
    (key k : String)
    (v : α)
    (rest : List (String × α)) :
    List.lookup key ((k, v) :: rest) = if key = k then some v else rest.lookup key := by
  by_cases eq : key = k
  · simp [eq]
  · have : (key == k) = false := by simpa using eq
    rw [List.lookup_cons, this, if_neg eq]

theorem lookup_eq_none_of_lt
    {key : String}
    {pairs : List (String × α)}
    (h : ∀ pair ∈ pairs, key < pair.1) :
    pairs.lookup key = none := by
  rw [List.lookup_eq_none_iff]
  intro pair member
  simp only [bne_iff_ne, ne_eq]
  intro eq
  exact String.lt_irrefl pair.1 (eq ▸ h pair member)

theorem lookup_updatePairs
    (key other : String)
    (value : Option α → α)
    {pairs : List (String × α)}
    (h : pairs.Pairwise fun a b => a.1 < b.1) :
    (updatePairs key value pairs).lookup other =
      if other = key then some (value (pairs.lookup key)) else pairs.lookup other := by
  induction pairs with
  | nil => simp [updatePairs, lookup_cons]
  | cons head rest ih =>
      obtain ⟨k, v⟩ := head
      obtain ⟨below, later⟩ := List.pairwise_cons.mp h
      simp only [updatePairs]
      split
      next less =>
        have absent : List.lookup key ((k, v) :: rest) = none := by
          refine lookup_eq_none_of_lt fun pair member => ?_
          rcases List.mem_cons.mp member with rfl | member
          · exact less
          · exact String.lt_trans less (below pair member)
        rw [lookup_cons, absent]
      next =>
        split
        next eq =>
          subst eq
          simp only [lookup_cons, if_true]
          split <;> rfl
        next ne =>
          simp only [lookup_cons, ih later, ne, if_false]
          split
          next eq => simp [eq, Ne.symm ne]
          next => rfl

/-- An update changes the value of its own key only. -/
theorem find?_update
    (dict : Dict α)
    (key other : String)
    (value : Option α → α) :
    (dict.update key value).find? other =
      if other = key then some (value (dict.find? key)) else dict.find? other :=
  lookup_updatePairs key other value dict.sorted

/-- The key that was set has its value, and the others keep theirs. -/
theorem find?_insert
    (dict : Dict α)
    (key other : String)
    (value : α) :
    (dict.insert key value).find? other =
      if other = key then some value else dict.find? other :=
  find?_update dict key other _

theorem mem_keys_iff
    (dict : Dict α)
    (key : String) :
    key ∈ dict.keys ↔ dict.contains key = true := by
  rw [contains, find?, Option.isSome_iff_ne_none, ne_eq, List.lookup_eq_none_iff, keys,
    List.mem_map]
  constructor
  · rintro ⟨pair, member, rfl⟩ all
    simpa using all pair member
  · intro some
    simp only [bne_iff_ne, ne_eq, Classical.not_forall, Decidable.not_not] at some
    obtain ⟨pair, member, eq⟩ := some
    exact ⟨pair, member, eq.symm⟩

/-- The keys are strictly increasing. -/
theorem pairwise_keys
    (dict : Dict α) :
    dict.keys.Pairwise (· < ·) :=
  List.pairwise_map.mpr dict.sorted

@[simp] theorem length_keys
    (dict : Dict α) :
    dict.keys.length = dict.size :=
  List.length_map ..

end Dict
end StringsAudit
