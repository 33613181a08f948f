import StringsAudit.Proofs.Check.Listing

/-!
# Values that databases share

The databases of a group that define a key are parted by the values that they give it, and a part
with two databases or more is a finding. Databases with different names are told apart by what a
finding lists.

## Main definitions

* `SharedValue` : what a finding says of a value that several databases share.

## Main results

* `areListed_identical` : there is one finding for each key and each value that is shared.
* `identical_partitions` : two databases are listed by one finding for a key exactly if they give it
  the same value, and no database is listed by two.
-/

namespace StringsAudit
namespace Check

/-- What a finding says of a value that several databases share. -/
structure SharedValue where
  definition : Definition
  databases : List String
  deriving DecidableEq, Repr

namespace SharedValue

/-- The finding itself. -/
def issue (shared : SharedValue) : Issue :=
  .identicalValue shared.definition shared.databases

/-- Whether the finding is about a key and lists a database. -/
def lists (shared : SharedValue) (key name : String) : Bool :=
  shared.definition.key == key && shared.databases.contains name

/-- The key and the value. -/
def place (shared : SharedValue) : String × String :=
  (shared.definition.key, shared.definition.value)

end SharedValue

variable {group : LocaleGroup} {key value : String} {db : Database}

/-- Where the first of some databases has a key; a value that is shared has databases. -/
def firstLocation (key : String) : List Database → Location
  | [] => .ofFile ""
  | first :: _ => first.locationOf key

/-- What is said of the databases that give a key one value. -/
def sharedAt (group : LocaleGroup) (place : String × String) : SharedValue where
  definition :=
    ⟨firstLocation place.1 (sharers group place.1 place.2), place.1, place.2⟩
  databases := (sharers group place.1 place.2).map (·.name)

theorem pairs_byValue
    (group : LocaleGroup)
    (key : String) :
    (byValue group key).pairs =
      (byValue group key).keys.map fun value => (value, sharers group key value) := by
  refine Dict.pairs_eq_map fun value hvalue => ?_
  obtain ⟨⟨value, databases⟩, hpair, rfl⟩ := List.mem_map.mp hvalue
  rw [Dict.find?_eq_some_iff, ← (mem_pairs_byValue_iff.mp hpair).2]
  exact hpair

theorem mem_keys_byValue_of_mem_sharers
    (h : db ∈ sharers group key value) :
    value ∈ (byValue group key).keys :=
  List.mem_map.mpr ⟨_, mem_pairs_byValue_iff.mpr ⟨List.ne_nil_of_mem h, rfl⟩, rfl⟩

theorem identical_eq_flatMap
    (group : LocaleGroup) :
    identical group =
      group.allKeys.flatMap fun key =>
        ((byValue group key).keys.filter fun value => 2 ≤ (sharers group key value).length).map
          fun value => (sharedAt group (key, value)).issue := by
  rw [identical]
  refine List.flatMap_congr fun key _ => ?_
  rw [pairs_byValue, List.filterMap_map]
  refine filterMap_eq_map_filter (fun value => ?_) _
  rw [sharedAt, SharedValue.issue, Function.comp_apply]
  cases sharers group key value with
  | nil => rfl
  | cons first rest =>
      cases rest with
      | nil => rfl
      | cons second rest => rfl

/-- There is one finding for each key and each value that is shared, in the order of both. -/
theorem areListed_identical
    (group : LocaleGroup) :
    AreListed (Prod.Lex (· < ·) (· < ·))
      (fun place => 2 ≤ (sharers group place.1 place.2).length)
      (fun place => (sharedAt group place).issue)
      (identical group) := by
  rw [identical_eq_flatMap]
  refine AreListed.congr (areListed_flatMap _ (LocaleGroup.pairwise_allKeys group)
    fun key _ => (Dict.pairwise_keys (byValue group key)).filter _) fun place => ?_
  simp only [List.mem_filter, decide_eq_true_eq]
  refine ⟨fun h => h.2.2, fun hlength => ?_⟩
  obtain ⟨db, hdb⟩ := List.exists_mem_of_length_pos (Nat.zero_lt_of_lt hlength)
  exact ⟨mem_allKeys_of_mem_sharers hdb, mem_keys_byValue_of_mem_sharers hdb, hlength⟩

/-- Two databases that give a key one value share it. -/
theorem two_le_length_sharers
    {first second : Database}
    (hne : first ≠ second)
    (hfirst : first ∈ sharers group key value)
    (hsecond : second ∈ sharers group key value) :
    2 ≤ (sharers group key value).length := by
  by_contra hshort
  have hpos := List.length_pos_of_mem hfirst
  have hone : (sharers group key value).length = 1 := by omega
  obtain ⟨only, honly⟩ := List.length_eq_one_iff.mp hone
  rw [honly, List.mem_singleton] at hfirst hsecond
  exact hne (hfirst.trans hsecond.symm)

/-- A shared value is shown at its line in the first database that has it. -/
theorem exists_firstLocation_sharers
    (hlength : 2 ≤ (sharers group key value).length) :
    ∃ first entry,
      group.databases.find? (fun db => db.value? key == some value) = some first ∧
      first.find? key = some entry ∧
      firstLocation key (sharers group key value) = .ofLine first.file entry.line := by
  obtain ⟨first, rest, hsharers⟩ :=
    List.exists_cons_of_length_pos (Nat.zero_lt_of_lt hlength)
  have hfirst : first ∈ sharers group key value := hsharers ▸ List.mem_cons_self
  have hvalue := (mem_sharers.mp hfirst).2
  rw [Database.value?, Option.map_eq_some_iff] at hvalue
  obtain ⟨entry, hentry, -⟩ := hvalue
  refine ⟨first, entry, ?_, hentry, ?_⟩
  · rw [← List.head?_filter, ← sharers, hsharers, List.head?_cons]
  · rw [hsharers, firstLocation, Database.locationOf, hentry]

/-! ### Databases with different names -/

section DifferentNames

variable (hnames : (group.databases.map (·.name)).Nodup)
include hnames

/-- A database is listed by what is said of a key exactly if it gives it the value. -/
theorem lists_sharedAt_iff
    {place : String × String}
    (hdb : db ∈ group.databases) :
    (sharedAt group place).lists key db.name = true ↔
      place.1 = key ∧ db.value? key = some place.2 := by
  simp only [SharedValue.lists, sharedAt, Bool.and_eq_true, beq_iff_eq, List.contains_iff_mem,
    List.mem_map]
  refine and_congr_right fun hkey => ?_
  subst hkey
  constructor
  · rintro ⟨other, hother, hname⟩
    obtain ⟨hmem, hvalue⟩ := mem_sharers.mp hother
    rwa [← List.inj_on_of_nodup_map hnames hmem hdb hname]
  · intro hvalue
    exact ⟨db, mem_sharers.mpr ⟨hdb, hvalue⟩, rfl⟩

theorem lists_sharedAt_iff_eq
    {place : String × String}
    (hdb : db ∈ group.databases)
    (hvalue : db.value? key = some value) :
    (sharedAt group place).lists key db.name = true ↔ place = (key, value) := by
  rw [lists_sharedAt_iff hnames hdb, hvalue, Option.some.injEq, Prod.ext_iff, eq_comm (a := value)]

/-- The findings that list two databases for a key are those of the value that they share. -/
theorem countP_lists_and_lists
    {first second : Database}
    (hfirst : first ∈ group.databases)
    (hsecond : second ∈ group.databases)
    (hfirstValue : first.value? key = some value)
    (hsecondValue : second.value? key = some value)
    (places : List (String × String)) :
    (places.map (sharedAt group)).countP
        (fun shared => shared.lists key first.name && shared.lists key second.name) =
      places.count (key, value) := by
  rw [List.countP_map, List.count]
  refine List.countP_congr fun place _ => ?_
  rw [Function.comp_apply, Bool.and_eq_true, lists_sharedAt_iff_eq hnames hfirst hfirstValue,
    lists_sharedAt_iff_eq hnames hsecond hsecondValue, and_self, beq_iff_eq]

/-- No two findings for a key list one database. -/
theorem countP_lists_le_one
    {places : List (String × String)}
    (hplaces : places.Nodup)
    (hdb : db ∈ group.databases) :
    (places.map (sharedAt group)).countP (·.lists key db.name) ≤ 1 := by
  cases hvalue : db.value? key with
  | none =>
      have hnone : (places.map (sharedAt group)).countP (·.lists key db.name) = 0 := by
        refine List.countP_eq_zero.mpr fun shared hshared => ?_
        obtain ⟨place, -, rfl⟩ := List.mem_map.mp hshared
        simp [lists_sharedAt_iff hnames hdb, hvalue]
      exact hnone ▸ Nat.zero_le 1
  | some value =>
      have hcount := countP_lists_and_lists hnames hdb hdb hvalue hvalue places
      simp only [Bool.and_self] at hcount
      rw [hcount]
      exact List.nodup_iff_count_le_one.mp hplaces _

end DifferentNames

/--
The findings come in the order of their keys and values. Two databases of a group are listed for a
key by exactly one finding if they give it the same value, and else by none; a finding lists all
databases with its value, in their order and at least two, and is shown at the line of the first. No
two findings for a key list one database.
-/
theorem identical_partitions
    (hnames : (group.databases.map (·.name)).Nodup) :
    ∃ shared : List SharedValue,
      identical group = shared.map SharedValue.issue ∧
      (shared.map SharedValue.place).Pairwise (Prod.Lex (· < ·) (· < ·)) ∧
      (∀ (key : String) (i j : Fin group.databases.length), i < j →
        let first := group.databases.get i
        let second := group.databases.get j
        ((∃ value, first.value? key = some value ∧ second.value? key = some value) ↔
          shared.countP (fun found =>
            found.lists key first.name && found.lists key second.name) = 1)) ∧
      (∀ found ∈ shared, ∀ key value, found.place = (key, value) →
        found.databases =
          (group.databases.filter fun db => db.value? key == some value).map (·.name) ∧
        2 ≤ found.databases.length ∧
        ∃ first entry,
          group.databases.find? (fun db => db.value? key == some value) = some first ∧
          first.find? key = some entry ∧
          found.definition.location = .ofLine first.file entry.line) ∧
      ∀ key, ∀ db ∈ group.databases,
        shared.countP (·.lists key db.name) ≤ 1 ∧
        ∀ found ∈ shared, found.lists key db.name = true →
          db.value? key = some found.definition.value := by
  obtain ⟨places, hordered, hplaces, hissues⟩ := areListed_identical group
  have hdifferent : group.databases.Pairwise fun a b => a.name ≠ b.name :=
    List.pairwise_map.mp hnames
  -- Places in strictly increasing order are different, so each is counted once.
  have : Std.Irrefl fun a b : String => a < b := ⟨String.lt_irrefl⟩
  have hnodup : places.Nodup := hordered.nodup
  refine ⟨places.map (sharedAt group), ?issues, ?ordered, fun key i j hij => ?pairs,
    fun found hfound key value hplace => ?found,
    fun key db hdb => ⟨?once, fun found hfound hlists => ?value⟩⟩
  case issues =>
    rw [hissues, List.map_map]
    rfl
  case ordered =>
    rw [List.map_map]
    exact hordered.map _ fun _ _ => id
  case pairs =>
    intro first second
    have hfirst : first ∈ group.databases := List.get_mem _ i
    have hsecond : second ∈ group.databases := List.get_mem _ j
    constructor
    · rintro ⟨value, hfirstValue, hsecondValue⟩
      rw [countP_lists_and_lists hnames hfirst hsecond hfirstValue hsecondValue]
      refine List.count_eq_one_of_mem hnodup ((hplaces _).mpr ?_)
      have hne : first ≠ second :=
        fun heq => (List.pairwise_iff_get.mp hdifferent i j hij) (congrArg Database.name heq)
      exact two_le_length_sharers hne (mem_sharers.mpr ⟨hfirst, hfirstValue⟩)
        (mem_sharers.mpr ⟨hsecond, hsecondValue⟩)
    · intro hone
      have hsome := Nat.lt_of_lt_of_eq Nat.zero_lt_one hone.symm
      obtain ⟨found, hfound, hboth⟩ := List.countP_pos_iff.mp hsome
      obtain ⟨place, -, rfl⟩ := List.mem_map.mp hfound
      rw [Bool.and_eq_true, lists_sharedAt_iff hnames hfirst,
        lists_sharedAt_iff hnames hsecond] at hboth
      exact ⟨place.2, hboth.1.2, hboth.2.2⟩
  case found =>
    obtain ⟨place, hmem, rfl⟩ := List.mem_map.mp hfound
    obtain rfl : place = (key, value) := hplace
    have hlength := (hplaces _).mp hmem
    refine ⟨rfl, ?_, exists_firstLocation_sharers hlength⟩
    rwa [sharedAt, List.length_map]
  case once => exact countP_lists_le_one hnames hnodup hdb
  case value =>
    obtain ⟨place, -, rfl⟩ := List.mem_map.mp hfound
    exact ((lists_sharedAt_iff hnames hdb).mp hlists).2

/-- German and English share a value that French does not have. -/
theorem identical_of_german_and_english :
    let german : Database :=
      .ofAssignments "de.lproj" "de" "de.lproj/L.strings" [⟨"ok", 4, "OK"⟩]
    let french : Database :=
      .ofAssignments "fr.lproj" "fr" "fr.lproj/L.strings" [⟨"ok", 1, "Valider"⟩]
    let english : Database :=
      .ofAssignments "en.lproj" "en" "en.lproj/L.strings" [⟨"ok", 2, "OK"⟩]
    let group : LocaleGroup := ⟨"L.strings", [german, french, english]⟩
    (group.databases.map (·.name)).Nodup ∧
    ∃ shared : List SharedValue,
      identical group = shared.map SharedValue.issue ∧
      shared.countP (fun found =>
        found.lists "ok" german.name && found.lists "ok" english.name) = 1 ∧
      shared.countP (fun found =>
        found.lists "ok" german.name && found.lists "ok" french.name) ≠ 1 := by
  intro german french english group
  have hnames : (group.databases.map (·.name)).Nodup := by decide
  obtain ⟨shared, hissues, -, hpairs, -⟩ := identical_partitions hnames
  refine ⟨hnames, shared, hissues, ?_, fun hone => ?_⟩
  · exact (hpairs "ok" ⟨0, by decide⟩ ⟨2, by decide⟩ (by decide)).mp
      ⟨"OK", by decide +kernel, by decide +kernel⟩
  · obtain ⟨value, hgerman, hfrench⟩ :=
      (hpairs "ok" ⟨0, by decide⟩ ⟨1, by decide⟩ (by decide)).mpr hone
    have heq : german.value? "ok" = french.value? "ok" := hgerman.trans hfrench.symm
    exact absurd heq (by decide +kernel)

end Check
end StringsAudit
