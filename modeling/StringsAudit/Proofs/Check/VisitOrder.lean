import Mathlib.Data.String.Basic
import StringsAudit.Proofs.Check.Listing

/-!
# The order in which entries are visited does not show

Two checks within a group go through the entries of each database in an order that nothing fixes,
and sort what they have found by file, line, column and key. Where the databases have different
files, no two findings agree in all four: those about one database have different keys, also where
the keys stand in one line, or have no entry and are shown with the file as a whole. So sorting
forgets the order of the visits altogether.

## Main definitions

* `Definition.Precedes` : the order by file, line, column and key.
* `Check.placesFound` : pairs of a database and a key, in the order of the visits.

## Main results

* `areListed_sortBy_placesFound` : what is found is listed by file, line, column and key.
* `sortBy_placesFound_eq_of_perm` : sorting forgets the order of the visits.
* `findings_of_any_visit_order` : whatever the order of the visits, the findings are the same.
-/

namespace StringsAudit

/-- The order of definitions by file, line, column and key. -/
def Definition.Precedes (first second : Definition) : Prop :=
  Prod.Lex (· < ·) (Prod.Lex (· < ·) (Prod.Lex (· < ·) (· < ·)))
    (first.location.file, first.location.line, first.location.col, first.key)
    (second.location.file, second.location.line, second.location.col, second.key)

namespace Check

/-! ### Comparing definitions -/

instance : Std.TransCmp definitionCmp :=
  have : Std.TransCmp fun a b : Definition => Location.cmp a.location b.location :=
    transCmp_on Location.cmp Definition.location
  inferInstanceAs (Std.TransCmp (compareLex _ _))

theorem definitionCmp_eq_lt_iff
    {first second : Definition} :
    definitionCmp first second = .lt ↔ first.Precedes second := by
  simp only [definitionCmp, Location.cmp, compareLex, compareOn, Ordering.then_eq_lt,
    Ordering.then_eq_eq, compare_lt_iff_lt, Std.LawfulEqCmp.compare_eq_iff_eq,
    Definition.Precedes, Prod.lex_def]
  tauto

/-- Definitions that compare equal have the same place and the same key. -/
theorem eq_of_definitionCmp
    {first second : Definition}
    (h : definitionCmp first second = .eq) :
    first.location = second.location ∧ first.key = second.key := by
  simp only [definitionCmp, compareLex, compareOn, Ordering.then_eq_eq,
    Std.LawfulEqCmp.compare_eq_iff_eq] at h
  exact h

/-- Only the place and the key of a definition count. -/
theorem definitionCmp_congr
    {first first' second second' : Definition}
    (hfirst : first.location = first'.location ∧ first.key = first'.key)
    (hsecond : second.location = second'.location ∧ second.key = second'.key) :
    definitionCmp first second = definitionCmp first' second' := by
  simp only [definitionCmp, compareLex, compareOn, hfirst, hsecond]

/-! ### Pairs of a database and a key -/

section Places

variable {group : LocaleGroup} {keysFound : Database → List String}

/-- The definition of a key in a database of a group. -/
def definitionAt (group : LocaleGroup) (place : Fin group.databases.length × String) :
    Definition :=
  (group.databases.get place.1).definitionOf place.2

/-- Pairs of a database and a key are ordered like the definitions there. -/
def placeCmp (group : LocaleGroup) (first second : Fin group.databases.length × String) :
    Ordering :=
  definitionCmp (definitionAt group first) (definitionAt group second)

/-- Pairs of a database and a key that is found in it, in the order of the visits. -/
def placesFound (group : LocaleGroup) (keysFound : Database → List String) :
    List (Fin group.databases.length × String) :=
  (List.finRange group.databases.length).flatMap fun index =>
    (keysFound (group.databases.get index)).map (index, ·)

instance : Std.TransCmp (placeCmp group) :=
  transCmp_on definitionCmp (definitionAt group)

/-- Where databases have different files, a definition tells which database and key it is of. -/
theorem eq_of_placeCmp
    (hfiles : (group.databases.map (·.file)).Nodup)
    {first second : Fin group.databases.length × String}
    (h : placeCmp group first second = .eq) :
    first = second := by
  obtain ⟨hlocation, hkey⟩ := eq_of_definitionCmp h
  have hfile : (group.databases.get first.1).file = (group.databases.get second.1).file := by
    simpa only [definitionAt, Database.definitionOf, Database.file_locationOf]
      using congrArg Location.file hlocation
  have hdb := List.inj_on_of_nodup_map hfiles (List.get_mem _ first.1) (List.get_mem _ second.1)
    hfile
  exact Prod.ext ((List.Nodup.of_map _ hfiles).get_inj_iff.mp hdb) hkey

theorem mem_placesFound
    {place : Fin group.databases.length × String} :
    place ∈ placesFound group keysFound ↔ place.2 ∈ keysFound (group.databases.get place.1) := by
  simp only [placesFound, List.mem_flatMap, List.mem_finRange, true_and, List.mem_map]
  constructor
  · rintro ⟨_, key, hkey, rfl⟩
    exact hkey
  · intro hkey
    exact ⟨place.1, place.2, hkey, rfl⟩

theorem nodup_placesFound
    (hnodup : ∀ db ∈ group.databases, (keysFound db).Nodup) :
    (placesFound group keysFound).Nodup := by
  have hlex := pairwise_lex_flatMap (List.pairwise_lt_finRange group.databases.length)
    fun index _ => hnodup (group.databases.get index) (List.get_mem _ index)
  refine hlex.imp fun {first second} hlt heq => ?_
  rcases Prod.lex_def.mp hlt with hindex | ⟨-, hkey⟩
  · exact absurd (congrArg Prod.fst heq) (Fin.ne_of_lt hindex)
  · exact hkey (congrArg Prod.snd heq)

/-- What is found is listed by file, line, column and key. -/
theorem areListed_sortBy_placesFound
    (hfiles : (group.databases.map (·.file)).Nodup)
    (hnodup : ∀ db ∈ group.databases, (keysFound db).Nodup)
    {IsFound : Database → String → Prop}
    (hfound : ∀ db ∈ group.databases, ∀ key, key ∈ keysFound db ↔ IsFound db key)
    (issueAt : Fin group.databases.length × String → Issue) :
    AreListed (fun first second => (definitionAt group first).Precedes (definitionAt group second))
      (fun place => IsFound (group.databases.get place.1) place.2) issueAt
      ((sortBy (placeCmp group) (placesFound group keysFound)).map issueAt) := by
  have hdifferent : (placesFound group keysFound).Pairwise fun a b => placeCmp group a b ≠ .eq :=
    (nodup_placesFound hnodup).imp fun hne heq => hne (eq_of_placeCmp hfiles heq)
  refine ⟨_, (pairwise_lt_sortBy (placeCmp group) hdifferent).imp definitionCmp_eq_lt_iff.mp,
    fun place => ?_, rfl⟩
  rw [mem_sortBy, mem_placesFound, hfound _ (List.get_mem _ place.1)]

/-- Findings that are shown with definitions are sorted like the places where they are made. -/
theorem sortBy_flatMap_eq_map
    {β : Type}
    {definition : β → Definition}
    {finding : Database → String → β}
    (hdefinition : ∀ db key, (definition (finding db key)).location = db.locationOf key ∧
      (definition (finding db key)).key = key) :
    sortBy (fun a b => definitionCmp (definition a) (definition b))
        (group.databases.flatMap fun db => (keysFound db).map (finding db)) =
      (sortBy (placeCmp group) (placesFound group keysFound)).map fun place =>
        finding (group.databases.get place.1) place.2 := by
  have hplaces : (group.databases.flatMap fun db => (keysFound db).map (finding db)) =
      (placesFound group keysFound).map fun place =>
        finding (group.databases.get place.1) place.2 := by
    conv_lhs => rw [← List.map_get_finRange group.databases, List.flatMap_map]
    simp only [placesFound, List.map_flatMap, List.map_map, Function.comp_def]
  rw [hplaces]
  refine (map_sortBy (fun first second => ?_) _).symm
  exact definitionCmp_congr (And.imp Eq.symm Eq.symm (hdefinition _ _))
    (And.imp Eq.symm Eq.symm (hdefinition _ _))

/-- Where databases have different files, the order of the visits is forgotten. -/
theorem sortBy_placesFound_eq_of_perm
    (hfiles : (group.databases.map (·.file)).Nodup)
    {other : Database → List String}
    (hperm : ∀ db ∈ group.databases, (keysFound db).Perm (other db)) :
    sortBy (placeCmp group) (placesFound group keysFound) =
      sortBy (placeCmp group) (placesFound group other) := by
  have hplaces : (placesFound group keysFound).Perm (placesFound group other) :=
    List.Perm.flatMap_left _ fun index _ => (hperm _ (List.get_mem _ index)).map _
  exact sortBy_eq_of_perm (placeCmp group) hplaces fun _ _ _ _ heq => eq_of_placeCmp hfiles heq

end Places

/-! ### The keys that the checks find -/

section Keys

variable {α : Type} {db : Database}

/-- The keys that are counted more than once. -/
def repeatedKeys (counted : List (String × Nat)) : List String :=
  (counted.filter fun pair => 1 < pair.2).map (·.1)

/-- The keys whose value is the key itself. -/
def keysAsValues (listed : List (String × Entry)) : List String :=
  (listed.filter fun pair => pair.1 == pair.2.value).map (·.1)

/-- In whatever order a dictionary is gone through, no key comes twice. -/
theorem nodup_map_fst_filter
    {dict : Dict α}
    {visited : List (String × α)}
    (hvisited : visited.Perm dict.pairs)
    (keep : String × α → Bool) :
    ((visited.filter keep).map (·.1)).Nodup := by
  have hkeys : dict.keys.Nodup := (Dict.pairwise_keys dict).imp Std.ne_of_lt
  have hnodup : (visited.map (·.1)).Nodup := (hvisited.map _).nodup_iff.mpr hkeys
  exact hnodup.sublist (List.filter_sublist.map _)

theorem count_eq_of_mem
    {counted : List (String × Nat)}
    (hcounted : counted.Perm db.counts.pairs)
    {pair : String × Nat}
    (hpair : pair ∈ counted) :
    db.count pair.1 = pair.2 := by
  rw [Database.count, Dict.find?_eq_some_iff.mpr (hcounted.mem_iff.mp hpair), Option.getD_some]

theorem mem_repeatedKeys_iff
    {counted : List (String × Nat)}
    (hcounted : counted.Perm db.counts.pairs)
    (key : String) :
    key ∈ repeatedKeys counted ↔ 1 < db.count key := by
  simp only [repeatedKeys, List.mem_map, List.mem_filter, decide_eq_true_eq]
  constructor
  · rintro ⟨pair, ⟨hpair, hmany⟩, rfl⟩
    rwa [count_eq_of_mem hcounted hpair]
  · intro hmany
    -- a key without count is counted zero times
    cases hcount : db.counts.find? key with
    | none => rw [Database.count, hcount, Option.getD_none] at hmany; omega
    | some count =>
        have hpair := hcounted.mem_iff.mpr (Dict.find?_eq_some_iff.mp hcount)
        exact ⟨(key, count), ⟨hpair, count_eq_of_mem hcounted hpair ▸ hmany⟩, rfl⟩

theorem mem_keysAsValues_iff
    {listed : List (String × Entry)}
    (hlisted : listed.Perm db.entries.pairs)
    (key : String) :
    key ∈ keysAsValues listed ↔ db.value? key = some key := by
  simp only [keysAsValues, List.mem_map, List.mem_filter, beq_iff_eq, hlisted.mem_iff,
    Database.value?, Database.find?, Option.map_eq_some_iff, Dict.find?_eq_some_iff]
  constructor
  · rintro ⟨pair, ⟨hpair, heq⟩, rfl⟩
    exact ⟨pair.2, hpair, heq.symm⟩
  · rintro ⟨entry, hpair, heq⟩
    exact ⟨(key, entry), ⟨hpair, heq.symm⟩, rfl⟩

end Keys

/-! ### The two checks -/

section AnyOrder

variable {group : LocaleGroup}

theorem duplicateKeys_eq_map
    {counted : Database → List (String × Nat)}
    (hcounted : ∀ db ∈ group.databases, (counted db).Perm db.counts.pairs) :
    duplicateKeys counted group =
      (sortBy (placeCmp group) (placesFound group fun db => repeatedKeys (counted db))).map
        fun place =>
          ⟨definitionAt group place, (group.databases.get place.1).name,
            (group.databases.get place.1).count place.2⟩ := by
  have hkeys : (group.databases.flatMap fun db =>
        ((counted db).filter fun pair => 1 < pair.2).map fun pair =>
          (⟨db.definitionOf pair.1, db.name, pair.2⟩ : CountedKey)) =
      group.databases.flatMap fun db =>
        (repeatedKeys (counted db)).map fun key =>
          (⟨db.definitionOf key, db.name, db.count key⟩ : CountedKey) := by
    refine List.flatMap_congr fun db hdb => ?_
    rw [repeatedKeys, List.map_map]
    refine List.map_congr_left fun pair hpair => ?_
    rw [Function.comp_apply, count_eq_of_mem (hcounted db hdb) (List.mem_of_mem_filter hpair)]
  rw [duplicateKeys, hkeys]
  exact sortBy_flatMap_eq_map fun db key => ⟨rfl, rfl⟩

theorem untranslated_eq_map
    (listed : Database → List (String × Entry)) :
    untranslated listed group =
      (sortBy (placeCmp group) (placesFound group fun db => keysAsValues (listed db))).map
        fun place =>
          (⟨(group.databases.get place.1).locationOf place.2, place.2, place.2⟩,
            (group.databases.get place.1).name) := by
  have hkeys : (group.databases.flatMap fun db =>
        ((listed db).filter fun pair => pair.1 == pair.2.value).map fun pair =>
          ((⟨db.locationOf pair.1, pair.1, pair.2.value⟩ : Definition), db.name)) =
      group.databases.flatMap fun db =>
        (keysAsValues (listed db)).map fun key =>
          ((⟨db.locationOf key, key, key⟩ : Definition), db.name) := by
    refine List.flatMap_congr fun db _ => ?_
    rw [keysAsValues, List.map_map]
    refine List.map_congr_left fun pair hpair => ?_
    rw [Function.comp_apply, ← beq_iff_eq.mp (List.mem_filter.mp hpair).2]
  rw [untranslated, hkeys]
  exact sortBy_flatMap_eq_map fun db key => ⟨rfl, rfl⟩

/--
Where the databases of a group have different files, the keys that are assigned more than once and
the values that are their key are found alike in whatever order the counts and the entries of each
database are gone through. There is one finding for each database and each key that is counted more
than once there, and one for each database and each key that has itself as its value there, in
strictly increasing order of file, line, column and key.
-/
theorem findings_of_any_visit_order
    (hfiles : (group.databases.map (·.file)).Nodup)
    {counted : Database → List (String × Nat)}
    (hcounted : ∀ db ∈ group.databases, (counted db).Perm db.counts.pairs)
    {listed : Database → List (String × Entry)}
    (hlisted : ∀ db ∈ group.databases, (listed db).Perm db.entries.pairs) :
    let database := fun place : Fin group.databases.length × String =>
      group.databases.get place.1
    let definition := fun place => (database place).definitionOf place.2
    let Before := fun first second => (definition first).Precedes (definition second)
    let duplicatesFound := (duplicateKeys counted group).map fun found =>
      Issue.duplicateKey found.definition found.database found.count
    let untranslatedFound := (untranslated listed group).map fun found =>
      Issue.valueEqualsKey found.1 found.2
    duplicatesFound = duplicates group ∧
    untranslatedFound = valueEqualsKey group ∧
    AreListed Before (fun place => 1 < (database place).count place.2)
      (fun place =>
        .duplicateKey (definition place) (database place).name ((database place).count place.2))
      duplicatesFound ∧
    AreListed Before (fun place => (database place).value? place.2 = some place.2)
      (fun place =>
        .valueEqualsKey ⟨(database place).locationOf place.2, place.2, place.2⟩
          (database place).name)
      untranslatedFound := by
  intro database definition Before duplicatesFound untranslatedFound
  refine ⟨?duplicates, ?untranslated, ?duplicatesListed, ?untranslatedListed⟩
  case duplicates =>
    have hperm : ∀ db ∈ group.databases,
        (repeatedKeys (counted db)).Perm (repeatedKeys db.counts.pairs) :=
      fun db hdb => ((hcounted db hdb).filter _).map _
    rw [duplicates, duplicateKeys_eq_map fun _ _ => .refl _,
      ← sortBy_placesFound_eq_of_perm hfiles hperm, ← duplicateKeys_eq_map hcounted]
  case untranslated =>
    have hperm : ∀ db ∈ group.databases,
        (keysAsValues (listed db)).Perm (keysAsValues db.entries.pairs) :=
      fun db hdb => ((hlisted db hdb).filter _).map _
    rw [valueEqualsKey, untranslated_eq_map, ← sortBy_placesFound_eq_of_perm hfiles hperm,
      ← untranslated_eq_map]
  case duplicatesListed =>
    have heq : duplicatesFound = _ := congrArg (List.map _) (duplicateKeys_eq_map hcounted)
    rw [heq, List.map_map]
    exact areListed_sortBy_placesFound hfiles
      (fun db hdb => nodup_map_fst_filter (hcounted db hdb) _)
      (fun db hdb => mem_repeatedKeys_iff (hcounted db hdb)) _
  case untranslatedListed =>
    have heq : untranslatedFound = _ := congrArg (List.map _) (untranslated_eq_map listed)
    rw [heq, List.map_map]
    exact areListed_sortBy_placesFound hfiles
      (fun db hdb => nodup_map_fst_filter (hlisted db hdb) _)
      (fun db hdb => mem_keysAsValues_iff (hlisted db hdb)) _

end AnyOrder

/--
Two keys that are assigned in one line and one that is counted without having an entry, gone through
forwards and backwards.
-/
theorem findings_of_reversed_visits :
    let english : Database :=
      .ofAssignments "en.lproj" "en" "en.lproj/L.strings"
        [⟨"b", 1, "B"⟩, ⟨"b", 2, "b"⟩, ⟨"a", 2, "A"⟩, ⟨"a", 2, "a"⟩]
    let german : Database :=
      .ofAssignments "de.lproj" "de" "de.lproj/L.strings" [⟨"b", 7, "b"⟩]
    let group : LocaleGroup :=
      ⟨"L.strings", [{ english with counts := english.counts.insert "z" 2 }, german]⟩
    let duplicatesFound := (duplicateKeys (·.counts.pairs.reverse) group).map fun found =>
      Issue.duplicateKey found.definition found.database found.count
    let untranslatedFound := (untranslated (·.entries.pairs.reverse) group).map fun found =>
      Issue.valueEqualsKey found.1 found.2
    (group.databases.map (·.file)).Nodup ∧
    (∀ db ∈ group.databases, db.counts.pairs.reverse.Perm db.counts.pairs) ∧
    (∀ db ∈ group.databases, db.entries.pairs.reverse.Perm db.entries.pairs) ∧
    duplicatesFound = duplicates group ∧
    untranslatedFound = valueEqualsKey group ∧
    .duplicateKey ⟨.ofFile "en.lproj/L.strings", "z", ""⟩ "en.lproj" 2 ∈ duplicatesFound ∧
    .valueEqualsKey ⟨.ofLine "de.lproj/L.strings" 7, "b", "b"⟩ "de.lproj" ∈ untranslatedFound := by
  intro english german group duplicatesFound untranslatedFound
  have hfiles : (group.databases.map (·.file)).Nodup := by decide
  obtain ⟨hduplicates, huntranslated, hduplicatesListed, huntranslatedListed⟩ :=
    findings_of_any_visit_order hfiles (fun db _ => db.counts.pairs.reverse_perm)
      fun db _ => db.entries.pairs.reverse_perm
  refine ⟨hfiles, fun db _ => db.counts.pairs.reverse_perm,
    fun db _ => db.entries.pairs.reverse_perm, hduplicates, huntranslated, ?_, ?_⟩
  · exact hduplicatesListed.issueAt_mem (⟨0, by decide⟩, "z") (by decide +kernel)
  · exact huntranslatedListed.issueAt_mem (⟨1, by decide⟩, "b") (by decide +kernel)

end Check
end StringsAudit
