import Mathlib.Data.String.Basic
import StringsAudit.Proofs.LocaleGroup

/-!
# The primary locale comes first

The databases of a group come in two parts, those of the primary locale and the others, and each
part is in the order of the names. Databases of one name that are in one part keep the order in
which they came. So the first database, which the others are compared with, is one of the primary
locale if there is any, and where all names differ it does not matter how the databases came.

## Main definitions

* `LocaleGroup.IsSortedByName` : databases that were put in the order of their names.

## Main results

* `isLE_databaseCmp_iff` : when a database may stand in front of another.
* `exists_baseline` : the first database of a group may stand in front of all.
* `withPrimary_canonical` : the order of the databases of a group.
-/

namespace StringsAudit
namespace LocaleGroup

/-- Databases in the order of their names, where those of one name are in the order of a list. -/
structure IsSortedByName (sorted list : List Database) : Prop where
  perm : sorted.Perm list
  ordered : sorted.Pairwise fun a b => a.name ≤ b.name
  ties : ∀ name, sorted.filter (·.name == name) = list.filter (·.name == name)

section Order

variable {primary : String} {first second : Database}

/-- A database may stand in front of another if it alone is primary, or else by its name. -/
theorem isLE_databaseCmp_iff :
    (databaseCmp primary first second).isLE ↔
      (first.locale = primary ∧ second.locale ≠ primary) ∨
      ((first.locale = primary ↔ second.locale = primary) ∧ first.name ≤ second.name) := by
  have hname : (compare first.name second.name).isLE ↔ first.name ≤ second.name :=
    Std.LawfulBCmp.isLE_iff_le
  have hprimary {db : Database} (h : db.locale = primary) : (db.locale != primary) = false := by
    simpa using h
  have hother {db : Database} (h : db.locale ≠ primary) : (db.locale != primary) = true := by
    simpa using h
  have hself (status : Bool) : compare status status = .eq := Std.ReflCmp.compare_self
  rw [databaseCmp, compareLex, compareOn, compareOn]
  by_cases hfirst : first.locale = primary <;> by_cases hsecond : second.locale = primary
  · rw [hprimary hfirst, hprimary hsecond, hself, Ordering.eq_then, hname]
    tauto
  · rw [hprimary hfirst, hother hsecond]
    exact iff_of_true rfl (.inl ⟨hfirst, hsecond⟩)
  · rw [hother hfirst, hprimary hsecond]
    refine iff_of_false Bool.false_ne_true ?_
    tauto
  · rw [hother hfirst, hother hsecond, hself, Ordering.eq_then, hname]
    tauto

end Order

section WithPrimary

variable (name primary : String) (databases : List Database)

/-- The databases of the primary locale, and likewise the others, are sorted by name. -/
theorem isSortedByName_filter
    {kind : Database → Bool}
    (hkind : ∀ a b, kind a = true → kind b = true → (a.locale = primary ↔ b.locale = primary)) :
    IsSortedByName ((sortBy (databaseCmp primary) databases).filter kind)
      (databases.filter kind) := by
  have hname {a b : Database} (ha : kind a = true) (hb : kind b = true) :
      (databaseCmp primary a b).isLE ↔ a.name ≤ b.name := by
    rw [isLE_databaseCmp_iff]
    have hsame := hkind a b ha hb
    tauto
  refine ⟨(perm_sortBy _ _).filter kind, ?_, fun own => ?_⟩
  · refine List.pairwise_filter.mpr ((pairwise_sortBy (databaseCmp primary) databases).imp ?_)
    intro a b hle ha hb
    exact (hname ha hb).mp hle
  · rw [filter_sortBy, filter_sortBy]
    refine sortBy_eq_self (List.pairwise_of_forall_mem_list fun a ha b hb => ?_)
    simp only [List.mem_filter, beq_iff_eq] at ha hb
    exact (hname ha.1.2 hb.1.2).mpr (le_of_eq (ha.2.trans hb.2.symm))

/-- The databases of the primary locale stand in front of the others. -/
theorem databases_withPrimary :
    (withPrimary name databases primary).databases =
      (sortBy (databaseCmp primary) databases).filter (·.locale == primary) ++
        (sortBy (databaseCmp primary) databases).filter (·.locale != primary) := by
  refine (filter_append_filter_not ?_).symm
  refine (pairwise_sortBy (databaseCmp primary) databases).imp fun {a b} hle hb => ?_
  rw [beq_iff_eq] at hb ⊢
  rcases isLE_databaseCmp_iff.mp hle with ⟨-, hother⟩ | ⟨hsame, -⟩
  · exact absurd hb hother
  · exact hsame.mpr hb

/-- The first database of a group may stand in front of all. -/
theorem exists_baseline
    (hsome : databases ≠ []) :
    ∃ baseline ∈ databases,
      (withPrimary name databases primary).baseline? = some baseline ∧
      ∀ db ∈ databases, (databaseCmp primary baseline db).isLE := by
  have hordered := pairwise_sortBy (databaseCmp primary) databases
  have hmem (db : Database) : db ∈ sortBy (databaseCmp primary) databases ↔ db ∈ databases :=
    mem_sortBy
  cases hsorted : sortBy (databaseCmp primary) databases with
  | nil =>
      have hlength := length_sortBy (databaseCmp primary) databases
      rw [hsorted] at hlength
      exact absurd (List.eq_nil_of_length_eq_zero hlength.symm) hsome
  | cons baseline rest =>
      rw [hsorted] at hordered hmem
      refine ⟨baseline, (hmem baseline).mp List.mem_cons_self, ?_, fun db hdb => ?_⟩
      · rw [baseline?, withPrimary, hsorted, List.head?_cons]
      · exact isLE_head_of_mem (databaseCmp primary) hordered ((hmem db).mpr hdb)

end WithPrimary

/--
A group with a primary locale holds the databases given, those of the primary locale first. Both
parts are in the order of the names, and databases of one name in one part keep their order. So the
baseline is of the primary locale if any database is, and else no database has a smaller name. Where
all names differ, the order in which the databases came does not matter.
-/
theorem withPrimary_canonical
    (name primary : String)
    (databases : List Database) :
    let group := withPrimary name databases primary
    group.databases.Perm databases ∧
    (∃ own others, group.databases = own ++ others ∧
      IsSortedByName own (databases.filter (·.locale == primary)) ∧
      IsSortedByName others (databases.filter (·.locale != primary))) ∧
    ((∃ db ∈ databases, db.locale = primary) →
      ∃ baseline ∈ databases, group.baseline? = some baseline ∧ baseline.locale = primary) ∧
    ((∀ db ∈ databases, db.locale ≠ primary) → databases ≠ [] →
      ∃ baseline ∈ databases, group.baseline? = some baseline ∧
        ∀ db ∈ databases, baseline.name ≤ db.name) ∧
    ((databases.map (·.name)).Nodup →
      ∀ reordered, reordered.Perm databases → withPrimary name reordered primary = group) := by
  intro group
  refine ⟨perm_withPrimary name databases primary, ?parts, ?primary, ?none, ?reordered⟩
  case parts =>
    refine ⟨_, _, databases_withPrimary name primary databases,
      isSortedByName_filter primary databases fun a b ha hb => ?_,
      isSortedByName_filter primary databases fun a b ha hb => ?_⟩
    · exact iff_of_true (beq_iff_eq.mp ha) (beq_iff_eq.mp hb)
    · exact iff_of_false (bne_iff_ne.mp ha) (bne_iff_ne.mp hb)
  case primary =>
    rintro ⟨db, hdb, hlocale⟩
    obtain ⟨baseline, hmem, hbaseline, hfirst⟩ :=
      exists_baseline name primary databases (List.ne_nil_of_mem hdb)
    refine ⟨baseline, hmem, hbaseline, ?_⟩
    rcases isLE_databaseCmp_iff.mp (hfirst db hdb) with ⟨hown, -⟩ | ⟨hsame, -⟩
    · exact hown
    · exact hsame.mpr hlocale
  case none =>
    intro hnone hsome
    obtain ⟨baseline, hmem, hbaseline, hfirst⟩ := exists_baseline name primary databases hsome
    refine ⟨baseline, hmem, hbaseline, fun db hdb => ?_⟩
    rcases isLE_databaseCmp_iff.mp (hfirst db hdb) with ⟨hown, -⟩ | ⟨-, hle⟩
    · exact absurd hown (hnone baseline hmem)
    · exact hle
  case reordered =>
    intro hnames reordered hperm
    exact (withPrimary_eq_of_perm name primary hperm.symm hnames).symm

/-- English is the baseline whatever order the languages come in, and German if there is none. -/
theorem withPrimary_of_three_languages :
    let english : Database := .ofAssignments "en.lproj" "en" "en.lproj/L.strings" [⟨"ok", 1, "OK"⟩]
    let french : Database := .ofAssignments "fr.lproj" "fr" "fr.lproj/L.strings" [⟨"ok", 2, "OK"⟩]
    let german : Database := .ofAssignments "de.lproj" "de" "de.lproj/L.strings" [⟨"ok", 3, "Ok"⟩]
    let group := withPrimary "L.strings" [french, german, english] "en"
    let foreign := withPrimary "L.strings" [french, german] "en"
    (∃ db ∈ [french, german, english], db.locale = "en") ∧
    ([french, german, english].map (·.name)).Nodup ∧
    [english, german, french].Perm [french, german, english] ∧
    (∀ db ∈ [french, german], db.locale ≠ "en") ∧
    group.baseline? = some english ∧
    foreign.baseline? = some german ∧
    withPrimary "L.strings" [english, german, french] "en" = group := by
  intro english french german group foreign
  obtain ⟨-, -, hprimary, -, hreordered⟩ :=
    withPrimary_canonical "L.strings" "en" [french, german, english]
  obtain ⟨-, -, -, hnone, -⟩ := withPrimary_canonical "L.strings" "en" [french, german]
  have hsome : ∃ db ∈ [french, german, english], db.locale = "en" := ⟨english, by simp, rfl⟩
  have hnames : ([french, german, english].map (·.name)).Nodup := by decide
  have hperm : [english, german, french].Perm [french, german, english] :=
    List.reverse_perm [french, german, english]
  have hforeign : ∀ db ∈ [french, german], db.locale ≠ "en" := by decide
  refine ⟨hsome, hnames, hperm, hforeign, ?_, ?_, hreordered hnames _ hperm⟩
  · obtain ⟨baseline, hmem, hbaseline, hlocale⟩ := hprimary hsome
    simp only [List.mem_cons, List.not_mem_nil, or_false] at hmem
    rcases hmem with rfl | rfl | rfl
    · exact absurd hlocale (by decide)
    · exact absurd hlocale (by decide)
    · exact hbaseline
  · obtain ⟨baseline, hmem, hbaseline, hleast⟩ := hnone hforeign (List.cons_ne_nil _ _)
    simp only [List.mem_cons, List.not_mem_nil, or_false] at hmem
    rcases hmem with rfl | rfl
    · exact absurd (hleast german (by simp)) (by decide)
    · exact hbaseline

end LocaleGroup
end StringsAudit
