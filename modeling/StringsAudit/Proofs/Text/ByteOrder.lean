import Mathlib.Data.String.Basic

/-!
# The order of texts by their bytes

Texts are compared character by character. In UTF-8 the bytes of a greater character are greater at
the first place where they differ from those of another, and the bytes of no character begin those
of another. So texts are ordered as their bytes are.

## Main definitions

* `Text.utf8` : the bytes of a text.

## Main results

* `Text.compareLex_utf8EncodeChar` : the bytes of a greater character are greater.
* `Text.compareLex_utf8` : texts are ordered as their bytes are.
-/

namespace StringsAudit

/-- What lists have in common at their beginning does not matter for their order. -/
theorem compareLex_append_left
    {α : Type}
    {cmp : α → α → Ordering}
    [Std.ReflCmp cmp]
    (before first second : List α) :
    List.compareLex cmp (before ++ first) (before ++ second) =
      List.compareLex cmp first second := by
  induction before with
  | nil => rfl
  | cons head rest ih =>
      have hself : cmp head head = .eq := Std.ReflCmp.compare_self
      rw [List.cons_append, List.cons_append, List.compareLex_cons_cons, hself]
      exact ih

namespace Text

/-- The bytes of a text. -/
def utf8 (text : String) : List UInt8 :=
  text.toByteArray.data.toList

theorem utf8_eq_flatMap
    (text : String) :
    utf8 text = text.toList.flatMap String.utf8EncodeChar := by
  rw [utf8, ← String.utf8Encode_toList, List.utf8Encode]
  simp

/-! ### The bytes of a character -/

theorem compareLex_cons_eq_lt_iff
    {first second : List UInt8}
    {a b : UInt8} :
    List.compareLex compare (a :: first) (b :: second) = .lt ↔
      a.toNat < b.toNat ∨
        (a.toNat = b.toNat ∧ List.compareLex compare first second = .lt) := by
  rw [List.compareLex_cons_cons, Ordering.then_eq_lt, Std.compare_eq_lt,
    Std.LawfulEqCmp.compare_eq_iff_eq, UInt8.lt_iff_toNat_lt, UInt8.toNat_inj]

theorem toNat_byte
    {n : Nat}
    (h : n < 256) :
    (UInt8.ofNat n).toNat = n :=
  UInt8.toNat_ofNat_of_lt h

/-- The lower six bits of numbers only matter if the other bits are the same. -/
theorem lt_iff_div_or_mod
    {v w : Nat} :
    v < w ↔ v / 64 < w / 64 ∨ (v / 64 = w / 64 ∧ v % 64 < w % 64) := by
  omega

/-- Numbers are compared by what is above three groups of six bits, then group by group. -/
theorem groups_of_lt
    {v w : Nat}
    (h : v < w) :
    v / 262144 < w / 262144 ∨
      (v / 262144 = w / 262144 ∧ (v / 4096 % 64 < w / 4096 % 64 ∨
        (v / 4096 % 64 = w / 4096 % 64 ∧ (v / 64 % 64 < w / 64 % 64 ∨
          (v / 64 % 64 = w / 64 % 64 ∧ v % 64 < w % 64))))) := by
  rcases lt_iff_div_or_mod.mp h with h6 | h6
  · rcases lt_iff_div_or_mod.mp h6 with h12 | h12
    · have h18 := lt_iff_div_or_mod.mp h12
      simp only [Nat.div_div_eq_div_mul] at h18
      omega
    · simp only [Nat.div_div_eq_div_mul] at h12
      omega
  · omega

/-- The bytes of a greater character are greater, whatever follows them. -/
theorem compareLex_utf8EncodeChar
    {c d : Char}
    (h : c < d)
    (first second : List UInt8) :
    List.compareLex compare (String.utf8EncodeChar c ++ first)
      (String.utf8EncodeChar d ++ second) = .lt := by
  have hlt : c.val.toNat < d.val.toNat := h
  have hmax : d.val.toNat < 0x110000 := by
    rcases d.valid with hlow | ⟨-, hhigh⟩
    · exact hlow.trans (by decide)
    · exact hhigh
  rw [String.utf8EncodeChar, String.utf8EncodeChar]
  generalize c.val.toNat = v at hlt
  generalize d.val.toNat = w at hlt hmax
  have hgroups := groups_of_lt hlt
  have hlead : v / 262144 % 8 = v / 262144 ∧ w / 262144 % 8 = w / 262144 := by
    rw [Nat.mod_eq_of_lt (by omega), Nat.mod_eq_of_lt (by omega)]
    exact ⟨rfl, rfl⟩
  -- one case for each number of bytes on either side
  split_ifs <;>
    simp (disch := omega) only [List.cons_append, List.nil_append, compareLex_cons_eq_lt_iff,
      toNat_byte, hlead] <;>
    omega

/-! ### The bytes of a text -/

theorem compareLex_utf8_of_lt
    {a b : String}
    (h : a < b) :
    List.compareLex compare (utf8 a) (utf8 b) = .lt := by
  have hlist : a.toList < b.toList := h
  rw [utf8_eq_flatMap, utf8_eq_flatMap]
  generalize a.toList = first at hlist
  generalize b.toList = second at hlist
  induction hlist with
  | @nil d rest =>
      rw [List.flatMap_nil, List.flatMap_cons]
      cases hbytes : String.utf8EncodeChar d with
      | nil => exact absurd hbytes String.utf8EncodeChar_ne_nil
      | cons byte bytes => rfl
  | rel hcd =>
      rw [List.flatMap_cons, List.flatMap_cons]
      exact compareLex_utf8EncodeChar hcd _ _
  | cons _ ih =>
      rw [List.flatMap_cons, List.flatMap_cons, compareLex_append_left]
      exact ih

/-- Texts are ordered as their bytes are. -/
theorem compareLex_utf8
    (a b : String) :
    List.compareLex compare (utf8 a) (utf8 b) = compare a b := by
  rcases lt_trichotomy a b with hlt | rfl | hgt
  · rw [compareLex_utf8_of_lt hlt, compare_lt_iff_lt.mpr hlt]
  · have hself : compare a a = .eq := Std.ReflCmp.compare_self
    rw [hself]
    exact Std.ReflCmp.compare_self
  · rw [compare_gt_iff_gt.mpr hgt]
    exact Std.OrientedCmp.gt_of_lt (compareLex_utf8_of_lt hgt)

end Text
end StringsAudit
