import Mathlib.Data.List.Basic
import StringsAudit.Compilers
import StringsAudit.Proofs.Pattern.Captures
import StringsAudit.Proofs.Text.Occurrence

/-!
# What the standard usage pattern finds

A reference to a key is the key between quotes with `.localized` behind it, where the key is made of
word characters. No reference starts inside another, so those on a line are found wherever they
start, and a character that stands in no reference keeps those before it and those behind it apart.

## Main definitions

* `UsagePattern.keyAt?` : the key of the reference with which a text starts.
* `UsagePattern.references` : the references of a text, each by the start of its key.

## Main results

* `compile_standard` : the program of the standard pattern.
* `matchAt_standard` : the program matches where a reference starts.
* `usesOn_standard` : the references to keys on a line.
* `references_append_cons` : references on both sides of a character that stands in none.
-/

namespace StringsAudit

/-- A computation with a result has not failed. -/
theorem eq_ok_of_toOption
    {ε α : Type}
    {outcome : Except ε α}
    {result : α}
    (h : outcome.toOption = some result) :
    outcome = .ok result := by
  cases outcome with
  | error error => cases h
  | ok own => exact congrArg Except.ok (Option.some.inj h)

namespace UsagePattern

open Pattern Pattern.Program Text

/-- What stands behind the key of a reference. -/
def closing : List Char :=
  "\".localized".toList

/-- The key of the reference with which a text starts. -/
def keyAt? : List Char → Option (List Char)
  | '"' :: rest =>
      if rest.takeWhile isWord ≠ [] ∧ closing <+: rest.dropWhile isWord then
        some (rest.takeWhile isWord)
      else none
  | _ => none

/-- The references of a text that starts at a position, each by the start of its key. -/
def references : (position : Nat) → List Char → List (Nat × List Char)
  | _, [] => []
  | position, c :: rest =>
      match keyAt? (c :: rest) with
      | some key => (position + 1, key) :: references (position + 1) rest
      | none => references (position + 1) rest

def standardCode : List Instr :=
  [.chars (.single '"'), .save 2, .chars (.property .word), .split 2 4, .save 3]
    ++ closing.map (fun c => .chars (.single c)) ++ [.accept]

def standardProgram : Program :=
  ⟨standardCode.toArray⟩

def standardPattern : UsagePattern :=
  ofRegex ⟨standardProgram, 1⟩

/-- The match of a reference that starts at a position. -/
def matchOf (reference : Nat × List Char) : Match where
  start := reference.1 - 1
  stop := reference.1 + reference.2.length + closing.length
  slots := [(3, reference.1 + reference.2.length), (2, reference.1)]

/-! ### The references of a text -/

theorem isWord_quote : isWord '"' = false := by decide

theorem closing_eq : closing = '"' :: '.' :: "localized".toList := by rfl

/-- A text starts with a reference if it starts with a key of word characters in its place. -/
theorem keyAt?_eq_some_iff
    {text key : List Char} :
    keyAt? text = some key ↔
      key ≠ [] ∧ (∀ c ∈ key, isWord c = true) ∧ '"' :: (key ++ closing) <+: text := by
  constructor
  · intro h
    rw [keyAt?.eq_def] at h
    split at h
    next rest =>
      split at h
      next hfound =>
        obtain ⟨hne, tail, htail⟩ := hfound
        rw [← Option.some.inj h]
        refine ⟨hne, fun c hc => List.mem_takeWhile_imp hc, tail, ?_⟩
        rw [List.cons_append, List.append_assoc, htail, List.takeWhile_append_dropWhile]
      next => cases h
    next => cases h
  · rintro ⟨hne, hword, rest, rfl⟩
    have hstop : (closing ++ rest).takeWhile isWord = [] := by
      rw [closing_eq, List.cons_append, List.takeWhile_cons_of_neg (by decide)]
    have hleft : (closing ++ rest).dropWhile isWord = closing ++ rest := by
      rw [closing_eq, List.cons_append, List.dropWhile_cons_of_neg (by decide)]
    rw [List.cons_append, keyAt?, List.append_assoc, List.takeWhile_append_of_pos hword, hstop,
      List.append_nil, List.dropWhile_append_of_pos hword, hleft,
      if_pos ⟨hne, List.prefix_append closing rest⟩]

theorem keyAt?_of_head?
    {text : List Char}
    (h : text.head? ≠ some '"') :
    keyAt? text = none := by
  rw [keyAt?.eq_def]
  split
  next => exact absurd rfl h
  next => rfl

theorem keyAt?_drop_eq_none
    {rest key : List Char}
    {i : Nat}
    (h : keyAt? ('"' :: rest) = some key)
    (hi : i < key.length + closing.length) :
    keyAt? (rest.drop i) = none := by
  obtain ⟨-, hword, tail, heq⟩ := keyAt?_eq_some_iff.mp h
  rw [List.cons_append, List.cons.injEq, List.append_assoc] at heq
  rw [← heq.2]
  rcases Nat.lt_trichotomy i key.length with hbefore | hat | hbehind
  · refine keyAt?_of_head? ?_
    rw [List.head?_drop, List.getElem?_append_left hbefore, List.getElem?_eq_getElem hbefore]
    intro hquote
    have hkey := hword _ (List.getElem_mem hbefore)
    rw [Option.some.inj hquote, isWord_quote] at hkey
    cases hkey
  · have hstop : ('.' :: ("localized".toList ++ tail)).takeWhile isWord = [] :=
      List.takeWhile_cons_of_neg (by decide)
    rw [hat, List.drop_left, closing_eq, List.cons_append, List.cons_append, keyAt?, if_neg]
    exact fun hfound => hfound.1 hstop
  · have hinside : ∀ j < closing.length, 0 < j → closing[j]? ≠ some '"' := by decide
    refine keyAt?_of_head? ?_
    rw [List.head?_drop, List.getElem?_append_right (by omega),
      List.getElem?_append_left (by omega)]
    exact hinside (i - key.length) (by omega) (by omega)

/-- The references of a text are those with which its parts start. -/
theorem mem_references_iff
    {text key : List Char}
    {position start : Nat} :
    (start, key) ∈ references position text ↔
      ∃ i, start = position + i + 1 ∧ keyAt? (text.drop i) = some key := by
  induction text generalizing position with
  | nil => simp [references, keyAt?]
  | cons c rest ih =>
      have hrest : (start, key) ∈ references (position + 1) rest ↔
          ∃ i, start = position + (i + 1) + 1 ∧ keyAt? ((c :: rest).drop (i + 1)) = some key := by
        simp only [ih, Nat.add_assoc, Nat.add_comm 1, List.drop_succ_cons]
      have hfirst : (start, key) ∈ references position (c :: rest) ↔
          (start = position + 1 ∧ keyAt? (c :: rest) = some key) ∨
            (start, key) ∈ references (position + 1) rest := by
        rw [references]
        cases keyAt? (c :: rest) <;> simp [eq_comm]
      rw [hfirst, hrest]
      constructor
      · rintro (⟨hstart, hkey⟩ | ⟨i, h⟩)
        · exact ⟨0, hstart, hkey⟩
        · exact ⟨i + 1, h⟩
      · rintro ⟨i, h⟩
        cases i with
        | zero => exact .inl h
        | succ i => exact .inr ⟨i, h⟩

theorem references_add
    (position shift : Nat)
    (text : List Char) :
    references (position + shift) text =
      (references position text).map fun reference => (reference.1 + shift, reference.2) := by
  induction text generalizing position with
  | nil => rfl
  | cons c rest ih =>
      rw [references, references, Nat.add_right_comm, ih]
      cases keyAt? (c :: rest) <;> rfl

/-- A character that stands in no reference. -/
structure IsForeign (c : Char) : Prop where
  not_word : isWord c = false
  not_mem_closing : c ∉ closing

theorem keyAt?_append_cons
    {c : Char}
    (before after : List Char)
    (hc : IsForeign c) :
    keyAt? (before ++ c :: after) = keyAt? before := by
  refine Option.ext fun key => ?_
  rw [keyAt?_eq_some_iff, keyAt?_eq_some_iff]
  refine and_congr_right fun _ => and_congr_right fun hword => ?_
  refine prefix_append_cons_iff before after ?_
  have hquote : c ≠ '"' := fun heq => hc.not_mem_closing (heq ▸ List.mem_cons_self)
  have hkey : c ∉ key := fun hmem => by simpa [hc.not_word] using hword c hmem
  simp [hquote, hkey, hc.not_mem_closing]

/-- A character that stands in no reference keeps those before it and those behind it apart. -/
theorem references_append_cons
    {c : Char}
    (position : Nat)
    (before after : List Char)
    (hc : IsForeign c) :
    references position (before ++ c :: after) =
      references position before ++ references (position + before.length + 1) after := by
  induction before generalizing position with
  | nil =>
      have hnone : keyAt? (c :: after) = none := keyAt?_append_cons [] after hc
      rw [List.nil_append, references]
      simp [hnone, references]
  | cons d before ih =>
      have hkey : keyAt? (d :: (before ++ c :: after)) = keyAt? (d :: before) :=
        keyAt?_append_cons (d :: before) after hc
      have hlength : position + 1 + before.length + 1 = position + (before.length + 1) + 1 := by
        omega
      rw [List.cons_append, references, hkey, references, ih, List.length_cons, hlength]
      cases keyAt? (d :: before) <;> rfl

/-! ### The program of the standard pattern -/

theorem compile_standard :
    compile standard = .ok standardPattern := by
  have hregex : Regex.compile standard = .ok ⟨standardProgram, 1⟩ := by
    refine eq_ok_of_toOption ?_
    decide +kernel
  have husage : Compilers.usage standard = .ok standardPattern :=
    congrArg (Except.map ofRegex) hregex
  rw [compile, husage]
  rfl

variable {start position : Nat} {slots : Slots}

theorem code_opening : standardProgram.code[0]? = some (.chars (.single '"')) := by rfl

theorem code_word : standardProgram.code[2]? = some (.chars (.property .word)) := by rfl

theorem code_closing : standardProgram.code[5]? = some (.chars (.single '"')) := by rfl

theorem spells_closing : standardProgram.Spells 5 closing := by decide

theorem arrive_opening
    (before? after? : Option Char) :
    standardProgram.arrive before? after? position [⟨1, slots⟩] =
      [⟨2, (2, position) :: slots⟩] := by
  rfl

theorem arrive_word
    (before? after? : Option Char) :
    standardProgram.arrive before? after? position [⟨3, slots⟩] =
      [⟨2, slots⟩, ⟨5, (3, position) :: slots⟩] := by
  rfl

theorem hasAccepted_word : standardProgram.hasAccepted ⟨2, slots⟩ = false :=
  hasAccepted_of_chars code_word

theorem hasAccepted_closing : standardProgram.hasAccepted ⟨5, slots⟩ = false :=
  hasAccepted_of_chars code_closing

/-- Behind the first character of a key, the key is read as far as it goes. -/
theorem run_word
    (text : List Char) :
    standardProgram.run start [⟨2, slots⟩, ⟨5, (3, position) :: slots⟩] position none text =
      if closing <+: text.dropWhile isWord then
        some ⟨start, position + (text.takeWhile isWord).length + closing.length,
          (3, position + (text.takeWhile isWord).length) :: slots⟩
      else none := by
  have hwaiting (position : Nat) :
      ∀ thread ∈ [Thread.mk 2 slots, ⟨5, (3, position) :: slots⟩],
        standardProgram.hasAccepted thread = false := by
    simp [hasAccepted_word, hasAccepted_closing]
  induction text generalizing position with
  | nil =>
      rw [run_end_of_waiting none (hwaiting position)]
      simp [closing_eq]
  | cons c rest ih =>
      by_cases hword : isWord c = true
      · have hquote : c ≠ '"' := by
          rintro rfl
          exact Bool.noConfusion hword
        have hconsume :
            [Thread.mk 2 slots, ⟨5, (3, position) :: slots⟩].filterMap
              (standardProgram.consume? c) = [⟨3, slots⟩] := by
          rw [List.filterMap_cons, consume?_of_chars c code_word, List.filterMap_cons,
            consume?_of_chars c code_closing, CharSet.has_single]
          simp [CharSet.has, Property.has, hword, hquote]
        have hlength (n : Nat) : position + 1 + n = position + (n + 1) := by omega
        rw [run_cons_of_waiting none (hwaiting position), hconsume, arrive_word, ih,
          List.dropWhile_cons_of_pos hword, List.takeWhile_cons_of_pos hword, List.length_cons,
          hlength]
      · -- the key has ended, so only the thread behind it can go on
        have hconsume :
            [Thread.mk 2 slots, ⟨5, (3, position) :: slots⟩].filterMap
                (standardProgram.consume? c) =
              [Thread.mk 5 ((3, position) :: slots)].filterMap (standardProgram.consume? c) := by
          rw [List.filterMap_cons, consume?_of_chars c code_word]
          simp [CharSet.has, Property.has, hword]
        have hclosing : ∀ thread ∈ [Thread.mk 5 ((3, position) :: slots)],
            standardProgram.hasAccepted thread = false :=
          List.forall_mem_singleton.mpr hasAccepted_closing
        rw [run_cons_of_waiting none (hwaiting position), hconsume,
          ← run_cons_of_waiting none hclosing, run_of_spells _ spells_closing,
          List.dropWhile_cons_of_neg hword, List.takeWhile_cons_of_neg hword]
        simp [List.isPrefixOf_iff_prefix]

theorem matchAt_standard
    (before? : Option Char)
    (text : List Char) :
    standardProgram.matchAt before? position text =
      (keyAt? text).map fun key => matchOf (position + 1, key) := by
  have hopening : ∀ thread ∈ [Thread.mk 0 []], standardProgram.hasAccepted thread = false :=
    List.forall_mem_singleton.mpr (hasAccepted_of_chars code_opening)
  have hfirst (slots : Slots) :
      ∀ thread ∈ [Thread.mk 2 slots], standardProgram.hasAccepted thread = false :=
    List.forall_mem_singleton.mpr hasAccepted_word
  rw [matchAt, arrive_of_chars _ _ code_opening]
  cases text with
  | nil => exact run_end_of_waiting none hopening
  | cons c rest =>
      rw [run_cons_of_waiting none hopening, List.filterMap_cons, consume?_of_chars c code_opening,
        CharSet.has_single, List.filterMap_nil]
      by_cases hc : c = '"'
      · subst hc
        rw [decide_eq_true rfl, if_pos rfl]
        dsimp only
        rw [arrive_opening]
        cases rest with
        | nil => exact run_end_of_waiting none (hfirst _)
        | cons d rest =>
            rw [run_cons_of_waiting none (hfirst _), List.filterMap_cons,
              consume?_of_chars d code_word, List.filterMap_nil]
            by_cases hd : isWord d = true
            · rw [CharSet.has, Property.has, hd, if_pos rfl]
              dsimp only
              rw [arrive_word, run_word, keyAt?, List.takeWhile_cons_of_pos hd,
                List.dropWhile_cons_of_pos hd]
              have hlength (n : Nat) : position + 1 + 1 + n = position + 1 + (n + 1) := by omega
              by_cases hclosing : closing <+: rest.dropWhile isWord
              · simp [hclosing, matchOf, hlength]
              · simp [hclosing]
            · rw [CharSet.has, Property.has, if_neg hd]
              dsimp only
              rw [arrive_nil, run_nil, keyAt?, List.takeWhile_cons_of_neg hd]
              rfl
      · rw [decide_eq_false hc, if_neg Bool.false_ne_true]
        dsimp only
        rw [arrive_nil, run_nil, keyAt?_of_head? (by simpa using hc)]
        rfl

/-- The search finds the references of a text, where what is skipped holds no start of one. -/
theorem matchesFrom_standard
    {skip : Nat}
    {text : List Char}
    (blocked : Bool)
    (before? : Option Char)
    (hskip : ∀ i < skip, keyAt? (text.drop i) = none) :
    standardProgram.matchesFrom skip blocked before? position text =
      (references position text).map matchOf := by
  induction text generalizing skip blocked before? position with
  | nil =>
      cases skip with
      | zero =>
          rw [matchesFrom, matchAt_standard]
          cases blocked <;> rfl
      | succ skip => rfl
  | cons c rest ih =>
      cases skip with
      | zero =>
          have hnothing : ∀ i < 0, keyAt? (rest.drop i) = none := by simp
          rw [matchesFrom, matchAt_standard, references]
          cases hkey : keyAt? (c :: rest) with
          | none => exact ih false (some c) hnothing
          | some key =>
              have hquote : c = '"' := by
                obtain ⟨-, -, tail, heq⟩ := keyAt?_eq_some_iff.mp hkey
                exact (List.cons.inj heq).1.symm
              -- the match is skipped to its end, and no reference is lost with it
              have hinside : ∀ i < key.length + closing.length, keyAt? (rest.drop i) = none :=
                fun i hi => keyAt?_drop_eq_none (hquote ▸ hkey) hi
              have hstop : (matchOf (position + 1, key)).stop - position - 1 =
                  key.length + closing.length := by
                simp only [matchOf]
                omega
              have hforward : position < (matchOf (position + 1, key)).stop := by
                simp only [matchOf]
                omega
              simp only [Option.map_some, if_pos hforward, hstop, ih true (some c) hinside,
                List.map_cons]
      | succ skip =>
          have hfirst : keyAt? (c :: rest) = none := hskip 0 (Nat.succ_pos skip)
          have hrest : ∀ i < skip, keyAt? (rest.drop i) = none :=
            fun i hi => hskip (i + 1) (Nat.succ_lt_succ hi)
          rw [matchesFrom, references, hfirst]
          exact ih blocked (some c) hrest

theorem findAll_standard
    (text : List Char) :
    standardProgram.findAll text = (references 0 text).map matchOf :=
  matchesFrom_standard false none (by simp)

/-! ### The references on a line -/

/-- The place of a reference on a line of a file. -/
def siteOf (file : String) (line : Line) (reference : Nat × List Char) : String × Site :=
  (String.ofList reference.2, ⟨⟨file, line.number, reference.1 + 1⟩, line.text⟩)

/-- The first group of the match of a reference is its key. -/
theorem captures_matchOf
    (text : String)
    (i : Nat)
    (key : List Char) :
    (matchOf (i + 1, key)).captures text =
      ⟨.ofPositions text i (i + 1 + key.length + closing.length),
        some (.ofPositions text (i + 1) (i + 1 + key.length))⟩ := by
  rfl

theorem captures_standard
    (text : String) :
    standardPattern.captures text =
      (references 0 text.toList).map fun reference => (matchOf reference).captures text := by
  change (standardProgram.findAll text.toList).map (·.captures text) = _
  rw [findAll_standard, List.map_map]
  rfl

theorem drop_of_keyAt?
    {text key : List Char}
    {i : Nat}
    (h : keyAt? (text.drop i) = some key) :
    ∃ tail, text.drop (i + 1) = key ++ (closing ++ tail) := by
  obtain ⟨-, -, tail, heq⟩ := keyAt?_eq_some_iff.mp h
  refine ⟨tail, ?_⟩
  rw [← List.drop_drop, ← heq, List.cons_append, List.append_assoc]
  rfl

theorem lt_length_of_keyAt?
    {text key : List Char}
    {i : Nat}
    (h : keyAt? (text.drop i) = some key) :
    i + 1 + key.length + closing.length ≤ text.length := by
  obtain ⟨-, -, tail, heq⟩ := keyAt?_eq_some_iff.mp h
  have hlength := congrArg List.length heq
  simp only [List.cons_append, List.length_cons, List.length_append, List.length_drop] at hlength
  omega

/-- The match of a reference is counted for its key, where the key starts. -/
theorem use_of_keyAt?
    {key : List Char}
    {i : Nat}
    (file : String)
    (line : Line)
    (h : keyAt? (line.text.toList.drop i) = some key) :
    let group := Span.ofPositions line.text (i + 1) (i + 1 + key.length)
    ((String.Pos.Raw.extract line.text group.start group.stop,
        ⟨⟨file, line.number, column line.text group.start⟩, line.text⟩) : String × Site) =
      siteOf file line (i + 1, key) := by
  obtain ⟨tail, htail⟩ := drop_of_keyAt? h
  have hlength := lt_length_of_keyAt? h
  rw [String.length_toList] at hlength
  have hposition : i + 1 ≤ line.text.length := by omega
  dsimp only
  rw [extract_ofPositions _ (Nat.le_add_right _ _), htail, Nat.add_sub_cancel_left, List.take_left,
    Span.ofPositions, column_rawEndPos_take hposition, siteOf]

/-- The references to keys on a line, with the standard pattern. -/
theorem usesOn_standard
    (file : String)
    (line : Line) :
    standardPattern.usesOn file line = (references 0 line.text.toList).map (siteOf file line) := by
  rw [usesOn, captures_standard, List.filterMap_map, List.filterMap_eq_map_iff_forall_eq_some]
  rintro ⟨start, key⟩ hreference
  obtain ⟨i, rfl, hkey⟩ := mem_references_iff.mp hreference
  rw [Nat.zero_add, Function.comp_apply, captures_matchOf, Option.map_some]
  exact congrArg some (use_of_keyAt? file line hkey)

end UsagePattern
end StringsAudit
