import Mathlib.Data.List.TakeWhile
import StringsAudit.Pattern.Search

/-!
# The run of a program

A program runs character by character. A thread that has matched ends those behind it, and the next
character moves on the threads in front of it that accept it; where one thread is left and waits for
fixed characters, the run compares them with the text.

## Main definitions

* `Program.Spells` : from an address on, a program waits for the characters of a text and accepts.
* `Program.live`, `Program.foundAt` : the threads that go on from a position, and what is found
  there.

## Main results

* `run_end`, `run_cons` : what is found at the end of a text, and what a character does.
* `run_cons_of_waiting` : what a character does to threads that have not matched.
* `run_of_spells` : a thread in front of a text that is spelled out.
-/

namespace StringsAudit
namespace Pattern
namespace Program

variable {program : Program} {start position pc : Nat} {slots : Slots}

/-- From an address on, a program waits for the characters of a text and accepts. -/
def Spells (program : Program) : Nat → List Char → Prop
  | pc, [] => program.code[pc]? = some .accept
  | pc, c :: rest => program.code[pc]? = some (.chars (.single c)) ∧ Spells program (pc + 1) rest

instance decidableSpells (program : Program) : (pc : Nat) → (text : List Char) →
    Decidable (program.Spells pc text)
  | pc, [] => inferInstanceAs (Decidable (program.code[pc]? = some .accept))
  | pc, _ :: rest =>
      have := decidableSpells program (pc + 1) rest
      inferInstanceAs (Decidable (_ ∧ program.Spells (pc + 1) rest))

/-! ### Threads that wait -/

theorem arrive_nil
    (before? after? : Option Char) :
    program.arrive before? after? position [] = [] := by
  rfl

theorem arrive_of_chars
    {set : CharSet}
    (before? after? : Option Char)
    (hcode : program.code[pc]? = some (.chars set)) :
    program.arrive before? after? position [⟨pc, slots⟩] = [⟨pc, slots⟩] := by
  simp [arrive, follow, hcode]

theorem arrive_of_accept
    (before? after? : Option Char)
    (hcode : program.code[pc]? = some .accept) :
    program.arrive before? after? position [⟨pc, slots⟩] = [⟨pc, slots⟩] := by
  simp [arrive, follow, hcode]

theorem arrive_of_spells
    {text : List Char}
    (before? after? : Option Char)
    (h : program.Spells pc text) :
    program.arrive before? after? position [⟨pc, slots⟩] = [⟨pc, slots⟩] := by
  cases text with
  | nil => exact arrive_of_accept before? after? h
  | cons c rest => exact arrive_of_chars before? after? h.1

/-! ### Runs -/

/-- The threads in front of the first one that has matched. -/
def live (program : Program) (threads : List Thread) : List Thread :=
  threads.takeWhile fun thread => !program.hasAccepted thread

/-- What is found at a position: the first thread that has matched, or what was found before. -/
def foundAt (program : Program) (start position : Nat) (threads : List Thread)
    (found? : Option Match) : Option Match :=
  match threads.drop (program.live threads).length with
  | accepted :: _ => some ⟨start, position, accepted.slots⟩
  | [] => found?

theorem run_nil
    (found? : Option Match)
    (text : List Char) :
    program.run start [] position found? text = found? := by
  rw [run.eq_def]
  cases text <;> rfl

/-- At the end of the text nothing moves on. -/
theorem run_end
    (threads : List Thread)
    (found? : Option Match) :
    program.run start threads position found? [] =
      program.foundAt start position threads found? := by
  rw [run.eq_def, foundAt, live]
  dsimp only
  cases threads.takeWhile fun thread => !program.hasAccepted thread <;> rfl

/-- A character moves on the threads in front of the first one that has matched. -/
theorem run_cons
    (threads : List Thread)
    (found? : Option Match)
    (c : Char)
    (rest : List Char) :
    program.run start threads position found? (c :: rest) =
      program.run start
        (program.arrive (some c) rest.head? (position + 1)
          ((program.live threads).filterMap (program.consume? c)))
        (position + 1) (program.foundAt start position threads found?) rest := by
  rw [run.eq_def, foundAt, live]
  dsimp only
  cases threads.takeWhile fun thread => !program.hasAccepted thread with
  | nil => exact (run_nil _ rest).symm
  | cons thread others => rfl

theorem live_of_waiting
    {threads : List Thread}
    (h : ∀ thread ∈ threads, program.hasAccepted thread = false) :
    program.live threads = threads :=
  List.takeWhile_eq_self_iff.mpr fun thread hthread => by simp [h thread hthread]

theorem foundAt_of_waiting
    {threads : List Thread}
    (found? : Option Match)
    (h : ∀ thread ∈ threads, program.hasAccepted thread = false) :
    program.foundAt start position threads found? = found? := by
  rw [foundAt, live_of_waiting h, List.drop_length]

/-- At the end of the text, threads that have not matched find nothing more. -/
theorem run_end_of_waiting
    {threads : List Thread}
    (found? : Option Match)
    (h : ∀ thread ∈ threads, program.hasAccepted thread = false) :
    program.run start threads position found? [] = found? := by
  rw [run_end, foundAt_of_waiting found? h]

/-- A character moves on the threads that accept it. -/
theorem run_cons_of_waiting
    {threads : List Thread}
    {c : Char}
    {rest : List Char}
    (found? : Option Match)
    (h : ∀ thread ∈ threads, program.hasAccepted thread = false) :
    program.run start threads position found? (c :: rest) =
      program.run start
        (program.arrive (some c) rest.head? (position + 1)
          (threads.filterMap (program.consume? c)))
        (position + 1) found? rest := by
  rw [run_cons, live_of_waiting h, foundAt_of_waiting found? h]

theorem hasAccepted_of_chars
    {set : CharSet}
    (hcode : program.code[pc]? = some (.chars set)) :
    program.hasAccepted ⟨pc, slots⟩ = false := by
  rw [hasAccepted, hcode]
  rfl

theorem consume?_of_chars
    {set : CharSet}
    (c : Char)
    (hcode : program.code[pc]? = some (.chars set)) :
    program.consume? c ⟨pc, slots⟩ = if set.has c then some ⟨pc + 1, slots⟩ else none := by
  rw [consume?, hcode]

/-- A thread that has matched ends the run. -/
theorem run_of_accept
    (found? : Option Match)
    (text : List Char)
    (hcode : program.code[pc]? = some .accept) :
    program.run start [⟨pc, slots⟩] position found? text = some ⟨start, position, slots⟩ := by
  have haccepted : program.hasAccepted ⟨pc, slots⟩ = true := by
    rw [hasAccepted, hcode]
    rfl
  rw [run.eq_def]
  simp [haccepted]

/-- A thread in front of a text that is spelled out compares it with what it meets. -/
theorem run_of_spells
    {word : List Char}
    (text : List Char)
    (h : program.Spells pc word) :
    program.run start [⟨pc, slots⟩] position none text =
      if word.isPrefixOf text then some ⟨start, position + word.length, slots⟩ else none := by
  induction word generalizing pc position text with
  | nil => exact run_of_accept none text h
  | cons d word ih =>
      obtain ⟨hcode, hrest⟩ := h
      have hwaiting : ∀ thread ∈ [Thread.mk pc slots], program.hasAccepted thread = false :=
        List.forall_mem_singleton.mpr (hasAccepted_of_chars hcode)
      cases text with
      | nil =>
          rw [run_end_of_waiting none hwaiting]
          rfl
      | cons c rest =>
          rw [run_cons_of_waiting none hwaiting, List.filterMap_cons, consume?_of_chars c hcode,
            CharSet.has_single, List.filterMap_nil]
          by_cases hc : c = d
          · rw [decide_eq_true hc, if_pos rfl]
            dsimp only
            rw [arrive_of_spells _ _ hrest, ih rest hrest, List.isPrefixOf, hc, List.length_cons,
              Nat.add_right_comm, Nat.add_assoc]
            simp
          · rw [decide_eq_false hc, if_neg Bool.false_ne_true]
            dsimp only
            rw [arrive_nil, run_nil]
            simp [List.isPrefixOf, Ne.symm hc]

end Program
end Pattern
end StringsAudit
