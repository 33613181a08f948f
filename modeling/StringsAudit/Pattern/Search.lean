import StringsAudit.Pattern.Program

/-!
# Searching for a pattern

All ways to match are followed side by side, character by character, in order of preference. At
one position each instruction is reached only by the way that is preferred most, so the work is
bounded by the size of the program times the length of the text, and of the matches that start at
one place the most preferred is found. Positions count characters.

## Main definitions

* `Program.matchAt` : the preferred match that starts at a position.
* `Program.matchesFrom` : the matches of a text from left to right.
* `Match.group?` : the extent of a group in a match.
-/

namespace StringsAudit
namespace Pattern

/-- The positions noted by a thread, the latest first. -/
abbrev Slots := List (Nat × Nat)

/-- A way to match: the instruction that waits for the next character, and the notes so far. -/
structure Thread where
  pc : Nat
  slots : Slots
  deriving DecidableEq, Repr

/-- The instructions reached at a position, and the threads that wait there, latest first. -/
structure Frontier where
  reached : List Nat
  waiting : List Thread
  deriving DecidableEq, Repr

/-- A match with the notes about its groups. -/
structure Match where
  start : Nat
  stop : Nat
  slots : Slots
  deriving DecidableEq, Repr

/-- The extent of a group; the whole match is group 0. -/
def Match.group? (found : Match) (index : Nat) : Option (Nat × Nat) :=
  if index = 0 then some (found.start, found.stop)
  else
    match found.slots.lookup (2 * index), found.slots.lookup (2 * index + 1) with
    | some start, some stop => some (start, stop)
    | _, _ => none

namespace Program

/--
Follows the instructions that consume nothing from one instruction on, between two characters.
No way is longer than the program, so its length is `fuel` enough.
-/
def follow (program : Program) (before? after? : Option Char) (position : Nat) :
    (fuel : Nat) → (pc : Nat) → Slots → Frontier → Frontier
  | 0, _, _, frontier => frontier
  | fuel + 1, pc, slots, frontier =>
      if frontier.reached.contains pc then frontier
      else
        let frontier := { frontier with reached := pc :: frontier.reached }
        match program.code[pc]? with
        | some (.split first second) =>
            follow program before? after? position fuel second slots
              (follow program before? after? position fuel first slots frontier)
        | some (.jump target) => follow program before? after? position fuel target slots frontier
        | some (.save slot) =>
            follow program before? after? position fuel (pc + 1) ((slot, position) :: slots)
              frontier
        | some (.look look) =>
            if look.holds before? after? then
              follow program before? after? position fuel (pc + 1) slots frontier
            else frontier
        | some (.chars _) | some .accept =>
            { frontier with waiting := ⟨pc, slots⟩ :: frontier.waiting }
        | none => frontier

/-- The threads that wait at a position when some threads arrive there, in order of preference. -/
def arrive (program : Program) (before? after? : Option Char) (position : Nat)
    (threads : List Thread) : List Thread :=
  (threads.foldl
    (fun frontier thread =>
      program.follow before? after? position (program.code.size + 1) thread.pc thread.slots
        frontier)
    ⟨[], []⟩).waiting.reverse

/-- Whether a thread has matched. -/
def hasAccepted (program : Program) (thread : Thread) : Bool :=
  program.code[thread.pc]? == some .accept

/-- A thread after it has consumed a character, if it can. -/
def consume? (program : Program) (c : Char) (thread : Thread) : Option Thread :=
  match program.code[thread.pc]? with
  | some (.chars set) => if set.has c then some { thread with pc := thread.pc + 1 } else none
  | _ => none

/--
Runs threads over a text. A thread that has matched replaces the match found before, and ends all
threads that are preferred less.
-/
def run (program : Program) (start : Nat) :
    List Thread → (position : Nat) → Option Match → List Char → Option Match
  | threads, position, found?, text =>
      let live := threads.takeWhile fun thread => !program.hasAccepted thread
      let found? :=
        match threads.drop live.length with
        | accepted :: _ => some ⟨start, position, accepted.slots⟩
        | [] => found?
      match live, text with
      | [], _ => found?
      | _, [] => found?
      | _, c :: rest =>
          run program start
            (program.arrive (some c) rest.head? (position + 1)
              (live.filterMap (program.consume? c)))
            (position + 1) found? rest

/-- The preferred match that starts at a position, where `before?` stands before the text. -/
def matchAt (program : Program) (before? : Option Char) (position : Nat) (text : List Char) :
    Option Match :=
  program.run position (program.arrive before? text.head? position [⟨0, []⟩]) position none text

/--
The matches of a text from left to right. The next `skip` characters belong to a match already
found; directly behind a match, `blocked`, a match of no text does not count.
-/
def matchesFrom (program : Program) :
    (skip : Nat) → (blocked : Bool) → (before? : Option Char) → (position : Nat) → List Char →
      List Match
  | 0, blocked, before?, position, [] =>
      if blocked then [] else (program.matchAt before? position []).toList
  | _ + 1, _, _, _, [] => []
  | skip + 1, blocked, _, position, c :: rest =>
      matchesFrom program skip blocked (some c) (position + 1) rest
  | 0, blocked, before?, position, c :: rest =>
      match program.matchAt before? position (c :: rest) with
      | some found =>
          if position < found.stop then
            found :: matchesFrom program (found.stop - position - 1) true (some c) (position + 1)
              rest
          else if blocked then matchesFrom program 0 false (some c) (position + 1) rest
          else found :: matchesFrom program 0 false (some c) (position + 1) rest
      | none => matchesFrom program 0 false (some c) (position + 1) rest

/-- The matches of a text from left to right. -/
def findAll (program : Program) (text : List Char) : List Match :=
  program.matchesFrom 0 false none 0 text

end Program
end Pattern
end StringsAudit
