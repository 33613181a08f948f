import StringsAudit.Proofs.Pattern.Run

/-!
# Where the matches of a pattern lie

Whatever the program, a thread notes positions only between the place where its match starts and
the place that it has come to, since nothing else moves the position on. So a match ends behind its
start and what is noted of its groups lies inside of it; and since the search goes on behind a
match, the matches of a text come one after the other and do not overlap.

## Main definitions

* `NotedWithin` : the noted positions lie between two positions.
* `Match.LiesWithin` : a match with its notes lies between two positions.
* `AreSuccessive` : matches that come one after the other and do not overlap.

## Main results

* `Program.notedWithin_follow` : what one instruction after the other notes.
* `Program.liesWithin_run` : where a match lies that is found from a position on.
* `Program.areSuccessive_findAll` : the matches of a text.
* `Match.LiesWithin.group?` : a group lies in its match.
-/

namespace StringsAudit
namespace Pattern

/-- The noted positions lie between two positions. -/
def NotedWithin (low high : Nat) (slots : Slots) : Prop :=
  ∀ note ∈ slots, low ≤ note.2 ∧ note.2 ≤ high

/-- Threads that have noted positions between two positions only. -/
def ThreadsWithin (low high : Nat) (threads : List Thread) : Prop :=
  ∀ thread ∈ threads, NotedWithin low high thread.slots

/-- A match with its notes lies between two positions. -/
structure Match.LiesWithin (found : Match) (low high : Nat) : Prop where
  low_le : low ≤ found.start
  start_le : found.start ≤ found.stop
  stop_le : found.stop ≤ high
  noted : NotedWithin found.start found.stop found.slots

/-- Matches between two positions that come one after the other and do not overlap. -/
structure AreSuccessive (low high : Nat) (list : List Match) : Prop where
  within : ∀ found ∈ list, found.LiesWithin low high
  ordered : list.Pairwise fun first second => first.stop ≤ second.start

theorem NotedWithin.mono
    {low high higher : Nat}
    {slots : Slots}
    (h : NotedWithin low high slots)
    (hle : high ≤ higher) :
    NotedWithin low higher slots :=
  fun note hnote => ⟨(h note hnote).1, Nat.le_trans (h note hnote).2 hle⟩

theorem Match.LiesWithin.mono
    {found : Match}
    {low lower high : Nat}
    (h : found.LiesWithin low high)
    (hle : lower ≤ low) :
    found.LiesWithin lower high :=
  ⟨Nat.le_trans hle h.low_le, h.start_le, h.stop_le, h.noted⟩

theorem Match.LiesWithin.extend
    {found : Match}
    {low high higher : Nat}
    (h : found.LiesWithin low high)
    (hle : high ≤ higher) :
    found.LiesWithin low higher :=
  ⟨h.low_le, h.start_le, Nat.le_trans h.stop_le hle, h.noted⟩

/-- A group lies in its match. -/
theorem Match.LiesWithin.group?
    {found : Match}
    {low high index start stop : Nat}
    (h : found.LiesWithin low high)
    (hgroup : found.group? index = some (start, stop)) :
    (found.start ≤ start ∧ start ≤ found.stop) ∧ found.start ≤ stop ∧ stop ≤ found.stop := by
  have hnoted {slot position : Nat} (hslot : found.slots.lookup slot = some position) :
      found.start ≤ position ∧ position ≤ found.stop := by
    obtain ⟨before, after, heq, -⟩ := List.lookup_eq_some_iff.mp hslot
    exact h.noted (slot, position) (heq ▸ List.mem_append_cons_self)
  rw [Match.group?] at hgroup
  split at hgroup
  next =>
    obtain ⟨rfl, rfl⟩ := Prod.mk.inj (Option.some.inj hgroup)
    exact ⟨⟨Nat.le_refl _, h.start_le⟩, h.start_le, Nat.le_refl _⟩
  next =>
    split at hgroup
    next hstart hstop =>
      obtain ⟨rfl, rfl⟩ := Prod.mk.inj (Option.some.inj hgroup)
      exact ⟨hnoted hstart, hnoted hstop⟩
    next => cases hgroup

namespace AreSuccessive

variable {low lower high : Nat} {found : Match} {rest : List Match}

theorem nil :
    AreSuccessive low high [] :=
  ⟨List.forall_mem_nil _, .nil⟩

theorem singleton
    (h : found.LiesWithin low high) :
    AreSuccessive low high [found] :=
  ⟨List.forall_mem_singleton.mpr h, List.pairwise_singleton _ _⟩

theorem mono
    (h : AreSuccessive low high rest)
    (hle : lower ≤ low) :
    AreSuccessive lower high rest :=
  ⟨fun found hfound => (h.within found hfound).mono hle, h.ordered⟩

/-- A match in front of those behind its end. -/
theorem cons
    (hfirst : found.LiesWithin low high)
    (hrest : AreSuccessive found.stop high rest) :
    AreSuccessive low high (found :: rest) := by
  have hlow : low ≤ found.stop := Nat.le_trans hfirst.low_le hfirst.start_le
  refine ⟨List.forall_mem_cons.mpr ⟨hfirst, (hrest.mono hlow).within⟩, ?_⟩
  refine List.pairwise_cons.mpr ⟨fun second hsecond => ?_, hrest.ordered⟩
  exact (hrest.within second hsecond).low_le

end AreSuccessive

namespace Program

variable {program : Program} {start position : Nat}

/-! ### What is noted -/

/-- The instructions that consume nothing note the position at which they stand. -/
theorem notedWithin_follow
    {slots : Slots}
    {frontier : Frontier}
    (before? after? : Option Char)
    (fuel pc : Nat)
    (hposition : start ≤ position)
    (hslots : NotedWithin start position slots)
    (hwaiting : ThreadsWithin start position frontier.waiting) :
    ThreadsWithin start position
      (program.follow before? after? position fuel pc slots frontier).waiting := by
  induction fuel generalizing pc slots frontier with
  | zero => exact hwaiting
  | succ fuel ih =>
      rw [follow]
      split
      next => exact hwaiting
      next =>
        dsimp only
        split
        next => exact ih _ hslots (ih _ hslots hwaiting)
        next => exact ih _ hslots hwaiting
        next slot _ =>
          have hnoted : NotedWithin start position ((slot, position) :: slots) :=
            List.forall_mem_cons.mpr ⟨⟨hposition, Nat.le_refl position⟩, hslots⟩
          exact ih _ hnoted hwaiting
        next =>
          split
          next => exact ih _ hslots hwaiting
          next => exact hwaiting
        next => exact List.forall_mem_cons.mpr ⟨hslots, hwaiting⟩
        next => exact List.forall_mem_cons.mpr ⟨hslots, hwaiting⟩
        next => exact hwaiting

theorem threadsWithin_arrive
    {threads : List Thread}
    (before? after? : Option Char)
    (hposition : start ≤ position)
    (hthreads : ThreadsWithin start position threads) :
    ThreadsWithin start position (program.arrive before? after? position threads) := by
  have hfold (frontier : Frontier) (hwaiting : ThreadsWithin start position frontier.waiting) :
      ThreadsWithin start position
        (threads.foldl
          (fun frontier thread =>
            program.follow before? after? position (program.code.size + 1) thread.pc thread.slots
              frontier)
          frontier).waiting := by
    induction threads generalizing frontier with
    | nil => exact hwaiting
    | cons thread rest ih =>
        obtain ⟨hthread, hrest⟩ := List.forall_mem_cons.mp hthreads
        exact ih hrest _ (notedWithin_follow before? after? _ thread.pc hposition hthread hwaiting)
  intro thread hthread
  exact hfold ⟨[], []⟩ (List.forall_mem_nil _) thread (List.mem_reverse.mp hthread)

theorem slots_of_consume?
    {c : Char}
    {thread next : Thread}
    (h : program.consume? c thread = some next) :
    next.slots = thread.slots := by
  rw [consume?] at h
  split at h
  next =>
    split at h
    next => rw [← Option.some.inj h]
    next => cases h
  next => cases h

theorem threadsWithin_filterMap_consume?
    {threads : List Thread}
    (c : Char)
    (hthreads : ThreadsWithin start position threads) :
    ThreadsWithin start (position + 1) (threads.filterMap (program.consume? c)) := by
  intro next hnext
  obtain ⟨thread, hthread, hconsume⟩ := List.mem_filterMap.mp hnext
  rw [slots_of_consume? hconsume]
  exact (hthreads thread hthread).mono (Nat.le_succ position)

/-! ### Where a match lies -/

theorem liesWithin_foundAt
    {threads : List Thread}
    {found? : Option Match}
    (hposition : start ≤ position)
    (hthreads : ThreadsWithin start position threads)
    (hfound : ∀ found ∈ found?, found.start = start ∧ found.LiesWithin start position) :
    ∀ found ∈ program.foundAt start position threads found?,
      found.start = start ∧ found.LiesWithin start position := by
  rw [foundAt]
  split
  next accepted behind hdrop =>
    have haccepted : accepted ∈ threads :=
      List.mem_of_mem_drop (hdrop ▸ List.mem_cons_self)
    intro found hsome
    obtain rfl := Option.some.inj hsome
    exact ⟨rfl, Nat.le_refl start, hposition, Nat.le_refl position, hthreads accepted haccepted⟩
  next => exact hfound

/-- A match that is found from a position on ends there or further on in the text. -/
theorem liesWithin_run
    {threads : List Thread}
    {found? : Option Match}
    (text : List Char)
    (hposition : start ≤ position)
    (hthreads : ThreadsWithin start position threads)
    (hfound : ∀ found ∈ found?, found.start = start ∧ found.LiesWithin start position) :
    ∀ found ∈ program.run start threads position found? text,
      found.start = start ∧ found.LiesWithin start (position + text.length) := by
  induction text generalizing threads position found? with
  | nil =>
      rw [run_end]
      exact liesWithin_foundAt hposition hthreads hfound
  | cons c rest ih =>
      have hfurther : start ≤ position + 1 := Nat.le_succ_of_le hposition
      have hlive : ThreadsWithin start position (program.live threads) := fun thread hthread =>
        hthreads thread ((List.takeWhile_subset _) hthread)
      have hmoved : ThreadsWithin start (position + 1)
          ((program.live threads).filterMap (program.consume? c)) :=
        threadsWithin_filterMap_consume? c hlive
      have hhere : ∀ found ∈ program.foundAt start position threads found?,
          found.start = start ∧ found.LiesWithin start (position + 1) := by
        intro found hfoundAt
        obtain ⟨hstart, hlies⟩ := liesWithin_foundAt hposition hthreads hfound found hfoundAt
        exact ⟨hstart, hlies.extend (Nat.le_succ position)⟩
      have hlength : position + (c :: rest).length = position + 1 + rest.length := by
        rw [List.length_cons, Nat.add_right_comm, Nat.add_assoc]
      rw [run_cons, hlength]
      exact ih hfurther (threadsWithin_arrive (some c) rest.head? hfurther hmoved) hhere

theorem liesWithin_matchAt
    {before? : Option Char}
    {text : List Char}
    {found : Match}
    (h : program.matchAt before? position text = some found) :
    found.start = position ∧ found.LiesWithin position (position + text.length) := by
  have hthread : ThreadsWithin position position [⟨0, []⟩] :=
    List.forall_mem_singleton.mpr (List.forall_mem_nil _)
  refine liesWithin_run text (Nat.le_refl position)
    (threadsWithin_arrive before? text.head? (Nat.le_refl position) hthread) ?_ found h
  exact fun _ hnone => nomatch hnone

/-! ### The matches of a text -/

/-- The search goes on behind a match, so the next match starts there or further on. -/
theorem areSuccessive_matchesFrom
    {skip : Nat}
    (blocked : Bool)
    (before? : Option Char)
    (position : Nat)
    {text : List Char}
    (hskip : skip ≤ text.length) :
    AreSuccessive (position + skip) (position + text.length)
      (program.matchesFrom skip blocked before? position text) := by
  induction text generalizing skip blocked before? position with
  | nil =>
      obtain rfl : skip = 0 := Nat.le_zero.mp hskip
      rw [matchesFrom]
      split
      next => exact .nil
      next =>
        cases hmatch : program.matchAt before? position [] with
        | none => exact .nil
        | some found => exact .singleton (liesWithin_matchAt hmatch).2
  | cons c rest ih =>
      have hlength : position + (c :: rest).length = position + 1 + rest.length := by
        rw [List.length_cons, Nat.add_right_comm, Nat.add_assoc]
      cases skip with
      | succ skip =>
          have hbehind := ih blocked (some c) (position + 1) (Nat.le_of_succ_le_succ hskip)
          rw [matchesFrom, hlength, Nat.add_comm skip, ← Nat.add_assoc]
          exact hbehind
      | zero =>
          have hnext := ih false (some c) (position + 1) (Nat.zero_le rest.length)
          have hlater := hnext.mono (Nat.le_succ position)
          rw [matchesFrom, hlength]
          cases hmatch : program.matchAt before? position (c :: rest) with
          | none => exact hlater
          | some found =>
              obtain ⟨hstart, hlies⟩ := liesWithin_matchAt hmatch
              rw [hlength] at hlies
              dsimp only
              split
              next hforward =>
                -- the rest of the match is skipped, which leads to its end
                have hstop := hlies.stop_le
                have hend : position + 1 + (found.stop - position - 1) = found.stop := by omega
                have hinside : found.stop - position - 1 ≤ rest.length := by omega
                have hbehind := ih true (some c) (position + 1) hinside
                rw [hend] at hbehind
                exact .cons hlies hbehind
              next hempty =>
                split
                next => exact hlater
                next => exact .cons hlies (hnext.mono (by omega))

/-- The matches of a text come one after the other, and what is noted of a match lies inside it. -/
theorem areSuccessive_findAll
    (program : Program)
    (text : List Char) :
    AreSuccessive 0 text.length (program.findAll text) := by
  have hall : AreSuccessive (0 + 0) (0 + text.length) (program.findAll text) :=
    areSuccessive_matchesFrom false none 0 (Nat.zero_le text.length)
  rwa [Nat.zero_add, Nat.zero_add] at hall

end Program
end Pattern
end StringsAudit
