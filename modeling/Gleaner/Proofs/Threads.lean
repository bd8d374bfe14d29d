import Gleaner.Pattern.Search
import Mathlib.Logic.Basic

set_option autoImplicit false

/-!
What a search keeps up of all threads, whatever its program: what holds of a fresh thread and is
kept by each instruction holds of the thread that is accepted. Main statement:
`Pattern.Invariant.searchFrom`.
-/
namespace Gleaner.Pattern

/-- What holds of the threads of a search at each position from `start` on, and still does when they
have gone on. -/
structure Invariant (program : Program) (start : Nat) (holds : Nat → Thread → Prop) : Prop where
  fresh : ∀ position, start ≤ position → holds position program.fresh
  check : ∀ {position inst slots look next}, program.insts[inst]? = some (.check look next) →
    holds position ⟨inst, slots⟩ → holds position ⟨next, slots⟩
  save : ∀ {position inst slots slot next}, start ≤ position →
    program.insts[inst]? = some (.save slot next) → holds position ⟨inst, slots⟩ →
      holds position ⟨next, slots.set slot (some position)⟩
  fork : ∀ {position inst slots nexts next}, program.insts[inst]? = some (.fork nexts) →
    next ∈ nexts → holds position ⟨inst, slots⟩ → holds position ⟨next, slots⟩
  take : ∀ {position inst slots set next}, program.insts[inst]? = some (.take set next) →
    holds position ⟨inst, slots⟩ → holds (position + 1) ⟨next, slots⟩

/-- The threads before the first that accepts are some of them all, and so is that one. -/
theorem untilAccept_mem (program : Program) (threads : List Thread) :
    (∀ thread ∈ (untilAccept program threads).1, thread ∈ threads) ∧
      ∀ slots, (untilAccept program threads).2 = some slots →
        ∃ thread ∈ threads, program.insts[thread.inst]? = some .accept ∧ thread.slots = slots := by
  induction threads with
  | nil => exact ⟨fun _ mem => mem, nofun⟩
  | cons thread threads ih =>
    unfold untilAccept
    split
    · next accepts =>
      refine ⟨nofun, fun slots found => ?_⟩
      exact ⟨thread, List.mem_cons_self, accepts, Option.some.inj found⟩
    · refine ⟨fun other mem => ?_, fun slots found => ?_⟩
      · rcases List.mem_cons.1 mem with rfl | mem
        · exact List.mem_cons_self
        · exact List.mem_cons_of_mem thread (ih.1 other mem)
      · obtain ⟨other, mem, accepts⟩ := ih.2 slots found
        exact ⟨other, List.mem_cons_of_mem thread mem, accepts⟩

/-- Slots that a thread has when it is accepted. -/
def Accepted (program : Program) (text : Array Char) (start : Nat) (holds : Nat → Thread → Prop)
    (slots : Slots) : Prop :=
  ∃ position inst, start ≤ position ∧ position ≤ text.size ∧
    program.insts[inst]? = some .accept ∧ holds position ⟨inst, slots⟩

namespace Invariant

variable {program : Program} {text : Array Char} {start : Nat} {holds : Nat → Thread → Prop}

theorem closure (invariant : Invariant program start holds) (text : Array Char) {position : Nat}
    (reached : start ≤ position) (fuel : Nat) {threads : List Thread} (seen : Array Bool)
    (all : ∀ thread ∈ threads, holds position thread) :
    ∀ thread ∈ closure program text position fuel threads seen, holds position thread := by
  induction fuel generalizing threads seen with
  | zero => exact List.forall_mem_nil _
  | succ fuel ih =>
    cases threads with
    | nil => exact List.forall_mem_nil _
    | cons thread threads =>
      obtain ⟨here, others⟩ := List.forall_mem_cons.1 all
      unfold Pattern.closure
      split
      · exact ih _ others
      · split
        · exact ih _ others
        · exact List.forall_mem_cons.2 ⟨here, ih _ others⟩
        · exact List.forall_mem_cons.2 ⟨here, ih _ others⟩
        · next look next inst =>
          dsimp only
          generalize Look.holds _ _ look = passes
          cases passes with
          | true => exact ih _ (List.forall_mem_cons.2 ⟨invariant.check inst here, others⟩)
          | false => exact ih _ others
        · next slot next inst =>
          exact ih _ (List.forall_mem_cons.2 ⟨invariant.save reached inst here, others⟩)
        · next nexts inst =>
          refine ih _ fun other mem => ?_
          rcases List.mem_append.1 mem with fork | mem
          · obtain ⟨next, target, rfl⟩ := List.mem_map.1 fork
            exact invariant.fork inst target here
          · exact others other mem

theorem advance (invariant : Invariant program start holds) {position : Nat}
    {threads : List Thread} (c : Char) (all : ∀ thread ∈ threads, holds position thread) :
    ∀ thread ∈ advance program c threads, holds (position + 1) thread := by
  intro thread mem
  obtain ⟨before, within, moved⟩ := List.mem_filterMap.1 mem
  split at moved
  · next set next inst =>
    split at moved
    · cases moved
      exact invariant.take inst (all before within)
    · cases moved
  · cases moved

theorem run (invariant : Invariant program start holds) (ways fuel : Nat) {position : Nat}
    (reached : start ≤ position) (inside : position ≤ text.size) {threads : List Thread}
    (all : ∀ thread ∈ threads, holds position thread) {found : Option Slots}
    (accepted : ∀ slots, found = some slots → Accepted program text start holds slots) :
    ∀ slots, run program text ways fuel position threads found = some slots →
      Accepted program text start holds slots := by
  induction fuel generalizing position threads found with
  | zero => exact accepted
  | succ fuel ih =>
    have waiting : ∀ thread ∈ if found.isNone then threads ++ [program.fresh] else threads,
        holds position thread := by
      split
      · exact List.forall_mem_append.2
          ⟨all, List.forall_mem_singleton.2 (invariant.fresh position reached)⟩
      · exact all
    simp only [Pattern.run]
    generalize (if found.isNone then threads ++ [program.fresh] else threads) = ready at waiting ⊢
    have settled := invariant.closure text reached (ready.length + ways + 1)
      (Array.replicate program.insts.size false) waiting
    generalize Pattern.closure program text position _ _ _ = closed at settled ⊢
    obtain ⟨going, stopped⟩ := untilAccept_mem program closed
    generalize untilAccept program _ = outcome at going stopped ⊢
    have best : ∀ slots, outcome.2.or found = some slots →
        Accepted program text start holds slots := by
      intro slots this
      rcases Option.or_eq_some_iff.1 this with now | ⟨-, before⟩
      · obtain ⟨thread, mem, accepts, rfl⟩ := stopped slots now
        exact ⟨position, thread.inst, reached, inside, accepts, settled thread mem⟩
      · exact accepted slots before
    cases here : text[position]? with
    | none => exact best
    | some c =>
      have within : position < text.size := (Array.getElem?_eq_some_iff.1 here).1
      dsimp only
      split
      · exact best
      · exact ih (Nat.le_succ_of_le reached) within
          (invariant.advance c fun thread mem => settled thread (going thread mem)) best

theorem searchFrom (invariant : Invariant program start holds) {slots : Slots}
    (found : searchFrom program text start = some slots) :
    Accepted program text start holds slots := by
  unfold Pattern.searchFrom at found
  by_cases inside : start ≤ text.size
  · exact invariant.run _ _ (Nat.le_refl start) inside (List.forall_mem_nil _)
      (fun _ none => by cases none) slots found
  · rw [Nat.sub_eq_zero_of_le (Nat.lt_of_not_le inside)] at found
    cases found

end Invariant

end Gleaner.Pattern
