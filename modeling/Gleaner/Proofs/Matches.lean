import Gleaner.Captures
import Gleaner.Proofs.Threads

set_option autoImplicit false

/-!
The matches of a pattern come in the order of the text and do not overlap. It is enough to look at
positions: a search saves none before the one that it starts at, whatever its program.
-/
namespace Gleaner

namespace Pattern

/-- No position before `start` is saved. -/
def SavedFrom (start : Nat) (slots : Slots) : Prop :=
  ∀ position, some position ∈ slots → start ≤ position

theorem SavedFrom.set {start position slot : Nat} {slots : Slots} (saved : SavedFrom start slots)
    (reached : start ≤ position) : SavedFrom start (slots.set slot (some position)) := by
  intro other mem
  rcases List.mem_or_eq_of_mem_set mem with before | now
  · exact saved other before
  · exact Option.some.inj now ▸ reached

theorem Program.fresh_savedFrom (program : Program) (start : Nat) :
    SavedFrom start program.fresh.slots := by
  intro position mem
  cases List.eq_of_mem_replicate mem

theorem groupSpan_mem {slots : Slots} {group : Nat} {span : Span}
    (found : groupSpan slots group = some span) :
    some span.start ∈ slots ∧ some span.stop ∈ slots := by
  unfold groupSpan at found
  split at found
  · next first last left right =>
    split at found
    · cases found
      exact ⟨List.mem_of_getElem? left, List.mem_of_getElem? right⟩
    · cases found
  · cases found

theorem SavedFrom.groupSpan {start : Nat} {slots : Slots} (saved : SavedFrom start slots)
    {group : Nat} {span : Span} (found : groupSpan slots group = some span) :
    start ≤ span.start :=
  saved span.start (groupSpan_mem found).1

theorem groupSpan_ordered {slots : Slots} {group : Nat} {span : Span}
    (found : groupSpan slots group = some span) : span.start ≤ span.stop := by
  unfold groupSpan at found
  split at found
  · split at found
    · next ordered =>
      cases found
      exact ordered
    · cases found
  · cases found

theorem savedFrom_invariant (program : Program) (start : Nat) :
    Invariant program start fun _ thread => SavedFrom start thread.slots where
  fresh _ _ := program.fresh_savedFrom start
  check _ saved := saved
  save reached _ saved := saved.set reached
  fork _ _ saved := saved
  take _ saved := saved

variable {program : Program} {text : Array Char}

theorem searchFrom_savedFrom {start : Nat} {slots : Slots}
    (found : searchFrom program text start = some slots) : SavedFrom start slots := by
  obtain ⟨position, inst, -, -, -, saved⟩ := (savedFrom_invariant program start).searchFrom found
  exact saved

/-- A match starts at `position` or later, and ends after the match before, if there was one. -/
def Counts (position : Nat) (lastStop : Option Nat) (slots : Slots) : Prop :=
  ∀ span, groupSpan slots 0 = some span →
    position ≤ span.start ∧ ∀ stop, lastStop = some stop → stop < span.stop

/-- The next match that counts from `position` on, after one that ended at `lastStop` if there was
one. -/
def nextMatch? (program : Program) (text : Array Char) (position : Nat) (lastStop : Option Nat) :
    Option Slots :=
  let first := searchFrom program text position
  let repeats := match first.bind (groupSpan · 0) with
    | some span => span.start = span.stop && lastStop == some span.stop
    | none => false
  if repeats then if position < text.size then searchFrom program text (position + 1) else none
  else first

theorem searchAll_succ (program : Program) (text : Array Char) (fuel position : Nat)
    (lastStop : Option Nat) :
    searchAll program text (fuel + 1) position lastStop =
      match nextMatch? program text position lastStop with
      | none => []
      | some slots => slots :: match groupSpan slots 0 with
          | none => []
          | some span => searchAll program text fuel span.stop (some span.stop) := rfl

theorem exists_searchFrom_of_nextMatch? {position : Nat} {lastStop : Option Nat} {slots : Slots}
    (found : nextMatch? program text position lastStop = some slots) :
    ∃ start, searchFrom program text start = some slots ∧
      (start = position ∨ start = position + 1) := by
  rcases ite_eq_iff.1 found with ⟨-, later⟩ | ⟨-, first⟩
  · exact ⟨position + 1, (Option.ite_none_right_eq_some.1 later).2, .inr rfl⟩
  · exact ⟨position, first, .inl rfl⟩

theorem counts_of_nextMatch? {position : Nat} {lastStop : Option Nat} {slots : Slots}
    (passed : ∀ stop, lastStop = some stop → stop ≤ position)
    (found : nextMatch? program text position lastStop = some slots) :
    Counts position lastStop slots := by
  intro span spanned
  have ordered := groupSpan_ordered spanned
  rcases ite_eq_iff.1 found with ⟨-, later⟩ | ⟨counts, first⟩
  · obtain ⟨-, later⟩ := Option.ite_none_right_eq_some.1 later
    have started := (searchFrom_savedFrom later).groupSpan spanned
    exact ⟨by omega, fun stop last => by have := passed stop last; omega⟩
  · have started := (searchFrom_savedFrom first).groupSpan spanned
    refine ⟨started, fun stop last => ?_⟩
    -- An empty match where the last one stopped would have been passed over.
    have fresh : ¬(span.start = span.stop ∧ stop = span.stop) := by
      simpa [first, spanned, last] using counts
    have := passed stop last
    omega

theorem searchAll_counts (fuel : Nat) {position : Nat} {lastStop : Option Nat}
    (passed : ∀ stop, lastStop = some stop → stop ≤ position) :
    ∀ slots ∈ searchAll program text fuel position lastStop, Counts position lastStop slots := by
  induction fuel generalizing position lastStop with
  | zero => exact List.forall_mem_nil _
  | succ fuel ih =>
    rw [searchAll_succ]
    cases found : nextMatch? program text position lastStop with
    | none => exact List.forall_mem_nil _
    | some slots =>
      have counts := counts_of_nextMatch? passed found
      refine List.forall_mem_cons.2 ⟨counts, ?_⟩
      cases spanned : groupSpan slots 0 with
      | none => exact List.forall_mem_nil _
      | some span =>
        obtain ⟨started, later⟩ := counts span spanned
        intro other mem next found
        have ordered := groupSpan_ordered spanned
        obtain ⟨behind, ends⟩ := ih (fun stop same => Nat.le_of_eq (Option.some.inj same).symm)
          other mem next found
        have ends := ends span.stop rfl
        exact ⟨by omega, fun stop last => by have := later stop last; omega⟩

/-- The second match lies behind the first, and ends later. -/
def Behind (first second : Slots) : Prop :=
  ∀ s t, groupSpan first 0 = some s → groupSpan second 0 = some t →
    s.stop ≤ t.start ∧ s.stop < t.stop

theorem searchAll_behind (fuel : Nat) {position : Nat} {lastStop : Option Nat}
    (passed : ∀ stop, lastStop = some stop → stop ≤ position) :
    (searchAll program text fuel position lastStop).Pairwise Behind := by
  induction fuel generalizing position lastStop with
  | zero => exact .nil
  | succ fuel ih =>
    rw [searchAll_succ]
    cases nextMatch? program text position lastStop with
    | none => exact .nil
    | some slots =>
      dsimp only
      cases spanned : groupSpan slots 0 with
      | none => exact List.pairwise_singleton _ _
      | some span =>
        have reached : ∀ stop, some span.stop = some stop → stop ≤ span.stop :=
          fun stop same => Nat.le_of_eq (Option.some.inj same).symm
        refine List.pairwise_cons.2 ⟨fun other mem s t first second => ?_, ih reached⟩
        cases spanned.symm.trans first
        obtain ⟨started, later⟩ := searchAll_counts fuel reached other mem t second
        exact ⟨started, later span.stop rfl⟩

end Pattern

/-- The matches of a pattern come one behind the other. -/
theorem Regex.allSlots_behind (r : Regex) (text : Array Char) :
    (r.allSlots text).Pairwise Pattern.Behind :=
  Pattern.searchAll_behind _ fun _ none => nomatch none

end Gleaner
