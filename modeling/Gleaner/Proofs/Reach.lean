import Gleaner.Proofs.Validation
import Mathlib.Algebra.Order.BigOperators.Group.List
import Mathlib.Algebra.Order.Group.Nat
import Mathlib.Data.List.Basic

set_option autoImplicit false

/-!
What a template lets show of the captures. Groups that it does not refer to never show, and the
highest one that it refers to always does: two texts of that group give two expansions, however
often it occurs and whatever stands between. Main statement: `Template.highestReference_reach`.
-/
namespace Gleaner

/-- Two ways to write each element, the first nowhere longer, agree on a list only if they agree on
every element of it. -/
theorem eq_of_flatMap_eq {α β : Type} {f g : α → List β} {xs : List α}
    (le : ∀ x ∈ xs, (f x).length ≤ (g x).length) (same : xs.flatMap f = xs.flatMap g) :
    ∀ x ∈ xs, f x = g x := by
  induction xs with
  | nil => exact List.forall_mem_nil _
  | cons x xs ih =>
    obtain ⟨here, below⟩ := List.forall_mem_cons.1 le
    rw [List.flatMap_cons, List.flatMap_cons] at same
    have total := congrArg List.length same
    have rest : (xs.flatMap f).length ≤ (xs.flatMap g).length := by
      rw [List.length_flatMap, List.length_flatMap]
      exact List.sum_le_sum below
    -- Neither the first element nor the rest gets shorter, so with the same total both stay.
    have length : (f x).length = (g x).length := by
      rw [List.length_append, List.length_append] at total
      omega
    obtain ⟨first, others⟩ := List.append_inj same length
    exact List.forall_mem_cons.2 ⟨first, ih below others⟩

namespace Template

theorem mem_references {template : String} {group : Nat} :
    group ∈ references template ↔ .group group ∈ pieces 0 template.toList := by
  constructor
  · intro referred
    obtain ⟨piece, mem, found⟩ := List.mem_filterMap.1 referred
    cases piece with
    | group index =>
      cases found
      exact mem
    | _ => cases found
  · intro mem
    exact List.mem_filterMap.2 ⟨.group group, mem, rfl⟩

/-- Captures that agree on all groups that a template refers to give the same expansion. -/
theorem expand_congr {template : String} {captures captures' : Captures}
    (agree : ∀ group ∈ references template, captures.get group = captures'.get group) :
    expand template captures = expand template captures' := by
  have texts : ∀ piece ∈ pieces 0 template.toList,
      pieceText captures piece = pieceText captures' piece := by
    intro piece mem
    cases piece with
    | group index => exact congrArg String.toList (agree index (mem_references.2 mem))
    | _ => rfl
  simp only [expand, List.flatMap_congr texts]

variable {template : String} {highest : Nat}

theorem highest_mem (found : highestReference? template = some highest) :
    highest ∈ references template :=
  (List.max?_eq_some_iff.1 found).1

theorem le_highest (found : highestReference? template = some highest) :
    ∀ group ∈ references template, group ≤ highest :=
  (List.max?_eq_some_iff.1 found).2

/-- Two texts of the highest group do not cancel out. -/
theorem text_ne_of_highest (found : highestReference? template = some highest)
    {captures captures' : Captures}
    (agree : ∀ group < highest, captures.get group = captures'.get group)
    (differ : captures.get highest ≠ captures'.get highest) :
    (expand template captures).text ≠ (expand template captures').text := by
  intro same
  wlog shorter : (captures.get highest).toList.length ≤ (captures'.get highest).toList.length
    generalizing captures captures'
  · exact this (fun group below => (agree group below).symm) differ.symm same.symm (by omega)
  have lengths : ∀ piece ∈ pieces 0 template.toList,
      (pieceText captures piece).length ≤ (pieceText captures' piece).length := by
    intro piece mem
    cases piece with
    | group index =>
      have bound := le_highest found index (mem_references.2 mem)
      by_cases top : index = highest
      · rw [top]
        exact shorter
      · have equal := agree index (by omega)
        simp only [pieceText, equal, Nat.le_refl]
    | _ => exact Nat.le_refl _
  have texts := eq_of_flatMap_eq lengths (String.ofList_injective same)
  have top := texts (.group highest) (mem_references.1 (highest_mem found))
  exact differ (String.toList_injective top)

/-- The highest reference of a template is how far its expansion looks. Which dollar signs are
malformed never depends on the captures, and without references the text does not either; otherwise
it is decided by the groups up to the highest reference, which is itself not to be spared. -/
theorem highestReference_reach (template : String) :
    (∀ captures captures',
      (expand template captures).malformed = (expand template captures').malformed) ∧
    (highestReference? template = none →
      ∀ captures captures', (expand template captures).text = (expand template captures').text) ∧
    ∀ highest, highestReference? template = some highest → ∀ captures captures' : Captures,
      ((∀ group ≤ highest, captures.get group = captures'.get group) →
        expand template captures = expand template captures') ∧
      ((∀ group < highest, captures.get group = captures'.get group) →
        captures.get highest ≠ captures'.get highest →
          (expand template captures).text ≠ (expand template captures').text) := by
  refine ⟨fun _ _ => rfl, ?_, ?_⟩
  · intro missing captures captures'
    have none := references_of_highestReference?_none missing
    exact congrArg Expansion.text (expand_congr (none ▸ List.forall_mem_nil _))
  · intro highest found captures captures'
    constructor
    · intro agree
      exact expand_congr fun group referred => agree group (le_highest found group referred)
    · intro agree differ
      exact text_ne_of_highest found agree differ

/-- Two years do not cancel out, though they stand twice in the title; an absent group and an empty
one are the same. -/
theorem highestReference_reach_title :
    let dated (year : String) : Captures := ⟨[none, some year]⟩
    highestReference? "$1: $0 ($1)" = some 1 ∧
      (expand "$1: $0 ($1)" (dated "1")).text ≠ (expand "$1: $0 ($1)" (dated "11")).text ∧
      expand "$1: $0 ($1)" ⟨[some "", some "1"]⟩ = expand "$1: $0 ($1)" (dated "1") := by
  intro dated
  have highest : highestReference? "$1: $0 ($1)" = some 1 := by decide +kernel
  obtain ⟨-, -, reach⟩ := highestReference_reach "$1: $0 ($1)"
  refine ⟨highest, (reach 1 highest _ _).2 ?_ (by decide), (reach 1 highest _ _).1 ?_⟩
  · intro group below
    have first : group = 0 := by omega
    rw [first]
    rfl
  · intro group bound
    have either : group = 0 ∨ group = 1 := by omega
    rcases either with rfl | rfl
    · rfl
    · rfl

end Template

end Gleaner
