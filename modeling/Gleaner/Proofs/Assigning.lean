import Gleaner.Proofs.Agreement
import Gleaner.Proofs.Items

set_option autoImplicit false

/-!
The assignments of a scrape, one by one. The record of an item is what writing them in order makes
of a fresh record, so that there is a record after each of them.
-/
namespace Gleaner

/-- An assignment to a detail that is inherited writes the parent's value, and no other assignment
writes to that detail. -/
theorem Assignment.detail?_apply {policy : WritePolicy} {key : String} {value : Value}
    (inherits : inherited? policy (.detail key) = some (key, value)) (captures : Captures)
    (a : Assignment) (record : Record) :
    (a.apply policy captures record).1.detail? key =
      if a.field = .detail key then some value else record.detail? key := by
  split
  · next here =>
    rw [apply, here, inherits]
    exact Dict.find?_insert_self record.details key value
  · next elsewhere =>
    have apart : (a.apply policy captures record).1.AgreeOn id (· ≠ a.field) record :=
      apply_apart policy captures (fun different => different rfl) record
    exact apart.details key (Ne.symm elsewhere)

/-- One of the assignments that are due at a visit. -/
structure Write where
  visit : Visit
  assignment : Assignment

namespace Write

/-- The policy of a write: that of the scrape, but for what the procedure imports. -/
def policy (policy : WritePolicy) (w : Write) : WritePolicy :=
  Step.policyOf policy w.visit.procedure

/-- Writes to a record. -/
def apply (policy : WritePolicy) (record : Record) (w : Write) : Record :=
  (w.assignment.apply (w.policy policy) w.visit.captures record).1

/-- The records that writing passes through: the one it starts with, and one after each write. -/
def records (policy : WritePolicy) (start : Record) (writes : List Write) : List Record :=
  writes.scanl (apply policy) start

/-- What is inherited does not depend on the procedure. -/
theorem inherited?_policy (policy : WritePolicy) (w : Write) (field : Field) :
    Assignment.inherited? (w.policy policy) field = Assignment.inherited? policy field := rfl

end Write

/-- The assignments of a visit, in order. -/
def Visit.writes (visit : Visit) : List Write :=
  visit.procedure.assignments.map fun a => ⟨visit, a⟩

theorem Assignment.applyAll_fst (policy : WritePolicy) (visit : Visit) (record : Record) :
    (applyAll (Step.policyOf policy visit.procedure) visit.captures visit.procedure.assignments
      record).1 = visit.writes.foldl (Write.apply policy) record := by
  unfold Visit.writes
  rw [List.foldl_map]
  induction visit.procedure.assignments generalizing record with
  | nil => rfl
  | cons a rest ih => exact ih (a.apply _ visit.captures record).1

/-- The record after steps is the one after the last of their writes. -/
theorem Step.writeAll_fst (policy : WritePolicy) (steps : List Step) (record : Record) :
    (writeAll policy steps record).1 =
      ((steps.filterMap visit?).flatMap Visit.writes).foldl (Write.apply policy) record := by
  induction steps generalizing record with
  | nil => rfl
  | cons step rest ih =>
    have others := ih (write policy record step).1
    cases step with
    | warned warning => exact others
    | visited procedure captures =>
      have first := Assignment.applyAll_fst policy ⟨procedure, captures⟩ record
      rw [List.filterMap_cons, visit?, List.flatMap_cons, List.foldl_append, ← first]
      exact others

namespace Scraper

/-- The assignments of a scrape, in the order in which they are written; a location that does not
match has none. -/
def writes (found : Option (List Evaluation)) : List Write :=
  match found with
  | none => []
  | some found => (Evaluation.visitsAll found).flatMap Visit.writes

variable (definition : Definition) (options : ScrapeOptions) (defaults : Details) (record : Record)

theorem itemFrom_record (found : List Evaluation) :
    (itemFrom definition options defaults record found).record =
      (writes (some found)).foldl (Write.apply (writePolicy definition options))
        (record.reset defaults) := by
  have visits := (Evaluation.walkAll_tells found).visits
  simp only [itemFrom, itemOf, Step.writeAll_fst, visits, writes]

theorem answerFrom_record (found : Option (List Evaluation)) :
    (answerFrom definition options defaults record found).2 =
      (writes found).foldl (Write.apply (writePolicy definition options))
        (record.reset defaults) := by
  cases found with
  | none => rfl
  | some found => exact itemFrom_record definition options defaults record found

/-- A detail is inherited in a scrape: inheriting is on, there is a parent, and the definition
gives the parent's key. -/
def Inherits (key : String) : Prop :=
  options.inherit = true ∧ options.parent.isSome = true ∧
    (definition.inherited.find? key).isSome = true

theorem inherited?_writePolicy (key : String) :
    Assignment.inherited? (writePolicy definition options) (.detail key) =
      if options.inherit then
        options.parent.bind fun parent => (definition.inherited.find? key).map fun parentKey =>
          (key, (parent.detail? parentKey).getD .null)
      else none := by
  unfold writePolicy inheritance Assignment.inherited?
  cases options.inherit with
  | false => rfl
  | true =>
    cases options.parent with
    | none =>
      cases definition.inherited.isEmpty <;> rfl
    | some parent =>
      cases empty : definition.inherited.isEmpty with
      | false => rfl
      | true =>
        have nothing : definition.inherited.find? key = none := by
          rw [Dict.find?, List.isEmpty_iff.1 empty, Entries.find?_nil]
        simp [nothing]

theorem inherited?_eq_none_iff (key : String) :
    Assignment.inherited? (writePolicy definition options) (.detail key) = none ↔
      ¬Inherits definition options key := by
  rw [inherited?_writePolicy]
  unfold Inherits
  cases options.inherit with
  | false => simp
  | true =>
    cases options.parent with
    | none => simp
    | some parent => simp

end Scraper

end Gleaner
