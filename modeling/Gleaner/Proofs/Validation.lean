import Gleaner.Definition.Validation

set_option autoImplicit false

/-!
What a valid definition is: its templates are not blank, and refer to no group above the last one
that is known. Main statement: the checks of a definition succeed exactly when it is valid.
-/
namespace Gleaner

namespace Template

/-- A template refers to no group above the last one, if that is known. -/
def Within (last : Option Nat) (template : String) : Prop :=
  ∀ bound, last = some bound → ∀ group ∈ references template, group ≤ bound

theorem within_none (template : String) : Within none template :=
  fun _ known => nomatch known

theorem within_some (bound : Nat) (template : String) :
    Within (some bound) template ↔ ∀ group ∈ references template, group ≤ bound := by
  constructor
  · intro within
    exact within bound rfl
  · intro within last known
    rw [← Option.some.inj known]
    exact within

/-- The groups of a template are in bounds when the highest of them is. -/
theorem within_of_highestReference? {template : String} {highest : Nat}
    (found : highestReference? template = some highest) (bound : Nat) :
    Within (some bound) template ↔ highest ≤ bound := by
  rw [within_some]
  exact (List.max?_le_iff found).symm

theorem references_of_highestReference?_none {template : String}
    (missing : highestReference? template = none) : references template = [] :=
  List.max?_eq_none_iff.1 missing

end Template

/-- A sequence of checks succeeds when each check does. -/
theorem then_eq_ok_iff {ε : Type} (first second : Except ε Unit) :
    (first >>= fun _ => second) = .ok () ↔ first = .ok () ∧ second = .ok () := by
  cases first with
  | error e =>
    constructor
    · intro failed
      cases failed
    · rintro ⟨failed, -⟩
      cases failed
  | ok done =>
    constructor
    · intro succeeded
      exact ⟨rfl, succeeded⟩
    · rintro ⟨-, succeeded⟩
      exact succeeded

namespace Procedure

/-- Assignments whose templates are in bounds; values other than strings are not looked into. -/
def Assignable (last : Option Nat) (assignments : List Assignment) : Prop :=
  ∀ a ∈ assignments, ∀ template, a.value = .string template → Template.Within last template

/-- A procedure, and all below it, that is in bounds when the last group of its parent's match is
the given one. -/
inductive WellFormed : Option Nat → Procedure → Prop
  | node {last : Option Nat} {source searchFor : String} {repeats askUser importing : Bool}
      {assignments : List Assignment} {children : List Procedure}
      (sourceGiven : Text.isAllBlank source = false) (sourceWithin : Template.Within last source)
      (searchGiven : Text.isAllBlank searchFor = false)
      (searchWithin : Template.Within last searchFor)
      (assignable : Assignable (groupBound searchFor) assignments)
      (below : ∀ child ∈ children, WellFormed (groupBound searchFor) child) :
      WellFormed last (.node source searchFor repeats askUser importing assignments children)

namespace WellFormed

variable {last : Option Nat} {procedure : Procedure}

theorem source (wellFormed : procedure.WellFormed last) :
    Template.Within last procedure.source := by
  cases wellFormed with
  | node _ sourceWithin _ _ _ _ => exact sourceWithin

theorem searchFor (wellFormed : procedure.WellFormed last) :
    Template.Within last procedure.searchFor := by
  cases wellFormed with
  | node _ _ _ searchWithin _ _ => exact searchWithin

theorem assignments (wellFormed : procedure.WellFormed last) :
    Assignable (groupBound procedure.searchFor) procedure.assignments := by
  cases wellFormed with
  | node _ _ _ _ assignable _ => exact assignable

theorem children (wellFormed : procedure.WellFormed last) :
    ∀ child ∈ procedure.children, child.WellFormed (groupBound procedure.searchFor) := by
  cases wellFormed with
  | node _ _ _ _ _ below => exact below

end WellFormed

theorem checkReferences_eq_ok_iff (path : ProcedurePath) (part : TemplatePart)
    (last : Option Nat) (template : String) :
    checkReferences path part last template = .ok () ↔ Template.Within last template := by
  cases last with
  | none => exact iff_of_true rfl (Template.within_none template)
  | some bound =>
    cases found : Template.highestReference? template with
    | none =>
      have none := Template.references_of_highestReference?_none found
      have within : Template.Within (some bound) template := by
        rw [Template.within_some, none]
        exact List.forall_mem_nil _
      simp only [checkReferences, found]
      exact iff_of_true trivial within
    | some highest =>
      rw [Template.within_of_highestReference? found]
      simp only [checkReferences, found]
      by_cases above : bound < highest
      · rw [if_pos above]
        exact iff_of_false (fun failed => nomatch failed) (Nat.not_le_of_lt above)
      · rw [if_neg above]
        exact iff_of_true rfl (Nat.le_of_not_lt above)

theorem checkTemplate_eq_ok_iff (path : ProcedurePath) (part : TemplatePart)
    (last : Option Nat) (template : String) :
    checkTemplate path part last template = .ok () ↔
      Text.isAllBlank template = false ∧ Template.Within last template := by
  unfold checkTemplate
  cases blank : Text.isAllBlank template with
  | true =>
    refine iff_of_false (fun failed => nomatch failed) ?_
    rintro ⟨given, -⟩
    cases given
  | false => simp only [Bool.false_eq_true, ↓reduceIte, checkReferences_eq_ok_iff, true_and]

theorem checkAssignments_eq_ok_iff (path : ProcedurePath) (last : Option Nat)
    (assignments : List Assignment) :
    checkAssignments path last assignments = .ok () ↔ Assignable last assignments := by
  induction assignments with
  | nil => exact iff_of_true rfl (List.forall_mem_nil _)
  | cons a rest ih =>
    rw [Assignable, List.forall_mem_cons]
    unfold checkAssignments
    split
    · next template string =>
      rw [then_eq_ok_iff, checkReferences_eq_ok_iff, ih, string]
      refine and_congr ⟨fun within other same => ?_, fun within => within template rfl⟩ Iff.rfl
      cases same
      exact within
    · next other =>
      rw [then_eq_ok_iff, ih]
      refine and_congr (iff_of_true rfl fun template same => ?_) Iff.rfl
      exact absurd same (other template)

mutual

/-- The checks of a procedure succeed exactly when it is well-formed. -/
theorem validate_eq_ok_iff (path : ProcedurePath) (last : Option Nat) :
    ∀ procedure : Procedure,
      validate path last procedure = .ok () ↔ WellFormed last procedure
  | .node source searchFor repeats askUser importing assignments children => by
    have below := validateAll_eq_ok_iff path (groupBound searchFor) 0 children
    simp only [validate, then_eq_ok_iff, checkTemplate_eq_ok_iff, checkAssignments_eq_ok_iff]
    rw [below]
    constructor
    · rintro ⟨⟨sourceGiven, sourceWithin⟩, ⟨searchGiven, searchWithin⟩, assignable, below⟩
      exact .node sourceGiven sourceWithin searchGiven searchWithin assignable below
    · intro wellFormed
      cases wellFormed with
      | node sourceGiven sourceWithin searchGiven searchWithin assignable below =>
        exact ⟨⟨sourceGiven, sourceWithin⟩, ⟨searchGiven, searchWithin⟩, assignable, below⟩

theorem validateAll_eq_ok_iff (path : ProcedurePath) (last : Option Nat) (index : Nat) :
    ∀ procedures : List Procedure,
      validateAll path last index procedures = .ok () ↔
        ∀ procedure ∈ procedures, WellFormed last procedure
  | [] => iff_of_true rfl (List.forall_mem_nil _)
  | p :: ps => by
    have first := validate_eq_ok_iff (path ++ [index]) last p
    have others := validateAll_eq_ok_iff path last (index + 1) ps
    rw [List.forall_mem_cons]
    simp only [validateAll, then_eq_ok_iff]
    rw [first, others]

end

end Procedure

/-- A definition whose name pattern compiles, with procedures that are well-formed for the matches
of that pattern. -/
structure Definition.Valid (d : Definition) (fileName : Regex) : Prop where
  compiled : Regex.compile? d.fileName = some fileName
  procedures : ∀ procedure ∈ d.procedures,
    procedure.WellFormed (some (fileName.groupCount - 1))

/-- Checking a definition comes to its name pattern exactly when it is valid. -/
theorem Definition.validate_eq_ok_iff (d : Definition) (fileName : Regex) :
    d.validate = .ok fileName ↔ d.Valid fileName := by
  unfold validate
  cases compiled : Regex.compile? d.fileName with
  | none =>
    refine iff_of_false (fun failed => nomatch failed) fun valid => ?_
    rw [valid.compiled] at compiled
    cases compiled
  | some found =>
    have checks := Procedure.validateAll_eq_ok_iff [] (some (found.groupCount - 1)) 0 d.procedures
    constructor
    · intro accepted
      cases checked : Procedure.validateAll [] (some (found.groupCount - 1)) 0 d.procedures with
      | error e =>
        simp only [checked] at accepted
        cases accepted
      | ok done =>
        simp only [checked] at accepted
        cases accepted
        exact ⟨compiled, checks.1 checked⟩
    · intro valid
      have same : found = fileName := Option.some.inj (compiled.symm.trans valid.compiled)
      subst same
      simp only [checks.2 valid.procedures]
      rfl

end Gleaner
