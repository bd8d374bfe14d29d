import Gleaner.Proofs.Offences
import Gleaner.Proofs.World
import Mathlib.Data.List.DropRight
import Mathlib.Data.List.TakeWhile

set_option autoImplicit false

/-!
What is told of a definition that is not valid: the error is that of the first offence in the order
of the document. Main statement: `Definition.first_offence_blamed`.
-/
namespace Gleaner

/-- Nothing is left of a text once it is trimmed just if there is only white space in it. -/
theorem Text.trim_eq_empty_iff (text : String) : trim text = "" ↔ isAllBlank text = true := by
  have chars : trim text = "" ↔ trimChars text.toList = [] := by
    rw [trim, ← String.ofList_nil]
    exact ⟨fun same => String.ofList_injective same, fun same => congrArg String.ofList same⟩
  rw [chars, trimChars, dropWhileEnd, List.reverse_eq_nil_iff, List.dropWhile_eq_nil_iff]
  simp only [List.mem_reverse]
  rw [← List.dropWhile_eq_nil_iff, List.dropWhile_idempotent, List.dropWhile_eq_nil_iff,
    isAllBlank, List.all_eq_true]

namespace Procedure

/-- The error of the first offence. -/
def blame : List Offence → Except EngineError Unit
  | [] => .ok ()
  | o :: _ => .error o.error

theorem blame_append (first second : List Offence) :
    blame (first ++ second) = (blame first >>= fun _ => blame second) := by
  cases first <;> rfl

theorem blame_eq_ok_iff (found : List Offence) : blame found = .ok () ↔ found = [] := by
  cases found with
  | nil => exact iff_of_true rfl rfl
  | cons o rest => exact iff_of_false (fun failed => nomatch failed) (List.cons_ne_nil o rest)

/-- Of offences in order, it is the first that is blamed. -/
theorem blame_eq_error_iff {found : List Offence} (sorted : found.Pairwise Offence.Before)
    (e : EngineError) :
    blame found = .error e ↔
      ∃ o ∈ found, (∀ other ∈ found, other = o ∨ o.Before other) ∧ e = o.error := by
  cases found with
  | nil =>
    refine iff_of_false (fun failed => nomatch failed) ?_
    rintro ⟨o, mem, -⟩
    exact List.not_mem_nil mem
  | cons first rest =>
    obtain ⟨before, -⟩ := List.pairwise_cons.1 sorted
    constructor
    · intro blamed
      cases blamed
      refine ⟨first, List.mem_cons_self, fun other mem => ?_, rfl⟩
      exact (List.mem_cons.1 mem).imp_right (before other)
    · rintro ⟨o, mem, least, rfl⟩
      rcases List.mem_cons.1 mem with rfl | later
      · rfl
      · cases least first List.mem_cons_self with
        | inl same => rw [same, blame]
        | inr earlier => exact absurd earlier (before o later).asymm

/-- What a check comes to that finds a fault, or finds none. -/
def verdict (path : ProcedurePath) (part : TemplatePart) (fault : Option Fault) :
    Except EngineError Unit :=
  blame (offencesOf path 0 [(part, fault)])

theorem blame_offencesOf_cons (path : ProcedurePath) (number : Nat) (part : TemplatePart)
    (fault : Option Fault) (rest : List (TemplatePart × Option Fault)) :
    blame (offencesOf path number ((part, fault) :: rest)) =
      (verdict path part fault >>= fun _ => blame (offencesOf path (number + 1) rest)) := by
  cases fault with
  | none => rfl
  | some fault => cases fault <;> rfl

theorem checkReferences_eq (path : ProcedurePath) (part : TemplatePart) (last : Option Nat)
    (template : String) :
    checkReferences path part last template = verdict path part (beyond? last template) := by
  cases last with
  | none => rfl
  | some available =>
    unfold checkReferences beyond?
    cases Template.highestReference? template with
    | none => rfl
    | some group =>
      by_cases beyond : available < group
      · simp only [if_pos beyond]
        rfl
      · simp only [if_neg beyond]
        rfl

theorem checkTemplate_eq (path : ProcedurePath) (part : TemplatePart) (last : Option Nat)
    (template : String) :
    checkTemplate path part last template =
      (verdict path part (blank? template) >>= fun _ =>
        verdict path part (beyond? last template)) := by
  simp only [checkTemplate, blank?, Text.trim_eq_empty_iff, checkReferences_eq]
  split <;> rfl

theorem checkAssignments_eq (path : ProcedurePath) (last : Option Nat) (number : Nat)
    (assignments : List Assignment) :
    checkAssignments path last assignments =
      blame (offencesOf path number (assignments.map fun a =>
        (.assignment a.field, a.value.string?.bind (beyond? last)))) := by
  induction assignments generalizing number with
  | nil => rfl
  | cons a rest ih =>
    rw [List.map_cons, blame_offencesOf_cons, ← ih (number + 1), checkAssignments]
    split
    · next template string =>
      rw [string, checkReferences_eq]
      rfl
    · next other =>
      have none : a.value.string? = none := by
        cases held : a.value with
        | string template => exact absurd held (other template)
        | _ => rfl
      rw [none]
      rfl

theorem then_assoc {ε : Type} (first second third : Except ε Unit) :
    ((first >>= fun _ => second) >>= fun _ => third) =
      (first >>= fun _ => second >>= fun _ => third) := by
  cases first <;> rfl

mutual

theorem validate_eq_blame (path : ProcedurePath) (last : Option Nat) :
    ∀ procedure : Procedure, validate path last procedure = blame (offences path last procedure)
  | .node source searchFor repeats askUser importing assignments children => by
    -- Assignments come after two checks for each template of the procedure.
    rw [validate, offences, blame_append, checks, checkTemplate_eq, checkTemplate_eq,
      checkAssignments_eq path _ 4, validateAll_eq_blame]
    simp only [blame_offencesOf_cons, then_assoc]
    rfl

theorem validateAll_eq_blame (path : ProcedurePath) (last : Option Nat) (index : Nat) :
    ∀ procedures : List Procedure,
      validateAll path last index procedures = blame (offencesAll path last index procedures)
  | [] => rfl
  | p :: ps => by
    rw [validateAll, offencesAll, blame_append, validate_eq_blame, validateAll_eq_blame]

end

theorem beyond?_eq_none_iff (last : Option Nat) (template : String) :
    beyond? last template = none ↔ Template.Within last template := by
  rw [← checkReferences_eq_ok_iff [] .source, checkReferences_eq, verdict, blame_eq_ok_iff]
  cases beyond? last template with
  | none => exact iff_of_true rfl rfl
  | some fault => exact iff_of_false (Option.some_ne_none fault) (List.cons_ne_nil _ _)

theorem blank?_eq_none_iff (template : String) :
    blank? template = none ↔ Text.trim template ≠ "" := by
  unfold blank?
  split
  · next blank => exact iff_of_false (Option.some_ne_none _) (fun given => given blank)
  · next given => exact iff_of_true rfl given

/-- A procedure in itself is as it should be, when the last group of its parent's match is the given
one. -/
structure Shaped (last : Option Nat) (procedure : Procedure) : Prop where
  sourceGiven : Text.trim procedure.source ≠ ""
  sourceWithin : Template.Within last procedure.source
  searchGiven : Text.trim procedure.searchFor ≠ ""
  searchWithin : Template.Within last procedure.searchFor
  assignable : Assignable (groupBound procedure.searchFor) procedure.assignments

/-- The checks of a procedure find nothing just if it is as it should be. -/
theorem shaped_iff (last : Option Nat) (procedure : Procedure) :
    procedure.Shaped last ↔ ∀ check ∈ checks last procedure, check.2 = none := by
  have assigned : Assignable (groupBound procedure.searchFor) procedure.assignments ↔
      ∀ a ∈ procedure.assignments,
        a.value.string?.bind (beyond? (groupBound procedure.searchFor)) = none := by
    refine forall_congr' fun a => imp_congr_right fun _ => ?_
    cases a.value with
    | string template =>
      refine Iff.trans ?_ (beyond?_eq_none_iff _ template).symm
      constructor
      · intro within
        exact within template rfl
      · intro within other same
        cases same
        exact within
    | _ => exact iff_of_true (fun _ same => nomatch same) rfl
  simp only [checks, List.forall_mem_cons, List.forall_mem_map, blank?_eq_none_iff,
    beyond?_eq_none_iff, ← assigned]
  constructor
  · rintro ⟨sourceGiven, sourceWithin, searchGiven, searchWithin, assignable⟩
    exact ⟨sourceGiven, sourceWithin, searchGiven, searchWithin, assignable⟩
  · rintro ⟨sourceGiven, sourceWithin, searchGiven, searchWithin, assignable⟩
    exact ⟨sourceGiven, sourceWithin, searchGiven, searchWithin, assignable⟩

/-- A check of a procedure among the siblings or below them finds the offence. -/
def Occurs (last : Option Nat) (siblings : List Procedure) (o : Offence) : Prop :=
  ∃ last' node, Leads last siblings o.path last' node ∧
    (checks last' node)[o.check]? = some (o.part, some o.fault)

theorem mem_offencesAll_iff (last : Option Nat) (siblings : List Procedure) (o : Offence) :
    o ∈ offencesAll [] last 0 siblings ↔ Occurs last siblings o := by
  rw [mem_offencesAll]
  simp only [List.nil_append, Nat.zero_add]
  constructor
  · rintro ⟨i, tail, last', node, leads, same, found⟩
    exact ⟨last', node, same ▸ leads, found⟩
  · rintro ⟨last', node, leads, found⟩
    obtain ⟨i, tail, same⟩ := leads.exists_cons
    exact ⟨i, tail, last', node, same ▸ leads, same, found⟩

theorem offencesAll_eq_nil_iff (last : Option Nat) (siblings : List Procedure) :
    offencesAll [] last 0 siblings = [] ↔
      ∀ path last' node, Leads last siblings path last' node → node.Shaped last' := by
  rw [List.eq_nil_iff_forall_not_mem]
  simp only [mem_offencesAll_iff]
  constructor
  · intro clean path last' node leads
    refine (shaped_iff last' node).2 fun check mem => ?_
    obtain ⟨i, there⟩ := List.getElem?_of_mem mem
    obtain ⟨part, fault⟩ := check
    cases fault with
    | none => rfl
    | some fault => exact absurd ⟨last', node, leads, there⟩ (clean ⟨path, i, part, fault⟩)
  · rintro shaped o ⟨last', node, leads, found⟩
    have none := (shaped_iff last' node).1 (shaped o.path last' node leads) _
      (List.mem_of_getElem? found)
    cases none

end Procedure

namespace Definition

open Procedure (Leads Shaped Occurs blame offencesAll)

/-- The last group of a match of the name pattern is what the roots are given. -/
theorem validate_of_compiled {d : Definition} {fileName : Regex}
    (compiled : Regex.compile? d.fileName = some fileName) :
    d.validate =
      (blame (offencesAll [] (some (fileName.groupCount - 1)) 0 d.procedures) >>= fun _ =>
        .ok fileName) := by
  simp only [validate, compiled, Procedure.validateAll_eq_blame]

/-- Of a definition whose name pattern compiles the checks succeed just if all its procedures, at
every depth, are as they should be. Otherwise they tell, in the words of an invalid definition,
where the first offence in document order is, in what template, and what is wrong with it. -/
theorem first_offence_blamed {d : Definition} {fileName : Regex}
    (compiled : Regex.compile? d.fileName = some fileName) :
    let last := some (fileName.groupCount - 1)
    (d.validate = .ok fileName ↔
      ∀ path last' node, Leads last d.procedures path last' node → node.Shaped last') ∧
    (∀ e, d.validate = .error e ↔
      ∃ o, Occurs last d.procedures o ∧
        (∀ other, Occurs last d.procedures other → other = o ∨ o.Before other) ∧ e = o.error) ∧
    ∀ o : Offence,
      o.error.kind = .invalidDefinition ∧
        o.error.message =
          "invalid scraper definition: " ++ o.path.text ++ ": " ++ o.fault.text o.part := by
  intro last
  have checked := validate_of_compiled compiled
  have sorted := Procedure.offencesAll_sorted [] last 0 d.procedures
  refine ⟨?_, fun e => ?_, fun o => ⟨o.error_kind, o.error_message⟩⟩
  · rw [← Procedure.offencesAll_eq_nil_iff, ← Procedure.blame_eq_ok_iff, checked]
    cases blame (offencesAll [] last 0 d.procedures) with
    | ok done => exact iff_of_true rfl rfl
    | error e => exact iff_of_false (fun failed => nomatch failed) (fun failed => nomatch failed)
  · simp only [← Procedure.mem_offencesAll_iff]
    rw [← Procedure.blame_eq_error_iff sorted e, checked]
    cases blame (offencesAll [] last 0 d.procedures) with
    | ok done => exact iff_of_false (fun failed => nomatch failed) (fun failed => nomatch failed)
    | error found =>
      constructor
      · intro failed
        cases failed
        rfl
      · intro failed
        cases failed
        rfl

/-- Albums with tracks that are named for a group of their own, below which a source is missing, and
with lyrics of no source either. -/
def crookedAlbums : Definition where
  name := albums.name
  targetType := albums.targetType
  fileName := albums.fileName
  procedures := [
    .node "$0.txt" "Track: ([a-z]+)" true false false [⟨.name, .string "$1"⟩]
      [.node "$1.nfo" "Length: .*" false false false [⟨.detail "length", .string "$1"⟩] [],
        .node " " "Lyrics" false false false [] []],
    .node "$1.nfo" "" false false false [] []]

/-- Of four offences it is the first that is told of, which is neither the least deep nor found by
the least check. -/
theorem first_offence_blamed_albums :
    let last := some (albumName.groupCount - 1)
    Regex.compile? crookedAlbums.fileName = some albumName ∧
      ∃ o, Occurs last crookedAlbums.procedures o ∧
        (∀ other, Occurs last crookedAlbums.procedures other → other = o ∨ o.Before other) ∧
          o.error.message = "invalid scraper definition: procedures[0].procedures[0]: " ++
            "length references $1 but only 0 capture group(s) are available" := by
  intro last
  have compiled : Regex.compile? crookedAlbums.fileName = some albumName :=
    (Option.some_get _).symm
  let told : EngineError := .missingGroup [0, 0] (.assignment (.detail "length")) 1 0
  have failed : crookedAlbums.validate.map (fun _ => ()) = .error told := by decide +kernel
  have blamed : crookedAlbums.validate = .error told := by
    cases checked : crookedAlbums.validate with
    | error e =>
      rw [checked] at failed
      cases failed
      rfl
    | ok fileName =>
      rw [checked] at failed
      cases failed
  obtain ⟨o, occurs, least, same⟩ := ((first_offence_blamed compiled).2.1 told).1 blamed
  have words : told.message = "invalid scraper definition: procedures[0].procedures[0]: " ++
      "length references $1 but only 0 capture group(s) are available" := by decide +kernel
  exact ⟨compiled, o, occurs, least, same ▸ words⟩

end Definition

end Gleaner
