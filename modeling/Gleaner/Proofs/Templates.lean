import Gleaner.Assignment
import Gleaner.Proofs.Validation

set_option autoImplicit false

/-!
Which of the templates in assigned values are checked. Strings in arrays are expanded like any
others, but the checks of a definition do not look into arrays. Main statements:
`expandValue_templates`, `Definition.arrays_unchecked`.
-/
namespace Gleaner

namespace Value

mutual

/-- The strings of a value, also those in arrays at any depth; objects are not looked into. -/
def templates : Value → List String
  | .string template => [template]
  | .array items => templatesAll items
  | _ => []

def templatesAll : List Value → List String
  | [] => []
  | item :: items => templates item ++ templatesAll items

end

/-- The strings in the arrays of a value. -/
def nested : Value → List String
  | .array items => templatesAll items
  | _ => []

/-- The value with nothing in it if it is an array. -/
def hollow : Value → Value
  | .array _ => .array []
  | value => value

/-- The strings of a value are what is left of it when arrays are emptied and what is in these. -/
theorem templates_eq (value : Value) :
    value.templates = value.hollow.templates ++ value.nested := by
  cases value with
  | array items => rfl
  | _ => exact (List.append_nil _).symm

end Value

open Value (templatesAll)

mutual

/-- What is expanded of a value are its strings, each of them as a template of its own; it is these
that are warned of. -/
theorem expandValue_templates (captures : Captures) : ∀ value,
    (expandValue captures value).1.templates =
        value.templates.map (fun template => (expandTemplate template captures).1) ∧
      (expandValue captures value).2 =
        value.templates.flatMap fun template => (expandTemplate template captures).2
  | .string _ => ⟨rfl, (List.append_nil _).symm⟩
  | .array items => expandValues_templates captures items
  | .null | .boolean _ | .number _ | .object _ => ⟨rfl, rfl⟩

theorem expandValues_templates (captures : Captures) : ∀ items,
    templatesAll (expandValues captures items).1 =
        (templatesAll items).map (fun template => (expandTemplate template captures).1) ∧
      (expandValues captures items).2 =
        (templatesAll items).flatMap fun template => (expandTemplate template captures).2
  | [] => ⟨rfl, rfl⟩
  | item :: items => by
    obtain ⟨texts, warnings⟩ := expandValue_templates captures item
    obtain ⟨others, more⟩ := expandValues_templates captures items
    simp only [expandValues, templatesAll, List.map_append, List.flatMap_append]
    rw [texts, others, warnings, more]
    exact ⟨rfl, rfl⟩

end

example :
    (expandValue ⟨[some "one"]⟩ (.array [.string "$0", .array [.string "$2.png"]])).1.templates =
      ["one", ".png"] := by
  decide +kernel

/-- The assignment with nothing in its value if that is an array. -/
def Assignment.hollow (a : Assignment) : Assignment :=
  { a with value := a.value.hollow }

namespace Procedure

mutual

/-- A procedure and all below it. -/
def nodes : Procedure → List Procedure
  | .node source searchFor repeats askUser importing assignments children =>
      .node source searchFor repeats askUser importing assignments children :: nodesAll children

def nodesAll : List Procedure → List Procedure
  | [] => []
  | p :: ps => nodes p ++ nodesAll ps

end

mutual

/-- The procedure with all arrays emptied that it, or one below it, assigns. -/
def hollow : Procedure → Procedure
  | .node source searchFor repeats askUser importing assignments children =>
      .node source searchFor repeats askUser importing (assignments.map Assignment.hollow)
        (hollowAll children)

def hollowAll : List Procedure → List Procedure
  | [] => []
  | p :: ps => hollow p :: hollowAll ps

end

theorem checkAssignments_hollow (path : ProcedurePath) (bound : Option Nat)
    (assignments : List Assignment) :
    checkAssignments path bound (assignments.map Assignment.hollow) =
      checkAssignments path bound assignments := by
  induction assignments with
  | nil => rfl
  | cons a rest ih =>
    obtain ⟨field, value⟩ := a
    cases value <;> simp only [List.map_cons, checkAssignments, Assignment.hollow, Value.hollow, ih]

mutual

theorem validate_hollow (path : ProcedurePath) (bound : Option Nat) :
    ∀ procedure : Procedure, validate path bound procedure.hollow = validate path bound procedure
  | .node source searchFor _ _ _ assignments children => by
    simp only [hollow, validate, checkAssignments_hollow,
      validateAll_hollow path (groupBound searchFor) 0 children]

theorem validateAll_hollow (path : ProcedurePath) (bound : Option Nat) (index : Nat) :
    ∀ procedures : List Procedure,
      validateAll path bound index (hollowAll procedures) = validateAll path bound index procedures
  | [] => rfl
  | p :: ps => by
    simp only [hollowAll, validateAll, validate_hollow (path ++ [index]) bound p,
      validateAll_hollow path bound (index + 1) ps]

end

/-- The strings in assigned values, as far as they are among the given ones, refer to no group above
the last one of the matches that they are expanded with. -/
def Bounded (strings : Value → List String) (procedure : Procedure) : Prop :=
  ∀ groups, groupBound procedure.searchFor = some groups → ∀ a ∈ procedure.assignments,
    ∀ template ∈ strings a.value, ∀ group ∈ Template.references template, group ≤ groups

theorem bounded_templates_iff (procedure : Procedure) :
    procedure.Bounded Value.templates ↔
      procedure.Bounded (fun value => value.hollow.templates) ∧ procedure.Bounded Value.nested := by
  constructor
  · intro bounded
    constructor
    · intro groups known a assigned template mem
      refine bounded groups known a assigned template ?_
      exact a.value.templates_eq ▸ List.mem_append_left _ mem
    · intro groups known a assigned template mem
      refine bounded groups known a assigned template ?_
      exact a.value.templates_eq ▸ List.mem_append_right _ mem
  · rintro ⟨outer, inner⟩ groups known a assigned template mem
    rw [a.value.templates_eq] at mem
    cases List.mem_append.1 mem with
    | inl mem => exact outer groups known a assigned template mem
    | inr mem => exact inner groups known a assigned template mem

/-- What is checked of assigned values are the strings that are not in arrays. -/
theorem WellFormed.bounded {last : Option Nat} {procedure : Procedure}
    (wellFormed : procedure.WellFormed last) :
    procedure.Bounded fun value => value.hollow.templates := by
  intro groups known a assigned template mem
  have string : a.value = .string template := by
    cases held : a.value with
    | string text =>
      rw [held] at mem
      exact congrArg Value.string (List.mem_singleton.1 mem).symm
    | _ =>
      rw [held] at mem
      cases mem
  exact wellFormed.assignments a assigned template string groups known

mutual

/-- All below a well-formed procedure is well-formed, for the matches of what is above it. -/
theorem wellFormed_of_mem_nodes {last : Option Nat} {node : Procedure} :
    ∀ procedure : Procedure, procedure.WellFormed last → node ∈ procedure.nodes →
      ∃ last, node.WellFormed last
  | .node _ _ _ _ _ _ children, wellFormed, mem => by
    cases List.mem_cons.1 mem with
    | inl itself => exact ⟨last, itself ▸ wellFormed⟩
    | inr below => exact wellFormed_of_mem_nodesAll children wellFormed.children below

theorem wellFormed_of_mem_nodesAll {last : Option Nat} {node : Procedure} :
    ∀ procedures : List Procedure, (∀ procedure ∈ procedures, procedure.WellFormed last) →
      node ∈ nodesAll procedures → ∃ last, node.WellFormed last
  | p :: ps, wellFormed, mem => by
    obtain ⟨first, others⟩ := List.forall_mem_cons.1 wellFormed
    cases List.mem_append.1 mem with
    | inl here => exact wellFormed_of_mem_nodes p first here
    | inr there => exact wellFormed_of_mem_nodesAll ps others there

end

end Procedure

namespace Definition

/-- The definition with all arrays emptied that its procedures assign. -/
def hollow (d : Definition) : Definition :=
  { d with procedures := Procedure.hollowAll d.procedures }

/-- In all its procedures the given strings of assigned values are in bounds. -/
def Bounded (d : Definition) (strings : Value → List String) : Prop :=
  ∀ node ∈ Procedure.nodesAll d.procedures, node.Bounded strings

theorem validate_hollow (d : Definition) : d.hollow.validate = d.validate := by
  simp only [validate, hollow, Procedure.validateAll_hollow]

/-- The checks of a definition come to the same whatever is in the arrays that it assigns. So of a
definition that they accept the strings outside of arrays are in bounds, and all that are expanded
are so just if those in arrays happen to be. -/
theorem arrays_unchecked (d : Definition) :
    d.hollow.validate = d.validate ∧
      ∀ fileName, d.validate = .ok fileName →
        d.Bounded (fun value => value.hollow.templates) ∧
          (d.Bounded Value.templates ↔ d.Bounded Value.nested) := by
  refine ⟨d.validate_hollow, fun fileName accepted => ?_⟩
  have valid := (d.validate_eq_ok_iff fileName).1 accepted
  have outer : d.Bounded fun value => value.hollow.templates := by
    intro node mem
    obtain ⟨last, wellFormed⟩ := Procedure.wellFormed_of_mem_nodesAll _ valid.procedures mem
    exact wellFormed.bounded
  refine ⟨outer, fun bounded node mem => ?_, fun inner node mem => ?_⟩
  · exact (node.bounded_templates_iff.1 (bounded node mem)).2
  · exact node.bounded_templates_iff.2 ⟨outer node mem, inner node mem⟩

end Definition

/-- Films with an icon that is named for a group that their titles do not have. -/
def iconFilms : Definition where
  name := "films"
  targetType := "movie"
  fileName := "(.+)\\.mkv"
  procedures := [
    .node "$1.nfo" "Title: (.+)" false false false [⟨.icon, .array [.string "$2.png"]⟩] []]

/-- A definition is accepted although a template in it refers to a group that no match has. -/
theorem iconFilms_accepted :
    iconFilms.validate.isOk = true ∧ ¬iconFilms.Bounded Value.templates := by
  refine ⟨by decide +kernel, fun bounded => ?_⟩
  have known : Procedure.groupBound "Title: (.+)" = some 1 := by decide +kernel
  have referred : 2 ∈ Template.references "$2.png" := by decide
  have within := bounded _ (.head _) 1 known _ (.head _) "$2.png" (.head _) 2 referred
  omega

end Gleaner
