import Gleaner.Proofs.Validation

set_option autoImplicit false

/-!
What can be wrong with the procedures of a definition, and in which order. Each procedure has its
checks, and what they find at all depths is one list in the order of the document. Main statements:
`Procedure.mem_offencesAll` and `Procedure.offencesAll_sorted`.
-/
namespace Gleaner

/-- What can be wrong with a template. -/
inductive Fault where
  | blank
  /-- The highest group that is referred to, and the last one that there is. -/
  | beyond (group available : Nat)

def Fault.text (part : TemplatePart) : Fault → String
  | .blank => "empty " ++ part.name
  | .beyond group available =>
      part.name ++ " references $" ++ toString group ++ " but only " ++ toString available ++
        " capture group(s) are available"

/-- A fault that a check of a procedure finds. -/
structure Offence where
  path : ProcedurePath
  /-- How many checks of the procedure come before. -/
  check : Nat
  part : TemplatePart
  fault : Fault

namespace Offence

def error (o : Offence) : EngineError :=
  match o.fault with
  | .blank => .emptyTemplate o.path o.part
  | .beyond group available => .missingGroup o.path o.part group available

/-- The order of the document. A procedure comes before all that is below it, as its path is the
start of theirs, and what is below a procedure comes before its next sibling. -/
def Before (a b : Offence) : Prop :=
  a.path < b.path ∨ a.path = b.path ∧ a.check < b.check

theorem Before.asymm {a b : Offence} (before : a.Before b) : ¬b.Before a := by
  rintro (less | ⟨same, fewer⟩)
  · rcases before with greater | ⟨same, -⟩
    · exact List.lt_asymm greater less
    · exact List.lt_irrefl _ (same ▸ less)
  · rcases before with greater | ⟨-, more⟩
    · exact List.lt_irrefl _ (same ▸ greater)
    · omega

theorem error_kind (o : Offence) : o.error.kind = .invalidDefinition := by
  obtain ⟨path, check, part, fault⟩ := o
  cases fault <;> rfl

theorem error_message (o : Offence) :
    o.error.message =
      "invalid scraper definition: " ++ o.path.text ++ ": " ++ o.fault.text o.part := by
  obtain ⟨path, check, part, fault⟩ := o
  cases fault with
  | blank =>
    have words : ": empty " = ": " ++ "empty " := by decide
    change "invalid scraper definition: " ++ (path.text ++ ": empty " ++ part.name) =
      "invalid scraper definition: " ++ path.text ++ ": " ++ ("empty " ++ part.name)
    simp only [words, String.append_assoc]
  | beyond group available =>
    change "invalid scraper definition: " ++ (path.text ++ ": " ++ part.name ++ " references $" ++
        toString group ++ " but only " ++ toString available ++
          " capture group(s) are available") =
      "invalid scraper definition: " ++ path.text ++ ": " ++ (part.name ++ " references $" ++
        toString group ++ " but only " ++ toString available ++
          " capture group(s) are available")
    simp only [String.append_assoc]

end Offence

namespace Procedure

/-- A path leads from siblings, in matches with the given last group, to a procedure, and there to
the last group of the matches that this procedure is run in. -/
inductive Leads : Option Nat → List Procedure → ProcedurePath → Option Nat → Procedure → Prop
  | root {last : Option Nat} {siblings : List Procedure} {index : Nat} {procedure : Procedure}
      (found : siblings[index]? = some procedure) : Leads last siblings [index] last procedure
  | child {last last' : Option Nat} {siblings : List Procedure} {index : Nat}
      {path : ProcedurePath} {parent procedure : Procedure}
      (found : siblings[index]? = some parent)
      (rest : Leads (groupBound parent.searchFor) parent.children path last' procedure) :
      Leads last siblings (index :: path) last' procedure

/-- The fault of a template of which nothing is left once it is trimmed. -/
def blank? (template : String) : Option Fault :=
  if Text.trim template = "" then some .blank else none

/-- The fault of a template that refers to groups beyond the last one, as far as that is known. -/
def beyond? (last : Option Nat) (template : String) : Option Fault :=
  match last, Template.highestReference? template with
  | some available, some group =>
      if available < group then some (.beyond group available) else none
  | _, _ => none

/-- The checks of a procedure in itself, in the order of the document, and what each finds. -/
def checks (last : Option Nat) (procedure : Procedure) : List (TemplatePart × Option Fault) :=
  (.source, blank? procedure.source) :: (.source, beyond? last procedure.source) ::
    (.searchFor, blank? procedure.searchFor) :: (.searchFor, beyond? last procedure.searchFor) ::
      procedure.assignments.map fun a =>
        (.assignment a.field, a.value.string?.bind (beyond? (groupBound procedure.searchFor)))

/-- What checks find, the first of which has the given number. -/
def offencesOf (path : ProcedurePath) (number : Nat) :
    List (TemplatePart × Option Fault) → List Offence
  | [] => []
  | (_, none) :: rest => offencesOf path (number + 1) rest
  | (part, some fault) :: rest => ⟨path, number, part, fault⟩ :: offencesOf path (number + 1) rest

mutual

/-- All that is wrong with a procedure and with what is below it. -/
def offences (path : ProcedurePath) (last : Option Nat) : Procedure → List Offence
  | .node source searchFor repeats askUser importing assignments children =>
      offencesOf path 0
          (checks last (.node source searchFor repeats askUser importing assignments children)) ++
        offencesAll path (groupBound searchFor) 0 children

def offencesAll (path : ProcedurePath) (last : Option Nat) (index : Nat) :
    List Procedure → List Offence
  | [] => []
  | p :: ps => offences (path ++ [index]) last p ++ offencesAll path last (index + 1) ps

end

theorem mem_offencesOf (path : ProcedurePath) (number : Nat)
    (found : List (TemplatePart × Option Fault)) (o : Offence) :
    o ∈ offencesOf path number found ↔
      o.path = path ∧ ∃ i, o.check = number + i ∧ found[i]? = some (o.part, some o.fault) := by
  induction found generalizing number with
  | nil =>
    refine iff_of_false List.not_mem_nil ?_
    rintro ⟨-, i, -, there⟩
    cases there
  | cons first rest ih =>
    obtain ⟨part, fault⟩ := first
    have later : o ∈ offencesOf path (number + 1) rest ↔ o.path = path ∧
        ∃ i, o.check = number + (i + 1) ∧
          ((part, fault) :: rest)[i + 1]? = some (o.part, some o.fault) := by
      simp only [ih, List.getElem?_cons_succ, Nat.add_assoc, Nat.add_comm 1]
    cases fault with
    | none =>
      rw [offencesOf, later]
      refine and_congr_right fun _ => ⟨?_, ?_⟩
      · rintro ⟨i, place, there⟩
        exact ⟨i + 1, place, there⟩
      · rintro ⟨i, place, there⟩
        cases i with
        | zero => cases there
        | succ i => exact ⟨i, place, there⟩
    | some fault =>
      rw [offencesOf, List.mem_cons, later]
      constructor
      · rintro (rfl | ⟨same, i, place, there⟩)
        · exact ⟨rfl, 0, rfl, rfl⟩
        · exact ⟨same, i + 1, place, there⟩
      · rintro ⟨same, i, place, there⟩
        cases i with
        | succ i => exact Or.inr ⟨same, i, place, there⟩
        | zero =>
          left
          obtain ⟨path', check, part', fault'⟩ := o
          cases there
          cases same
          cases place
          rfl

theorem offencesOf_sorted (path : ProcedurePath) (number : Nat)
    (found : List (TemplatePart × Option Fault)) :
    (offencesOf path number found).Pairwise Offence.Before := by
  induction found generalizing number with
  | nil => exact .nil
  | cons first rest ih =>
    obtain ⟨part, fault⟩ := first
    cases fault with
    | none => exact ih (number + 1)
    | some fault =>
      refine List.pairwise_cons.2 ⟨fun o mem => ?_, ih (number + 1)⟩
      obtain ⟨same, i, place, -⟩ := (mem_offencesOf path (number + 1) rest o).1 mem
      have later : number < o.check := by omega
      exact Or.inr ⟨same.symm, later⟩

/-- The checks of one procedure find the offence. -/
def Finds (path : ProcedurePath) (last : Option Nat) (procedure : Procedure) (o : Offence) : Prop :=
  o.path = path ∧ (checks last procedure)[o.check]? = some (o.part, some o.fault)

theorem mem_offencesOf_checks (path : ProcedurePath) (last : Option Nat) (procedure : Procedure)
    (o : Offence) :
    o ∈ offencesOf path 0 (checks last procedure) ↔ Finds path last procedure o := by
  rw [mem_offencesOf, Finds]
  simp only [Nat.zero_add, exists_eq_left']

variable {last last' : Option Nat} {p node : Procedure} {ps : List Procedure} {path : ProcedurePath}

theorem Leads.exists_cons (leads : Leads last ps path last' node) : ∃ i tail, path = i :: tail := by
  cases leads with
  | root found => exact ⟨_, _, rfl⟩
  | child found rest => exact ⟨_, _, rfl⟩

theorem leads_zero_iff :
    Leads last (p :: ps) (0 :: path) last' node ↔
      (path = [] ∧ last' = last ∧ node = p) ∨
        Leads (groupBound p.searchFor) p.children path last' node := by
  constructor
  · intro leads
    cases leads with
    | root found =>
      cases found
      exact Or.inl ⟨rfl, rfl, rfl⟩
    | child found rest =>
      cases found
      exact Or.inr rest
  · rintro (⟨rfl, rfl, rfl⟩ | rest)
    · exact .root rfl
    · exact .child rfl rest

theorem leads_succ_iff {i : Nat} :
    Leads last (p :: ps) ((i + 1) :: path) last' node ↔ Leads last ps (i :: path) last' node := by
  constructor
  · intro leads
    cases leads with
    | root found => exact .root found
    | child found rest => exact .child found rest
  · intro leads
    cases leads with
    | root found => exact .root found
    | child found rest => exact .child found rest

mutual

theorem mem_offences (path : ProcedurePath) (last : Option Nat) (o : Offence) :
    ∀ procedure : Procedure,
      o ∈ offences path last procedure ↔
        Finds path last procedure o ∨
          ∃ tail last' node,
            Leads (groupBound procedure.searchFor) procedure.children tail last' node ∧
              Finds (path ++ tail) last' node o
  | .node source searchFor repeats askUser importing assignments children => by
    rw [offences, List.mem_append, mem_offencesOf_checks,
      mem_offencesAll path (groupBound searchFor) 0 o children]
    refine or_congr_right ⟨?_, ?_⟩
    · rintro ⟨i, tail, last', node, leads, finds⟩
      rw [Nat.zero_add] at finds
      exact ⟨i :: tail, last', node, leads, finds⟩
    · rintro ⟨tail, last', node, leads, finds⟩
      obtain ⟨i, tail, rfl⟩ := leads.exists_cons
      rw [← Nat.zero_add i] at finds
      exact ⟨i, tail, last', node, leads, finds⟩

theorem mem_offencesAll (path : ProcedurePath) (last : Option Nat) (index : Nat) (o : Offence) :
    ∀ procedures : List Procedure,
      o ∈ offencesAll path last index procedures ↔
        ∃ i tail last' node, Leads last procedures (i :: tail) last' node ∧
          Finds (path ++ (index + i) :: tail) last' node o
  | [] => by
    refine iff_of_false List.not_mem_nil ?_
    rintro ⟨i, tail, last', node, leads, -⟩
    cases leads with
    | root found => cases found
    | child found rest => cases found
  | p :: ps => by
    rw [offencesAll, List.mem_append, mem_offences (path ++ [index]) last o p,
      mem_offencesAll path last (index + 1) o ps]
    constructor
    · rintro ((finds | ⟨tail, last', node, leads, finds⟩) | ⟨i, tail, last', node, leads, finds⟩)
      · exact ⟨0, [], last, p, .root rfl, finds⟩
      · rw [List.append_assoc] at finds
        exact ⟨0, tail, last', node, .child rfl leads, finds⟩
      · rw [Nat.add_assoc, Nat.add_comm 1] at finds
        exact ⟨i + 1, tail, last', node, leads_succ_iff.2 leads, finds⟩
    · rintro ⟨i, tail, last', node, leads, finds⟩
      cases i with
      | zero =>
        left
        rcases leads_zero_iff.1 leads with ⟨rfl, rfl, rfl⟩ | below
        · exact Or.inl finds
        · refine Or.inr ⟨tail, last', node, below, ?_⟩
          rw [List.append_assoc]
          exact finds
      | succ i =>
        refine Or.inr ⟨i, tail, last', node, leads_succ_iff.1 leads, ?_⟩
        rw [Nat.add_assoc, Nat.add_comm 1]
        exact finds

end

theorem path_of_mem_offences {o : Offence} (mem : o ∈ offences path last p) :
    ∃ tail, o.path = path ++ tail := by
  rcases (mem_offences path last o p).1 mem with ⟨same, -⟩ | ⟨tail, _, _, -, same, -⟩
  · exact ⟨[], by rw [same, List.append_nil]⟩
  · exact ⟨tail, same⟩

theorem path_of_mem_offencesAll {index : Nat} {o : Offence}
    (mem : o ∈ offencesAll path last index ps) :
    ∃ i tail, o.path = path ++ (index + i) :: tail := by
  obtain ⟨i, tail, _, _, -, same, -⟩ := (mem_offencesAll path last index o ps).1 mem
  exact ⟨i, tail, same⟩

mutual

theorem offences_sorted (path : ProcedurePath) (last : Option Nat) :
    ∀ procedure : Procedure, (offences path last procedure).Pairwise Offence.Before
  | .node source searchFor repeats askUser importing assignments children => by
    rw [offences, List.pairwise_append]
    refine ⟨offencesOf_sorted path 0 _, offencesAll_sorted path _ 0 children,
      fun a own b below => ?_⟩
    obtain ⟨here, -⟩ := (mem_offencesOf path 0 _ a).1 own
    obtain ⟨i, tail, there⟩ := path_of_mem_offencesAll below
    have above : path ++ [] < path ++ (0 + i) :: tail :=
      List.append_left_lt (List.nil_lt_cons _ _)
    rw [List.append_nil] at above
    left
    rw [here, there]
    exact above

/-- Offences are found in the order of the document. -/
theorem offencesAll_sorted (path : ProcedurePath) (last : Option Nat) (index : Nat) :
    ∀ procedures : List Procedure,
      (offencesAll path last index procedures).Pairwise Offence.Before
  | [] => .nil
  | p :: ps => by
    rw [offencesAll, List.pairwise_append]
    refine ⟨offences_sorted (path ++ [index]) last p, offencesAll_sorted path last (index + 1) ps,
      fun a first b later => ?_⟩
    obtain ⟨tail, here⟩ := path_of_mem_offences first
    obtain ⟨i, tail', there⟩ := path_of_mem_offencesAll later
    -- The paths part at the index of the sibling, whatever is below.
    have less : index < index + 1 + i := by omega
    left
    rw [here, there, List.append_assoc]
    exact List.append_left_lt (List.cons_lt_cons_iff.2 (Or.inl less))

end

end Procedure

end Gleaner
