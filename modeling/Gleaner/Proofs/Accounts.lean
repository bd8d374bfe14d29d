import Gleaner.Proofs.Items
import Gleaner.Proofs.Limiting
import Gleaner.Proofs.Prompting
import Gleaner.Proofs.Templates

set_option autoImplicit false

/-!
Accounts of evaluations. An account tells of every procedure that was evaluated what was searched,
what an operator answered, and in which matches the evaluation went on. Main statement: what is left
of the accounts when this is forgotten are the evaluations.
-/
namespace Gleaner

/-- A search of a source that could be read, for a pattern that compiles. -/
structure Search where
  reference : String
  text : String
  pattern : String
  regex : Regex
  /-- What an operator chose, if he was asked and did choose. -/
  answer : Option (List Captures)

/-- The matches that are kept. -/
def Search.selected (search : Search) (repeats : Bool) : List Captures :=
  Procedure.keep repeats (search.answer.getD (search.regex.all search.text))

inductive Account where
  /-- There was no search. -/
  | failed (procedure : Procedure) (given : Captures) (failure : Failure)
  /-- In each of the branches the procedure was visited and its children evaluated. -/
  | searched (procedure : Procedure) (given : Captures) (search : Search)
      (branches : List (Captures × List Account))

namespace Account

def procedure : Account → Procedure
  | failed procedure _ _ => procedure
  | searched procedure _ _ _ => procedure

/-- The captures that the procedure was given. -/
def given : Account → Captures
  | failed _ given _ => given
  | searched _ given _ _ => given

mutual

/-- The evaluation that an account tells of; it failed if there is no branch. -/
def evaluation : Account → Evaluation
  | failed procedure given failure => .failed procedure given failure
  | searched procedure given search branches =>
      if branches.isEmpty then
        .failed procedure given (.noMatches search.pattern search.reference)
      else .matched procedure given (evaluationBranches branches)

def evaluationBranches : List (Captures × List Account) → List (Captures × List Evaluation)
  | [] => []
  | (captures, below) :: rest => (captures, evaluationAll below) :: evaluationBranches rest

def evaluationAll : List Account → List Evaluation
  | [] => []
  | a :: as => a.evaluation :: evaluationAll as

end

theorem evaluationBranches_eq (branches : List (Captures × List Account)) :
    evaluationBranches branches = branches.map (Prod.map id evaluationAll) := by
  induction branches with
  | nil => rfl
  | cons branch rest ih => rw [evaluationBranches, ih, List.map_cons, Prod.map_apply, id_eq]

mutual

/-- Which procedures were evaluated, each with the path to it, in order. -/
def evaluated (path : ProcedurePath) : Account → List (ProcedurePath × Procedure)
  | failed procedure _ _ => [(path, procedure)]
  | searched procedure _ _ branches => (path, procedure) :: evaluatedBranches path branches

def evaluatedBranches (path : ProcedurePath) :
    List (Captures × List Account) → List (ProcedurePath × Procedure)
  | [] => []
  | (_, below) :: rest => evaluatedAll path 0 below ++ evaluatedBranches path rest

/-- Those evaluated among siblings, the first of them at the given index. -/
def evaluatedAll (path : ProcedurePath) (index : Nat) :
    List Account → List (ProcedurePath × Procedure)
  | [] => []
  | a :: as => a.evaluated (path ++ [index]) ++ evaluatedAll path (index + 1) as

end

end Account

namespace Procedure

mutual

/-- A procedure and all below it, each with the path to it. -/
def placed (path : ProcedurePath) : Procedure → List (ProcedurePath × Procedure)
  | .node source searchFor repeats askUser importing assignments children =>
      (path, .node source searchFor repeats askUser importing assignments children) ::
        placedAll path 0 children

/-- Siblings and all below them, the first sibling at the given index. -/
def placedAll (path : ProcedurePath) (index : Nat) :
    List Procedure → List (ProcedurePath × Procedure)
  | [] => []
  | p :: ps => placed (path ++ [index]) p ++ placedAll path (index + 1) ps

end

mutual

theorem placed_snd (path : ProcedurePath) :
    ∀ procedure : Procedure, (placed path procedure).map Prod.snd = procedure.nodes
  | .node _ _ _ _ _ _ children => by
    rw [placed, nodes, List.map_cons, placedAll_snd path 0 children]

theorem placedAll_snd (path : ProcedurePath) (index : Nat) :
    ∀ procedures : List Procedure, (placedAll path index procedures).map Prod.snd =
      nodesAll procedures
  | [] => rfl
  | p :: ps => by
    rw [placedAll, nodesAll, List.map_append, placed_snd _ p, placedAll_snd path _ ps]

end

mutual

theorem prefix_of_mem_placed {path : ProcedurePath} {place : ProcedurePath × Procedure} :
    ∀ procedure : Procedure, place ∈ placed path procedure → path <+: place.1
  | .node _ _ _ _ _ _ children, mem => by
    rw [placed, List.mem_cons] at mem
    rcases mem with rfl | below
    · exact List.prefix_refl path
    · obtain ⟨index, -, within⟩ := prefix_of_mem_placedAll children below
      exact (List.prefix_append path [index]).trans within

theorem prefix_of_mem_placedAll {path : ProcedurePath} {first : Nat}
    {place : ProcedurePath × Procedure} :
    ∀ procedures : List Procedure, place ∈ placedAll path first procedures →
      ∃ index, first ≤ index ∧ path ++ [index] <+: place.1
  | p :: ps, mem => by
    rw [placedAll, List.mem_append] at mem
    rcases mem with here | later
    · exact ⟨first, Nat.le_refl first, prefix_of_mem_placed p here⟩
    · obtain ⟨index, after, within⟩ := prefix_of_mem_placedAll ps later
      exact ⟨index, by omega, within⟩

end

mutual

theorem placed_nodup (path : ProcedurePath) :
    ∀ procedure : Procedure, ((placed path procedure).map Prod.fst).Nodup
  | .node _ _ _ _ _ _ children => by
    rw [placed, List.map_cons, List.nodup_cons]
    refine ⟨fun mem => ?_, placedAll_nodup path 0 children⟩
    obtain ⟨place, below, same⟩ := List.mem_map.1 mem
    obtain ⟨index, -, within⟩ := prefix_of_mem_placedAll children below
    have longer : (path ++ [index]).length ≤ path.length := by
      rw [same] at within
      exact within.length_le
    rw [List.length_append, List.length_singleton] at longer
    omega

/-- Different procedures have different paths. -/
theorem placedAll_nodup (path : ProcedurePath) (first : Nat) :
    ∀ procedures : List Procedure, ((placedAll path first procedures).map Prod.fst).Nodup
  | [] => List.nodup_nil
  | p :: ps => by
    rw [placedAll, List.map_append]
    refine List.nodup_append.2 ⟨placed_nodup _ p, placedAll_nodup path _ ps, ?_⟩
    intro left inLeft right inRight same
    obtain ⟨place, here, rfl⟩ := List.mem_map.1 inLeft
    obtain ⟨place', later, rfl⟩ := List.mem_map.1 inRight
    obtain ⟨index, after, within⟩ := prefix_of_mem_placedAll ps later
    rw [← same] at within
    -- Paths below different siblings differ where the siblings do.
    have lengths : (path ++ [first]).length = (path ++ [index]).length := by
      rw [List.length_append, List.length_append]
      rfl
    have alike := (List.prefix_of_prefix_length_le (prefix_of_mem_placed p here) within
      (Nat.le_of_eq lengths)).eq_of_length lengths
    have equal : first = index := List.head_eq_of_cons_eq (List.append_cancel_left alike)
    omega

end

variable {m : Type → Type} [Monad m]

/-- What an operator chooses, if he is asked and does choose. -/
def consult (access : Access m) (repeats askUser : Bool) (reference pattern : String)
    (candidates : List Captures) : m (Option (List Captures)) :=
  match if askUser then access.prompter else none, candidates with
  | some prompter, first :: rest =>
      prompter.choose ⟨access.scraper, reference, pattern, first :: rest, repeats⟩
  | _, _ => pure none

/-- The search of a procedure, or why there is none. -/
def look (access : Access m) (given : Captures) (procedure : Procedure) :
    m (Except Failure Search) := do
  let reference := (Template.expand procedure.source given).text
  match ← access.resolve reference with
  | .error e => pure (.error (.unreadable reference e.message))
  | .ok text => do
      let pattern := (Template.expand procedure.searchFor given).text
      match ← access.compile pattern with
      | none => pure (.error (.invalidPattern pattern))
      | some regex => do
          let answer ← consult access procedure.repeats procedure.askUser reference pattern
            (regex.all text)
          pure (.ok ⟨reference, text, pattern, regex, answer⟩)

mutual

/-- Evaluates a procedure and gives an account of it. -/
def account (access : Access m) (given : Captures) : Procedure → m Account
  | .node source searchFor repeats askUser importing assignments children => do
      let procedure := .node source searchFor repeats askUser importing assignments children
      match ← look access given procedure with
      | .error failure => pure (.failed procedure given failure)
      | .ok search => do
          let branches ← (search.selected repeats).mapM fun captures => do
            let below ← accountAll access captures children
            pure (captures, below)
          pure (.searched procedure given search branches)

def accountAll (access : Access m) (given : Captures) : List Procedure → m (List Account)
  | [] => pure []
  | p :: ps => do
      let first ← account access given p
      let others ← accountAll access given ps
      pure (first :: others)

end

/-- What a search finds: the matches that are kept, if there are any. -/
def Search.found (procedure : Procedure) (search : Search) : Except Failure (List Captures) :=
  match search.selected procedure.repeats with
  | [] => .error (.noMatches search.pattern search.reference)
  | selected => .ok selected

variable [LawfulMonad m] {access : Access m}

theorem select_eq (repeats askUser : Bool) (reference pattern : String) (regex : Regex)
    (text : String) :
    select access repeats askUser reference pattern regex text =
      (fun answer => keep repeats (answer.getD (regex.all text))) <$>
        consult access repeats askUser reference pattern (regex.all text) := by
  unfold select consult
  cases (if askUser then access.prompter else none) with
  | none => rw [keep_all, map_pure, Option.getD_none]
  | some prompter =>
    unfold chooseAmong
    cases regex.all text with
    | nil =>
      rw [map_pure, Option.getD_none]
      cases repeats <;> rfl
    | cons first rest => rw [map_eq_pure_bind]

theorem find_eq (given : Captures) (procedure : Procedure) :
    find access given procedure =
      (fun looked => looked.bind (Search.found procedure)) <$> look access given procedure := by
  unfold find look
  simp only [map_eq_pure_bind, bind_assoc]
  refine bind_congr fun read => ?_
  cases read with
  | error e => simp only [pure_bind]; rfl
  | ok text =>
    simp only [bind_assoc]
    refine bind_congr fun compiled => ?_
    cases compiled with
    | none => simp only [pure_bind]; rfl
    | some regex =>
      simp only [select_eq, map_eq_pure_bind, bind_assoc, pure_bind]
      refine bind_congr fun answer => ?_
      simp only [Except.bind, Search.found, Search.selected]
      cases keep procedure.repeats (answer.getD (regex.all text)) with
      | nil => rfl
      | cons first rest => rfl

mutual

theorem evaluate_eq (given : Captures) : ∀ procedure : Procedure,
    evaluate access given procedure = Account.evaluation <$> account access given procedure
  | .node source searchFor repeats askUser importing assignments children => by
    have below := mapM_changed Account.evaluationAll
      (fun captures => evaluateAll_eq captures children)
    simp only [evaluate, account, find_eq, map_eq_pure_bind, bind_assoc, pure_bind]
    refine bind_congr fun looked => ?_
    cases looked with
    | error failure => simp only [Except.bind, pure_bind, Account.evaluation]
    | ok search =>
      have kept : search.selected repeats = search.selected (node source searchFor repeats askUser
        importing assignments children).repeats := rfl
      simp only [Except.bind, Search.found, ← kept]
      cases search.selected repeats with
      | nil => simp [Account.evaluation]
      | cons first rest =>
        simp only [below, List.mapM_cons, map_eq_pure_bind, bind_assoc, pure_bind,
          Account.evaluation, Account.evaluationBranches_eq, List.map_cons, List.isEmpty_cons,
          Bool.false_eq_true, ↓reduceIte]

/-- Forgetting the searches leaves the evaluations. -/
theorem evaluateAll_eq (given : Captures) : ∀ procedures : List Procedure,
    evaluateAll access given procedures =
      Account.evaluationAll <$> accountAll access given procedures
  | [] => by simp only [evaluateAll, accountAll, map_pure, Account.evaluationAll]
  | p :: ps => by
    simp only [evaluateAll, accountAll, evaluate_eq given p, evaluateAll_eq given ps,
      map_eq_pure_bind, bind_assoc, pure_bind, Account.evaluationAll]

end

end Procedure

end Gleaner
