import Gleaner.Proofs.Writing
import Gleaner.Procedure.Walk

set_option autoImplicit false

/-!
Evaluations of procedures as trees: each names the procedure, the captures it was given, and either
why it failed or what was evaluated below each of its matches. Main statement: a walk tells the
evaluations in order.
-/
namespace Gleaner

variable {m : Type → Type} [Monad m]

/-- Why a procedure failed on its own account. -/
inductive Failure where
  | unreadable (reference reason : String)
  | invalidPattern (pattern : String)
  | noMatches (pattern reference : String)

def Failure.warning : Failure → Warning
  | .unreadable reference reason => .unreadable reference reason
  | .invalidPattern pattern => .invalidPattern pattern
  | .noMatches pattern reference => .noMatches pattern reference

@[simp] theorem Failure.isFailure_warning (failure : Failure) :
    failure.warning.isFailure = true := by
  cases failure <;> rfl

inductive Evaluation where
  | failed (procedure : Procedure) (given : Captures) (failure : Failure)
  | matched (procedure : Procedure) (given : Captures)
      (branches : List (Captures × List Evaluation))

namespace Procedure

/-- The selected matches of a procedure: its source is read, its expanded pattern compiled, and at
least one match selected; else the procedure fails. -/
def find (access : Access m) (given : Captures) (procedure : Procedure) :
    m (Except Failure (List Captures)) := do
  let reference := (Template.expand procedure.source given).text
  match ← access.resolve reference with
  | .error e => pure (.error (.unreadable reference e.message))
  | .ok text => do
      let pattern := (Template.expand procedure.searchFor given).text
      match ← access.compile pattern with
      | none => pure (.error (.invalidPattern pattern))
      | some regex => do
          let found ← select access procedure.repeats procedure.askUser reference pattern regex text
          match found with
          | [] => pure (.error (.noMatches pattern reference))
          | selected => pure (.ok selected)

mutual

/-- Evaluates a procedure, and its children in each of its matches. -/
def evaluate (access : Access m) (given : Captures) : Procedure → m Evaluation
  | .node source searchFor repeats askUser importing assignments children => do
      let procedure := .node source searchFor repeats askUser importing assignments children
      match ← find access given procedure with
      | .error failure => pure (.failed procedure given failure)
      | .ok selected => do
          let branches ← selected.mapM fun captures => do
            let below ← evaluateAll access captures children
            pure (captures, below)
          pure (.matched procedure given branches)

/-- Evaluates siblings in order. -/
def evaluateAll (access : Access m) (given : Captures) : List Procedure → m (List Evaluation)
  | [] => pure []
  | p :: ps => do
      let first ← evaluate access given p
      let others ← evaluateAll access given ps
      pure (first :: others)

end

/-- The warnings of the templates that were expanded to find the matches. -/
def expansionSteps (procedure : Procedure) (given : Captures) :
    Except Failure (List Captures) → List Step
  | .error (.unreadable _ _) => (expandTemplate procedure.source given).2.map Step.warned
  | _ => (expandTemplate procedure.source given).2.map Step.warned ++
      (expandTemplate procedure.searchFor given).2.map Step.warned

end Procedure

namespace Evaluation

mutual

/-- What a walk tells of an evaluation. -/
def walk : Evaluation → Walk
  | failed procedure given failure =>
      Walk.after (procedure.expansionSteps given (.error failure)) (Walk.failed failure.warning)
  | matched procedure given branches =>
      Walk.after (procedure.expansionSteps given (.ok [])) (walkBranches procedure branches)

def walkBranches (procedure : Procedure) : List (Captures × List Evaluation) → Walk
  | [] => Walk.empty
  | (captures, below) :: rest =>
      (Walk.after [.visited procedure captures] (walkAll below)).append
        (walkBranches procedure rest)

def walkAll : List Evaluation → Walk
  | [] => Walk.empty
  | e :: es => e.walk.append (walkAll es)

end

mutual

/-- How many evaluations failed on their own account. -/
def failures : Evaluation → Nat
  | failed _ _ _ => 1
  | matched _ _ branches => failuresBranches branches

def failuresBranches : List (Captures × List Evaluation) → Nat
  | [] => 0
  | (_, below) :: rest => failuresAll below + failuresBranches rest

def failuresAll : List Evaluation → Nat
  | [] => 0
  | e :: es => e.failures + failuresAll es

end

mutual

/-- The visits of an evaluation: none if it failed, else for each of the matches in order the
visit itself and then those of all children. -/
def visits : Evaluation → List Visit
  | failed _ _ _ => []
  | matched procedure _ branches => visitsBranches procedure branches

def visitsBranches (procedure : Procedure) : List (Captures × List Evaluation) → List Visit
  | [] => []
  | (captures, below) :: rest =>
      ⟨procedure, captures⟩ :: visitsAll below ++ visitsBranches procedure rest

def visitsAll : List Evaluation → List Visit
  | [] => []
  | e :: es => e.visits ++ visitsAll es

end

end Evaluation

/-- The step tells that a procedure failed. -/
def Step.isFailure : Step → Bool
  | .warned warning => warning.isFailure
  | .visited _ _ => false

theorem isFailure_malformed {template : String} {captures : Captures} {warning : Warning}
    (warned : warning ∈ (expandTemplate template captures).2) : warning.isFailure = false := by
  obtain ⟨offset, -, rfl⟩ := List.mem_map.1 warned
  rfl

theorem Procedure.mem_expansionSteps {procedure : Procedure} {given : Captures}
    {found : Except Failure (List Captures)} {step : Step}
    (taken : step ∈ procedure.expansionSteps given found) :
    ∃ warning, step = .warned warning ∧ warning.isFailure = false := by
  have malformed : ∀ template, step ∈ (expandTemplate template given).2.map Step.warned →
      ∃ warning, step = .warned warning ∧ warning.isFailure = false := by
    intro template warned
    obtain ⟨warning, mem, rfl⟩ := List.mem_map.1 warned
    exact ⟨warning, rfl, isFailure_malformed mem⟩
  unfold expansionSteps at taken
  split at taken
  · exact malformed _ taken
  · exact (List.mem_append.1 taken).elim (malformed _) (malformed _)

/-- What a walk tells: how many procedures failed, and the visits in order. -/
structure Walk.Tells (walk : Walk) (failures : Nat) (visits : List Visit) : Prop where
  succeeded : walk.succeeded = (failures == 0)
  failures : walk.steps.countP Step.isFailure = failures
  visits : walk.steps.filterMap Step.visit? = visits

namespace Walk.Tells

variable {first second walk : Walk} {f f' : Nat} {v v' : List Visit}

theorem empty : Walk.empty.Tells 0 [] := ⟨rfl, rfl, rfl⟩

theorem failed (failure : Failure) : (Walk.failed failure.warning).Tells 1 [] where
  succeeded := rfl
  failures := by simp [Walk.failed, Step.isFailure]
  visits := rfl

theorem append (one : first.Tells f v) (other : second.Tells f' v') :
    (first.append second).Tells (f + f') (v ++ v') where
  succeeded := by
    simp only [Walk.append, one.succeeded, other.succeeded]
    cases f <;> cases f' <;> rfl
  failures := by simp only [Walk.append, List.countP_append, one.failures, other.failures]
  visits := by simp only [Walk.append, List.filterMap_append, one.visits, other.visits]

theorem visited (below : walk.Tells f v) (procedure : Procedure) (captures : Captures) :
    (Walk.after [.visited procedure captures] walk).Tells f (⟨procedure, captures⟩ :: v) where
  succeeded := below.succeeded
  failures := by simp [Walk.after, Step.isFailure, below.failures]
  visits := by simp [Walk.after, Step.visit?, below.visits]

theorem expanded (tells : walk.Tells f v) (procedure : Procedure) (given : Captures)
    (found : Except Failure (List Captures)) :
    (Walk.after (procedure.expansionSteps given found) walk).Tells f v where
  succeeded := tells.succeeded
  failures := by
    -- Malformed references are warned of, and are no failures.
    have none : (procedure.expansionSteps given found).countP Step.isFailure = 0 := by
      refine List.countP_eq_zero.2 fun step taken => ?_
      obtain ⟨warning, rfl, mild⟩ := Procedure.mem_expansionSteps taken
      simp [Step.isFailure, mild]
    rw [Walk.after, List.countP_append, none, tells.failures, Nat.zero_add]
  visits := by
    have none : (procedure.expansionSteps given found).filterMap Step.visit? = [] := by
      refine List.filterMap_eq_nil_iff.2 fun step taken => ?_
      obtain ⟨warning, rfl, -⟩ := Procedure.mem_expansionSteps taken
      rfl
    rw [Walk.after, List.filterMap_append, none, tells.visits, List.nil_append]

end Walk.Tells

namespace Evaluation

mutual

theorem walk_tells : ∀ e : Evaluation, e.walk.Tells e.failures e.visits
  | failed procedure given failure => by
    simp only [walk, failures, visits]
    exact (Walk.Tells.failed failure).expanded procedure given _
  | matched procedure given branches => by
    simp only [walk, failures, visits]
    exact (walkBranches_tells procedure branches).expanded procedure given _

theorem walkBranches_tells (procedure : Procedure) :
    ∀ branches : List (Captures × List Evaluation),
      (walkBranches procedure branches).Tells (failuresBranches branches)
        (visitsBranches procedure branches)
  | [] => .empty
  | (captures, below) :: rest => by
    simp only [walkBranches, failuresBranches, visitsBranches]
    exact ((walkAll_tells below).visited procedure captures).append
      (walkBranches_tells procedure rest)

/-- A walk succeeds if nothing failed; it tells each failure once, and the visits in order. -/
theorem walkAll_tells : ∀ evaluations : List Evaluation,
    (walkAll evaluations).Tells (failuresAll evaluations) (visitsAll evaluations)
  | [] => .empty
  | e :: es => by
    simp only [walkAll, failuresAll, visitsAll]
    exact (walk_tells e).append (walkAll_tells es)

end

end Evaluation

namespace Procedure

variable [LawfulMonad m] {access : Access m}

theorem search_eq (given : Captures) (procedure : Procedure) :
    search access given procedure =
      (fun found => (procedure.expansionSteps given found, found.mapError Failure.warning)) <$>
        find access given procedure := by
  unfold search find
  simp only [expandTemplate, map_eq_pure_bind, bind_assoc]
  refine bind_congr fun found => ?_
  cases found with
  | error e => simp only [pure_bind]; rfl
  | ok text =>
    simp only [bind_assoc]
    refine bind_congr fun compiled => ?_
    cases compiled with
    | none => simp only [pure_bind]; rfl
    | some regex =>
      simp only [bind_assoc]
      refine bind_congr fun selected => ?_
      cases selected with
      | nil => simp only [pure_bind]; rfl
      | cons first rest => simp only [pure_bind]; rfl

theorem visitEach_eq (procedure : Procedure) {inner : Captures → m Walk}
    {inner' : Captures → m (List Evaluation)}
    (below : ∀ captures, inner captures = Evaluation.walkAll <$> inner' captures)
    (selected : List Captures) :
    visitEach procedure inner selected =
      Evaluation.walkBranches procedure <$> selected.mapM (fun captures => do
        let below ← inner' captures
        pure (captures, below)) := by
  induction selected with
  | nil => simp only [visitEach, List.mapM_nil, map_pure, Evaluation.walkBranches]
  | cons captures rest ih =>
    simp only [visitEach, List.mapM_cons, ih, below, map_eq_pure_bind, bind_assoc, pure_bind,
      Evaluation.walkBranches]

mutual

theorem walk_eq (given : Captures) : ∀ procedure : Procedure,
    walk access given procedure = Evaluation.walk <$> evaluate access given procedure
  | .node source searchFor repeats askUser importing assignments children => by
    simp only [walk, evaluate, search_eq, map_eq_pure_bind, bind_assoc, pure_bind]
    refine bind_congr fun found => ?_
    cases found with
    | error failure =>
      simp only [pure_bind, Evaluation.walk]
      rfl
    | ok selected =>
      have mapped : (Except.ok selected).mapError Failure.warning = .ok selected := rfl
      simp only [mapped]
      rw [visitEach_eq _ (fun captures => walkAll_eq captures children)]
      simp only [map_eq_pure_bind, bind_assoc, pure_bind, Evaluation.walk]
      rfl

/-- A walk tells what was evaluated. -/
theorem walkAll_eq (given : Captures) : ∀ procedures : List Procedure,
    walkAll access given procedures =
      Evaluation.walkAll <$> evaluateAll access given procedures
  | [] => by simp only [walkAll, evaluateAll, map_pure, Evaluation.walkAll]
  | p :: ps => by
    simp only [walkAll, evaluateAll, walk_eq given p, walkAll_eq given ps, map_eq_pure_bind,
      bind_assoc, pure_bind, Evaluation.walkAll]

end

end Procedure

end Gleaner
