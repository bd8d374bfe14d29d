import Gleaner.Procedure.Walk

set_option autoImplicit false

/-!
An interpreter of procedures that carries the record along and writes each match before it goes
on below it. Main statement: it does what writing the steps of a walk does, after the walk.
-/
namespace Gleaner

/-- What has become of an item so far. -/
structure Progress where
  record : Record
  warnings : List Warning := []

namespace Progress

/-- Puts more warnings at the end. -/
def warn (progress : Progress) (warnings : List Warning) : Progress :=
  { progress with warnings := progress.warnings ++ warnings }

/-- Writes one step. -/
def step (policy : WritePolicy) (progress : Progress) (step : Step) : Progress :=
  let written := Step.write policy progress.record step
  ⟨written.1, progress.warnings ++ written.2⟩

/-- Writes steps one after the other. -/
def steps (policy : WritePolicy) (progress : Progress) (steps : List Step) : Progress :=
  let written := Step.writeAll policy steps progress.record
  ⟨written.1, progress.warnings ++ written.2⟩

@[simp] theorem steps_nil (policy : WritePolicy) (progress : Progress) :
    progress.steps policy [] = progress := by
  simp only [steps, Step.writeAll, List.append_nil]

theorem steps_cons (policy : WritePolicy) (progress : Progress) (step : Step)
    (others : List Step) :
    progress.steps policy (step :: others) = (progress.step policy step).steps policy others := by
  simp only [steps, Step.writeAll, Progress.step, List.append_assoc]

theorem steps_append (policy : WritePolicy) (progress : Progress) (first second : List Step) :
    progress.steps policy (first ++ second) =
      (progress.steps policy first).steps policy second := by
  induction first generalizing progress with
  | nil => simp only [List.nil_append, steps_nil]
  | cons step others ih => simp only [List.cons_append, steps_cons, ih]

@[simp] theorem step_warned (policy : WritePolicy) (progress : Progress) (warning : Warning) :
    progress.step policy (.warned warning) = progress.warn [warning] := rfl

theorem steps_warned (policy : WritePolicy) (progress : Progress) (warnings : List Warning) :
    progress.steps policy (warnings.map Step.warned) = progress.warn warnings := by
  induction warnings generalizing progress with
  | nil => simp only [List.map_nil, steps_nil, warn, List.append_nil]
  | cons warning rest ih =>
    rw [List.map_cons, steps_cons, ih]
    simp only [step_warned, warn, List.append_assoc, List.singleton_append]

end Progress

/-- Writes the steps of a walk that is over. -/
def Walk.settle (policy : WritePolicy) (progress : Progress) (walk : Walk) : Bool × Progress :=
  (walk.succeeded, progress.steps policy walk.steps)

namespace Procedure

variable {m : Type → Type} [Monad m]

/-- Expands a template; its malformed dollar signs are warned of. -/
def expanding (template : String) (captures : Captures) : StateT Progress m String :=
  modifyGet fun progress =>
    let (text, warnings) := expandTemplate template captures
    (text, progress.warn warnings)

/-- Ends a procedure that failed. -/
def failing (warning : Warning) : StateT Progress m Bool :=
  modifyGet fun progress => (false, progress.warn [warning])

/-- Writes a match. -/
def writing (policy : WritePolicy) (procedure : Procedure) (captures : Captures) :
    StateT Progress m Unit :=
  modify fun progress => progress.step policy (.visited procedure captures)

/-- Writes each of the matches, and goes on with `inner` before it turns to the next. -/
def interpretEach (policy : WritePolicy) (procedure : Procedure)
    (inner : Captures → StateT Progress m Bool) : List Captures → StateT Progress m Bool
  | [] => pure true
  | captures :: rest => do
      writing policy procedure captures
      let below ← inner captures
      let others ← interpretEach policy procedure inner rest
      pure (below && others)

mutual

/-- Reads, compiles, selects and writes at once. -/
def interpret (access : Access m) (policy : WritePolicy) (captures : Captures) :
    Procedure → StateT Progress m Bool
  | .node source searchFor repeats askUser importing assignments children => do
      let procedure := .node source searchFor repeats askUser importing assignments children
      let reference ← expanding source captures
      match ← access.resolve reference with
      | .error e => failing (.unreadable reference e.message)
      | .ok text => do
          let pattern ← expanding searchFor captures
          match ← access.compile pattern with
          | none => failing (.invalidPattern pattern)
          | some regex => do
              match ← StateT.lift (select access repeats askUser reference pattern regex text) with
              | [] => failing (.noMatches pattern reference)
              | selected =>
                  interpretEach policy procedure (fun c => interpretAll access policy c children)
                    selected

/-- Interprets siblings in order, whether others fail or not. -/
def interpretAll (access : Access m) (policy : WritePolicy) (captures : Captures) :
    List Procedure → StateT Progress m Bool
  | [] => pure true
  | p :: ps => do
      let first ← interpret access policy captures p
      let others ← interpretAll access policy captures ps
      pure (first && others)

end

variable {access : Access m} {policy : WritePolicy}

theorem run_expanding (template : String) (captures : Captures) (progress : Progress) :
    (expanding template captures : StateT Progress m String).run progress =
      pure ((expandTemplate template captures).1,
        progress.warn (expandTemplate template captures).2) := rfl

theorem run_failing (warning : Warning) (progress : Progress) :
    (failing warning : StateT Progress m Bool).run progress =
      pure (false, progress.warn [warning]) := rfl

theorem run_writing (procedure : Procedure) (captures : Captures) (progress : Progress) :
    (writing policy procedure captures : StateT Progress m Unit).run progress =
      pure ((), progress.step policy (.visited procedure captures)) := rfl

theorem settle_empty (progress : Progress) :
    Walk.empty.settle policy progress = (true, progress) := by
  simp only [Walk.settle, Walk.empty, Progress.steps_nil]

theorem settle_append (progress : Progress) (first second : Walk) :
    (first.append second).settle policy progress =
      ((first.settle policy progress).1 &&
          (second.settle policy (first.settle policy progress).2).1,
        (second.settle policy (first.settle policy progress).2).2) := by
  simp only [Walk.settle, Walk.append, Progress.steps_append]

theorem settle_after (progress : Progress) (steps : List Step) (walk : Walk) :
    (Walk.after steps walk).settle policy progress =
      walk.settle policy (progress.steps policy steps) := by
  simp only [Walk.settle, Walk.after, Progress.steps_append]

theorem settle_failed (progress : Progress) (warning : Warning) :
    (Walk.failed warning).settle policy progress = (false, progress.warn [warning]) := by
  simp only [Walk.settle, Walk.failed, Progress.steps_cons, Progress.step_warned,
    Progress.steps_nil]

variable [LawfulMonad m]

theorem run_interpretEach (procedure : Procedure) {inner : Captures → StateT Progress m Bool}
    {inner' : Captures → m Walk}
    (below : ∀ captures progress,
      (inner captures).run progress = Walk.settle policy progress <$> inner' captures)
    (selected : List Captures) (progress : Progress) :
    (interpretEach policy procedure inner selected).run progress =
      Walk.settle policy progress <$> visitEach procedure inner' selected := by
  induction selected generalizing progress with
  | nil => simp only [interpretEach, visitEach, StateT.run_pure, map_pure, settle_empty]
  | cons captures rest ih =>
    simp only [interpretEach, visitEach, StateT.run_bind, run_writing, StateT.run_pure, below, ih,
      map_eq_pure_bind, bind_assoc, pure_bind]
    refine bind_congr fun walk => bind_congr fun others => ?_
    rw [settle_append, settle_after, Progress.steps_cons, Progress.steps_nil]

mutual

theorem run_interpret (captures : Captures) : ∀ (procedure : Procedure) (progress : Progress),
    (interpret access policy captures procedure).run progress =
      Walk.settle policy progress <$> walk access captures procedure
  | .node source searchFor repeats askUser importing assignments children, progress => by
    simp only [interpret, walk, search, Procedure.source, Procedure.searchFor, Procedure.repeats,
      Procedure.askUser, StateT.run_bind, run_expanding, StateT.run_monadLift, map_eq_pure_bind,
      bind_assoc, pure_bind]
    refine bind_congr fun found => ?_
    cases found with
    | error e =>
      simp only [run_failing, pure_bind, settle_after, settle_failed, Progress.steps_warned]
    | ok text =>
      -- The warnings that are written already are the steps before what comes next in the walk.
      simp only [StateT.run_bind, run_expanding, StateT.run_monadLift, bind_assoc, pure_bind]
      refine bind_congr fun compiled => ?_
      cases compiled with
      | none =>
        simp only [run_failing, pure_bind, settle_after, settle_failed, Progress.steps_append,
          Progress.steps_warned]
      | some regex =>
        simp only [StateT.run_bind, StateT.run_lift, bind_assoc, pure_bind]
        refine bind_congr fun selected => ?_
        cases selected with
        | nil =>
          simp only [run_failing, pure_bind, settle_after, settle_failed, Progress.steps_append,
            Progress.steps_warned]
        | cons first rest =>
          simp only [pure_bind, bind_assoc]
          rw [run_interpretEach _ (fun c => run_interpretAll c children)]
          simp only [map_eq_pure_bind, settle_after, Progress.steps_append, Progress.steps_warned]

theorem run_interpretAll (captures : Captures) : ∀ (procedures : List Procedure)
    (progress : Progress),
    (interpretAll access policy captures procedures).run progress =
      Walk.settle policy progress <$> walkAll access captures procedures
  | [], progress => by
    simp only [interpretAll, walkAll, StateT.run_pure, map_pure, settle_empty]
  | p :: ps, progress => by
    simp only [interpretAll, walkAll, StateT.run_bind, run_interpret captures p,
      run_interpretAll captures ps, StateT.run_pure, map_eq_pure_bind, bind_assoc, pure_bind]
    refine bind_congr fun first => bind_congr fun others => ?_
    rw [settle_append]

end

end Procedure

end Gleaner
