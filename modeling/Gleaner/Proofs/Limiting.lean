import Gleaner.Proofs.Agreement
import Gleaner.Proofs.Evaluation

set_option autoImplicit false

/-!
Leaving out the assignments to all but some fields. Nothing else is searched for or found, and the
fields that are kept come to the same. Main statements: `evaluateAll_limited`, `writeAll_limited`.
-/
namespace Gleaner

/-- Where what is found for each item is changed, the list of what is found is. -/
theorem mapM_changed {m : Type → Type} [Monad m] [LawfulMonad m] {α β γ : Type}
    {program : α → m γ} {program' : α → m β} (change : β → γ)
    (changed : ∀ item, program item = change <$> program' item) (items : List α) :
    (items.mapM fun item => do
        let found ← program item
        pure (item, found)) =
      List.map (Prod.map id change) <$> items.mapM (fun item => do
        let found ← program' item
        pure (item, found)) := by
  induction items with
  | nil => simp only [List.mapM_nil, map_pure, List.map_nil]
  | cons item rest ih =>
    rw [List.mapM_cons, ih, changed, List.mapM_cons]
    simp only [map_eq_pure_bind, bind_assoc, pure_bind, List.map_cons, Prod.map_apply, id_eq]

variable (kept : Field → Bool)

namespace Procedure

mutual

/-- The procedure with only those assignments, its own and those below it, that are to fields that
are kept. -/
def limited : Procedure → Procedure
  | .node source searchFor repeats askUser importing assignments children =>
      .node source searchFor repeats askUser importing
        (assignments.filter fun a => kept a.field) (limitedAll children)

def limitedAll : List Procedure → List Procedure
  | [] => []
  | p :: ps => limited p :: limitedAll ps

end

theorem assignments_limited (procedure : Procedure) :
    (procedure.limited kept).assignments =
      procedure.assignments.filter fun a => kept a.field := by
  cases procedure
  rfl

theorem importing_limited (procedure : Procedure) :
    (procedure.limited kept).importing = procedure.importing := by
  cases procedure
  rfl

theorem expansionSteps_limited (procedure : Procedure) :
    (procedure.limited kept).expansionSteps = procedure.expansionSteps := by
  cases procedure
  rfl

end Procedure

namespace Evaluation

mutual

/-- The evaluation with its procedures limited. -/
def limited : Evaluation → Evaluation
  | failed procedure given failure => failed (procedure.limited kept) given failure
  | matched procedure given branches =>
      matched (procedure.limited kept) given (limitedBranches branches)

def limitedBranches : List (Captures × List Evaluation) → List (Captures × List Evaluation)
  | [] => []
  | (captures, below) :: rest => (captures, limitedAll below) :: limitedBranches rest

def limitedAll : List Evaluation → List Evaluation
  | [] => []
  | e :: es => limited e :: limitedAll es

end

theorem limitedBranches_eq_map (branches : List (Captures × List Evaluation)) :
    limitedBranches kept branches = branches.map (Prod.map id (limitedAll kept)) := by
  induction branches with
  | nil => rfl
  | cons branch rest ih => rw [limitedBranches, ih, List.map_cons, Prod.map_apply, id_eq]

end Evaluation

/-- The step with its procedure limited. -/
def Step.limited : Step → Step
  | .warned warning => .warned warning
  | .visited procedure captures => .visited (procedure.limited kept) captures

/-- The walk with its steps limited. -/
def Walk.limited (walk : Walk) : Walk :=
  ⟨walk.succeeded, walk.steps.map (Step.limited kept)⟩

namespace Procedure

variable {m : Type → Type} [Monad m] {access : Access m}

theorem find_limited (given : Captures) (procedure : Procedure) :
    find access given (procedure.limited kept) = find access given procedure := by
  cases procedure
  rfl

variable [LawfulMonad m]

mutual

theorem evaluate_limited (given : Captures) : ∀ procedure : Procedure,
    evaluate access given (procedure.limited kept) =
      Evaluation.limited kept <$> evaluate access given procedure
  | .node source searchFor repeats askUser importing assignments children => by
    let procedure := node source searchFor repeats askUser importing assignments children
    have same : find access given (limited kept procedure) = find access given procedure :=
      find_limited kept given procedure
    simp only [procedure, limited] at same ⊢
    simp only [evaluate, same, map_eq_pure_bind, bind_assoc]
    refine bind_congr fun found => ?_
    cases found with
    | error failure => simp only [pure_bind, Evaluation.limited, limited]
    | ok selected =>
      dsimp only
      rw [mapM_changed _ fun captures => evaluateAll_limited captures children]
      simp only [map_eq_pure_bind, bind_assoc, pure_bind, Evaluation.limited, limited,
        Evaluation.limitedBranches_eq_map]

/-- Procedures are evaluated alike whatever assignments they have. -/
theorem evaluateAll_limited (given : Captures) : ∀ procedures : List Procedure,
    evaluateAll access given (limitedAll kept procedures) =
      Evaluation.limitedAll kept <$> evaluateAll access given procedures
  | [] => by simp only [limitedAll, evaluateAll, map_pure, Evaluation.limitedAll]
  | p :: ps => by
    simp only [limitedAll, evaluateAll, evaluate_limited given p, evaluateAll_limited given ps,
      map_eq_pure_bind, bind_assoc, pure_bind, Evaluation.limitedAll]

end

end Procedure

namespace Walk

theorem limited_append (first second : Walk) :
    (first.append second).limited kept = (first.limited kept).append (second.limited kept) := by
  simp only [limited, append, List.map_append]

theorem limited_after (steps : List Step) (walk : Walk) :
    (after steps walk).limited kept =
      after (steps.map (Step.limited kept)) (walk.limited kept) := by
  simp only [limited, after, List.map_append]

end Walk

theorem Step.map_limited_expansionSteps (procedure : Procedure) (given : Captures)
    (found : Except Failure (List Captures)) :
    (procedure.expansionSteps given found).map (limited kept) =
      procedure.expansionSteps given found := by
  refine (List.map_congr_left fun step taken => ?_).trans (List.map_id _)
  obtain ⟨warning, rfl, -⟩ := Procedure.mem_expansionSteps taken
  rfl

namespace Evaluation

mutual

theorem walk_limited : ∀ e : Evaluation, (e.limited kept).walk = e.walk.limited kept
  | failed procedure given failure => by
    simp only [limited, walk, Walk.limited_after, Procedure.expansionSteps_limited,
      Step.map_limited_expansionSteps]
    rfl
  | matched procedure given branches => by
    simp only [limited, walk, Walk.limited_after, Procedure.expansionSteps_limited,
      Step.map_limited_expansionSteps, walkBranches_limited procedure branches]

theorem walkBranches_limited (procedure : Procedure) :
    ∀ branches : List (Captures × List Evaluation),
      walkBranches (procedure.limited kept) (limitedBranches kept branches) =
        (walkBranches procedure branches).limited kept
  | [] => rfl
  | (captures, below) :: rest => by
    simp only [limitedBranches, walkBranches, Walk.limited_append, Walk.limited_after,
      walkAll_limited below, walkBranches_limited procedure rest]
    rfl

theorem walkAll_limited : ∀ evaluations : List Evaluation,
    walkAll (limitedAll kept evaluations) = (walkAll evaluations).limited kept
  | [] => rfl
  | e :: es => by
    simp only [limitedAll, walkAll, Walk.limited_append, walk_limited e, walkAll_limited es]

end

end Evaluation

/-- Policies that import alike, and inherit alike at the fields that are kept. -/
structure WritePolicy.AlikeAt (policy policy' : WritePolicy) : Prop where
  importing : policy.importing = policy'.importing
  inherits : ∀ field, kept field = true →
    Assignment.inherited? policy field = Assignment.inherited? policy' field

theorem WritePolicy.AlikeAt.refl (policy : WritePolicy) : policy.AlikeAt kept policy :=
  ⟨rfl, fun _ _ => rfl⟩

/-- All fields but those that are kept are inherited. -/
def WritePolicy.InheritsRest (policy : WritePolicy) : Prop :=
  ∀ field, kept field = false → (Assignment.inherited? policy field).isSome = true

variable {kept} {policy policy' : WritePolicy} {r r' : Record}

theorem Assignment.apply_snd_of_inherited {captures : Captures} {a : Assignment}
    (inherits : (inherited? policy a.field).isSome = true) (record : Record) :
    (a.apply policy captures record).2 = [] := by
  obtain ⟨copied, found⟩ := Option.isSome_iff_exists.1 inherits
  rw [apply, found]

theorem Assignment.applyAll_limited (alike : policy.AlikeAt kept policy') (captures : Captures)
    (assignments : List Assignment) (agree : r.AgreeOn id (kept · = true) r') :
    let whole := applyAll policy captures assignments r
    let limited := applyAll policy' captures (assignments.filter fun a => kept a.field) r'
    whole.1.AgreeOn id (kept · = true) limited.1 ∧
      (policy.InheritsRest kept → whole.2 = limited.2) := by
  induction assignments generalizing r r' with
  | nil => exact ⟨agree, fun _ => rfl⟩
  | cons a rest ih =>
    cases inside : kept a.field with
    | true =>
      obtain ⟨first, warned⟩ := apply_agree_of_inherits (alike.inherits a.field inside)
        (fun reference => by rw [alike.importing]) captures inside agree
      obtain ⟨others, warnedAfter⟩ := ih first
      simp only [List.filter_cons, inside, ↓reduceIte]
      exact ⟨others, fun all => by simp only [applyAll, warned, warnedAfter all]⟩
    | false =>
      have apart : ¬kept a.field = true := by simp only [inside, Bool.false_eq_true, not_false_eq_true]
      obtain ⟨others, warned⟩ := ih ((apply_apart policy captures apart r).trans agree)
      simp only [List.filter_cons, inside, Bool.false_eq_true, ↓reduceIte]
      refine ⟨others, fun all => ?_⟩
      rw [applyAll, apply_snd_of_inherited (all a.field inside), List.nil_append]
      exact warned all

theorem Step.write_limited (alike : policy.AlikeAt kept policy') (step : Step)
    (agree : r.AgreeOn id (kept · = true) r') :
    (write policy r step).1.AgreeOn id (kept · = true) (write policy' r' (step.limited kept)).1 ∧
      (policy.InheritsRest kept →
        (write policy r step).2 = (write policy' r' (step.limited kept)).2) := by
  cases step with
  | warned warning => exact ⟨agree, fun _ => rfl⟩
  | visited procedure captures =>
    have alike' : (policyOf policy procedure).AlikeAt kept
        (policyOf policy' (procedure.limited kept)) :=
      ⟨by simp only [policyOf, alike.importing, Procedure.importing_limited], alike.inherits⟩
    have written := Assignment.applyAll_limited alike' captures procedure.assignments agree
    rw [← Procedure.assignments_limited] at written
    exact written

/-- Without the assignments to other fields the ones that are kept come to the same; and if those
are inherited, there is the same to warn of. -/
theorem Step.writeAll_limited (alike : policy.AlikeAt kept policy') (steps : List Step)
    (agree : r.AgreeOn id (kept · = true) r') :
    let whole := writeAll policy steps r
    let limited := writeAll policy' (steps.map (Step.limited kept)) r'
    whole.1.AgreeOn id (kept · = true) limited.1 ∧
      (policy.InheritsRest kept → whole.2 = limited.2) := by
  induction steps generalizing r r' with
  | nil => exact ⟨agree, fun _ => rfl⟩
  | cons step rest ih =>
    obtain ⟨first, warned⟩ := write_limited alike step agree
    obtain ⟨others, warnedAfter⟩ := ih first
    exact ⟨others, fun all => by
      simp only [writeAll, List.map_cons, warned all, warnedAfter all]⟩

end Gleaner
