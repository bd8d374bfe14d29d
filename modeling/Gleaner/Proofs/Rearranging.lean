import Gleaner.Proofs.Commuting
import Gleaner.Proofs.Validation
import Mathlib.Data.Multiset.Defs
import Mathlib.Logic.Function.Basic

set_option autoImplicit false

/-!
Procedures whose assignments stand in another order. If these are to different fields, the walks
come to the same, but for the order in which is warned; and the checks accept either. Main
statements: `Assignment.applyAll_perm`, `RearrangedAll.walkAll`, `Definition.validate_rearranged`.
-/
namespace Gleaner

section Views

variable {m : Type → Type} [Monad m] {α β γ δ : Type}

/-- Programs that do the same, and come to results of which the same is seen. -/
def LooksSame (view : α → γ) (x y : m α) : Prop :=
  view <$> x = view <$> y

namespace LooksSame

variable {view : α → γ} {view' : β → δ} {x y : m α}

theorem refl (view : α → γ) (x : m α) : LooksSame view x x := rfl

variable [LawfulMonad m]

theorem pure {a b : α} (same : view a = view b) :
    LooksSame view (Pure.pure a : m α) (Pure.pure b) := by
  rw [LooksSame, map_pure, map_pure, same]

/-- Sequencing keeps it, if what comes next does not tell results apart that look the same. -/
theorem bind (first : LooksSame view x y) {f g : α → m β}
    (next : ∀ a b, view a = view b → LooksSame view' (f a) (g b)) :
    LooksSame view' (x >>= f) (y >>= g) := by
  let shown : α → m δ := fun a => view' <$> f a
  have factors : shown.FactorsThrough view := fun a b same =>
    (next a b same).trans (next b b rfl).symm
  -- What comes next is a function of what is seen.
  let seen : γ → m δ := Function.extend view shown fun _ => view' <$> (x >>= f)
  have through : ∀ a, seen (view a) = view' <$> f a := factors.extend_apply _
  calc view' <$> (x >>= f) = x >>= fun a => seen (view a) := by simp only [map_bind, through]
    _ = (view <$> x) >>= seen := (bind_map_left view x seen).symm
    _ = (view <$> y) >>= seen := by rw [first]
    _ = y >>= fun b => seen (view b) := bind_map_left view y seen
    _ = y >>= fun b => view' <$> g b := bind_congr fun b => (through b).trans (next b b rfl)
    _ = view' <$> (y >>= g) := (map_bind view' y g).symm

theorem map (first : LooksSame view x y) {f g : α → β}
    (next : ∀ a b, view a = view b → view' (f a) = view' (g b)) :
    LooksSame view' (f <$> x) (g <$> y) := by
  simp only [map_eq_pure_bind]
  exact first.bind fun a b same => pure (next a b same)

theorem of_map {f : β → α} {x y : m β} (same : LooksSame view (f <$> x) (f <$> y)) :
    LooksSame (fun b => view (f b)) x y := by
  rwa [LooksSame, Functor.map_map, Functor.map_map] at same

theorem after {f g : β → m α} (next : ∀ b, LooksSame view (f b) (g b)) (z : m β) :
    LooksSame view (z >>= f) (z >>= g) :=
  (refl id z).bind fun a b same => by
    rw [show a = b from same]
    exact next b

theorem mapM {f g : β → m α} (each : ∀ item, LooksSame view (f item) (g item)) (items : List β) :
    LooksSame (List.map view) (items.mapM f) (items.mapM g) := by
  induction items with
  | nil => exact .refl _ _
  | cons item rest ih =>
    rw [List.mapM_cons, List.mapM_cons]
    refine (each item).bind fun a b same => ih.bind fun others others' same' => pure ?_
    rw [List.map_cons, List.map_cons, same, same']

/-- The state of a program is not looked at, and is the same. -/
theorem run {σ : Type} {x y : StateT σ m α} (same : LooksSame view x y) (s : σ) :
    LooksSame (fun ran => (view ran.1, ran.2)) (x.run s) (y.run s) := by
  have ran : (view <$> x).run s = (view <$> y).run s := congrArg (StateT.run · s) same
  rwa [StateT.run_map, StateT.run_map] at ran

end LooksSame

end Views

namespace Step

/-- Steps that write to different fields have the same effect in any order. -/
theorem sameEffect_perm {steps steps' : List Step} (perm : steps.Perm steps')
    (apart : steps.Pairwise fun step step' => ∀ field ∈ step.fields, field ∉ step'.fields) :
    SameEffect steps steps' := by
  have symmetric : ∀ {step step' : Step}, (∀ field ∈ step.fields, field ∉ step'.fields) →
      ∀ field ∈ step'.fields, field ∉ step.fields :=
    fun apart field written here => apart field here written
  induction perm with
  | nil => exact .refl _
  | cons step _ ih => exact (SameEffect.refl [step]).append (ih apart.of_cons)
  | swap step step' rest =>
    obtain ⟨others, -⟩ := List.pairwise_cons.1 apart
    have either : ∀ field, Untouched [step'] field ∨ Untouched [step] field := by
      intro field
      by_cases written : field ∈ step'.fields
      · exact .inr (List.forall_mem_singleton.2 (others step List.mem_cons_self field written))
      · exact .inl (List.forall_mem_singleton.2 written)
    exact (sameEffect_swap either).append (.refl rest)
  | trans one _ ih ih' => exact (ih apart).trans (ih' (apart.perm one symmetric))

end Step

namespace Assignment

/-- A visit that writes one assignment. -/
def visit (captures : Captures) (a : Assignment) : Step :=
  .visited (.node "" "" false false false [a] []) captures

theorem fields_visit (captures : Captures) (a : Assignment) :
    (visit captures a).fields = [a.field] := rfl

theorem writeAll_visits (policy : WritePolicy) (captures : Captures)
    (assignments : List Assignment) (record : Record) :
    Step.writeAll policy (assignments.map (visit captures)) record =
      applyAll policy captures assignments record := by
  have own : ∀ a : Assignment,
      Step.policyOf policy (.node "" "" false false false [a] []) = policy := by
    intro a
    simp only [Step.policyOf, Procedure.importing, Bool.or_false]
  induction assignments generalizing record with
  | nil => rfl
  | cons a rest ih =>
    simp only [List.map_cons, Step.writeAll, visit, Step.write, Procedure.assignments, own,
      applyAll, List.append_nil] at ih ⊢
    rw [ih]

/-- Assignments to different fields come to the same in any order, and warn of the same. -/
theorem applyAll_perm (policy : WritePolicy) (captures : Captures)
    {assignments assignments' : List Assignment} (perm : assignments.Perm assignments')
    (distinct : (assignments.map field).Nodup) (record : Record) :
    (applyAll policy captures assignments record).1 =
        (applyAll policy captures assignments' record).1 ∧
      (applyAll policy captures assignments record).2.Perm
        (applyAll policy captures assignments' record).2 := by
  have apart : (assignments.map (visit captures)).Pairwise fun step step' =>
      ∀ field ∈ step.fields, field ∉ step'.fields := by
    refine List.pairwise_map.2 ((List.pairwise_map.1 distinct).imp fun {a b} different => ?_)
    simpa only [fields_visit, List.mem_singleton, forall_eq] using different
  have same := Step.sameEffect_perm (perm.map (visit captures)) apart policy record
  simpa only [writeAll_visits] using same

end Assignment

namespace Procedure

mutual

/-- Procedures that differ at most in the order of their assignments, and so do those below
them. -/
inductive Rearranged : Procedure → Procedure → Prop
  | node {assignments assignments' : List Assignment} {children children' : List Procedure}
      (source searchFor : String) (repeats askUser importing : Bool)
      (perm : assignments.Perm assignments') (below : RearrangedAll children children') :
      Rearranged (.node source searchFor repeats askUser importing assignments children)
        (.node source searchFor repeats askUser importing assignments' children')

inductive RearrangedAll : List Procedure → List Procedure → Prop
  | nil : RearrangedAll [] []
  | cons {p q : Procedure} {ps qs : List Procedure} (first : Rearranged p q)
      (others : RearrangedAll ps qs) : RearrangedAll (p :: ps) (q :: qs)

end

mutual

/-- The assignments of the procedure are to different fields, and so are those of each one below
it. -/
def Distinct : Procedure → Prop
  | .node _ _ _ _ _ assignments children =>
      (assignments.map Assignment.field).Nodup ∧ DistinctAll children

def DistinctAll : List Procedure → Prop
  | [] => True
  | p :: ps => Distinct p ∧ DistinctAll ps

end

end Procedure

/-- What a walk comes to: what is written of it to a record, and what there is to warn of, in
whatever order. -/
@[ext]
structure Effect where
  succeeded : Bool
  write : WritePolicy → Record → Record × Multiset Warning

namespace Walk

def effect (walk : Walk) : Effect where
  succeeded := walk.succeeded
  write policy record := (Step.writeAll policy walk.steps record).map id (↑)

theorem effect_eq_iff {x y : Walk} : x.effect = y.effect ↔ SameEffect x y := by
  constructor
  · intro same
    obtain ⟨succeeded, write⟩ := Effect.mk.inj same
    refine ⟨succeeded, fun policy record => ?_⟩
    obtain ⟨records, warnings⟩ := Prod.mk.inj (congrFun (congrFun write policy) record)
    exact ⟨records, Multiset.coe_eq_coe.1 warnings⟩
  · intro same
    refine Effect.ext same.succeeded (funext fun policy => funext fun record => ?_)
    obtain ⟨records, warnings⟩ := same.steps policy record
    exact Prod.ext records (Multiset.coe_eq_coe.2 warnings)

end Walk

theorem Step.sameEffect_visited_perm {procedure procedure' : Procedure}
    (perm : procedure.assignments.Perm procedure'.assignments)
    (distinct : (procedure.assignments.map Assignment.field).Nodup)
    (importing : procedure.importing = procedure'.importing) (captures : Captures) :
    SameEffect [.visited procedure captures] [.visited procedure' captures] := by
  intro policy record
  have own : policyOf policy procedure = policyOf policy procedure' := by
    simp only [policyOf, importing]
  simp only [writeAll, write, own, List.append_nil]
  exact Assignment.applyAll_perm _ captures perm distinct record

namespace Procedure

section Walks

variable {m : Type → Type} [Monad m] [LawfulMonad m] (access : Access m)

theorem visitEach_rearranged {procedure procedure' : Procedure}
    (visited : ∀ captures,
      Step.SameEffect [.visited procedure captures] [.visited procedure' captures])
    {inner inner' : Captures → m Walk}
    (below : ∀ captures, LooksSame Walk.effect (inner captures) (inner' captures))
    (selected : List Captures) :
    LooksSame Walk.effect (visitEach procedure inner selected)
      (visitEach procedure' inner' selected) := by
  induction selected with
  | nil => exact .refl _ _
  | cons captures rest ih =>
    refine (below captures).bind fun inside inside' same => ih.bind fun others others' same' => ?_
    have here := Walk.SameEffect.after (visited captures) (Walk.effect_eq_iff.1 same)
    exact .pure (Walk.effect_eq_iff.2 (here.append (Walk.effect_eq_iff.1 same')))

mutual

theorem Rearranged.walk {p q : Procedure} (rearranged : Rearranged p q) (distinct : p.Distinct)
    (captures : Captures) :
    LooksSame Walk.effect (walk access captures p) (walk access captures q) := by
  cases rearranged with
  | @node assignments assignments' children children' source searchFor repeats askUser importing
      perm below =>
    obtain ⟨fields, inside⟩ := distinct
    -- The search does not look at what is assigned.
    refine .after (fun found => ?_) (search access captures
      (.node source searchFor repeats askUser importing assignments children))
    obtain ⟨steps, found⟩ := found
    cases found with
    | error warning => exact .refl _ _
    | ok selected =>
      let procedure := node source searchFor repeats askUser importing assignments children
      let other := node source searchFor repeats askUser importing assignments' children'
      have visited : ∀ captures, Step.SameEffect [.visited procedure captures]
          [.visited other captures] := Step.sameEffect_visited_perm perm fields rfl
      refine (visitEach_rearranged visited (fun inner => below.walkAll inside inner)
        selected).bind fun walked walked' same => ?_
      exact .pure (Walk.effect_eq_iff.2 (.after (.refl steps) (Walk.effect_eq_iff.1 same)))

/-- With their assignments in another order, procedures are walked alike, and what is written of
the walks is the same. -/
theorem RearrangedAll.walkAll {ps qs : List Procedure} (rearranged : RearrangedAll ps qs)
    (distinct : DistinctAll ps) (captures : Captures) :
    LooksSame Walk.effect (walkAll access captures ps) (walkAll access captures qs) := by
  cases rearranged with
  | nil => exact .refl _ _
  | cons first others =>
    refine (first.walk distinct.1 captures).bind fun one one' same => ?_
    refine (others.walkAll distinct.2 captures).bind fun rest rest' same' => ?_
    have both := (Walk.effect_eq_iff.1 same).append (Walk.effect_eq_iff.1 same')
    exact .pure (Walk.effect_eq_iff.2 both)

end

end Walks

/-- What is well-formed stays so with the assignments in another order. -/
theorem Assignable.perm {last : Option Nat} {assignments assignments' : List Assignment}
    (assignable : Assignable last assignments) (perm : assignments.Perm assignments') :
    Assignable last assignments' :=
  fun a mem => assignable a (perm.mem_iff.2 mem)

mutual

theorem Rearranged.wellFormed {p q : Procedure} (rearranged : Rearranged p q) {last : Option Nat}
    (wellFormed : p.WellFormed last) : q.WellFormed last := by
  cases rearranged with
  | node source searchFor repeats askUser importing perm below =>
    cases wellFormed with
    | node sourceGiven sourceWithin searchGiven searchWithin assignable inside =>
      exact .node sourceGiven sourceWithin searchGiven searchWithin (assignable.perm perm)
        (below.wellFormed inside)

theorem RearrangedAll.wellFormed {ps qs : List Procedure} (rearranged : RearrangedAll ps qs)
    {last : Option Nat} (wellFormed : ∀ p ∈ ps, p.WellFormed last) :
    ∀ q ∈ qs, q.WellFormed last := by
  cases rearranged with
  | nil => exact wellFormed
  | cons first others =>
    obtain ⟨here, rest⟩ := List.forall_mem_cons.1 wellFormed
    exact List.forall_mem_cons.2 ⟨first.wellFormed here, others.wellFormed rest⟩

end

mutual

theorem Rearranged.symm {p q : Procedure} (rearranged : Rearranged p q) : Rearranged q p := by
  cases rearranged with
  | node source searchFor repeats askUser importing perm below =>
    exact .node source searchFor repeats askUser importing perm.symm below.symm

theorem RearrangedAll.symm {ps qs : List Procedure} (rearranged : RearrangedAll ps qs) :
    RearrangedAll qs ps := by
  cases rearranged with
  | nil => exact .nil
  | cons first others => exact .cons first.symm others.symm

end

end Procedure

open Procedure (RearrangedAll)

theorem Definition.validate_rearranged {definition : Definition} {procedures : List Procedure}
    (rearranged : RearrangedAll definition.procedures procedures) (fileName : Regex) :
    Definition.validate { definition with procedures } = .ok fileName ↔
      definition.validate = .ok fileName := by
  rw [validate_eq_ok_iff, validate_eq_ok_iff]
  constructor
  · intro valid
    exact ⟨valid.compiled, rearranged.symm.wellFormed valid.procedures⟩
  · intro valid
    exact ⟨valid.compiled, rearranged.wellFormed valid.procedures⟩

end Gleaner
