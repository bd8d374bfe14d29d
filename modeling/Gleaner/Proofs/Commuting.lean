import Gleaner.Proofs.Agreement
import Gleaner.Proofs.Assurance

set_option autoImplicit false

/-!
Steps that write to different fields may be taken in either order, and so may whole walks: the
record comes out the same, and the same is warned of.
-/
namespace Gleaner

/-- Records that agree on one part of the fields and on the rest of them agree. -/
theorem Record.AgreeOn.of_either {look : Image → Image} {shown shown' : Field → Prop}
    {r r' : Record} (one : AgreeOn look shown r r') (other : AgreeOn look shown' r r')
    (either : ∀ field, shown field ∨ shown' field) : AgreeOn look (fun _ => True) r r' where
  name _ := (either .name).elim one.name other.name
  description _ := (either .description).elim one.description other.description
  details key _ := (either (.detail key)).elim (one.details key) (other.details key)
  icons _ := (either .icon).elim one.icons other.icons
  fanart _ := (either .fanart).elim one.fanart other.fanart

namespace Step

/-- No step writes to the field. -/
def Untouched (steps : List Step) (field : Field) : Prop :=
  ∀ step ∈ steps, field ∉ step.fields

theorem Untouched.append {first second : List Step} {field : Field}
    (one : Untouched first field) (other : Untouched second field) :
    Untouched (first ++ second) field :=
  List.forall_mem_append.2 ⟨one, other⟩

theorem untouched_warned (warnings : List Warning) (field : Field) :
    Untouched (warnings.map .warned) field := by
  intro step mem
  obtain ⟨warning, -, rfl⟩ := List.mem_map.1 mem
  exact List.not_mem_nil

theorem writeAll_append (policy : WritePolicy) (first second : List Step) (record : Record) :
    writeAll policy (first ++ second) record =
      ((writeAll policy second (writeAll policy first record).1).1,
        (writeAll policy first record).2 ++
          (writeAll policy second (writeAll policy first record).1).2) := by
  induction first generalizing record with
  | nil => rfl
  | cons step rest ih => simp only [List.cons_append, writeAll, ih, List.append_assoc]

/-- Written to any record, both come to the same, and warn of the same in some order. -/
def SameEffect (first second : List Step) : Prop :=
  ∀ policy record, (writeAll policy first record).1 = (writeAll policy second record).1 ∧
    (writeAll policy first record).2.Perm (writeAll policy second record).2

namespace SameEffect

variable {first first' second second' third : List Step}

theorem refl (steps : List Step) : SameEffect steps steps :=
  fun _ _ => ⟨rfl, .refl _⟩

theorem trans (one : SameEffect first second) (other : SameEffect second third) :
    SameEffect first third := fun policy record =>
  ⟨(one policy record).1.trans (other policy record).1,
    (one policy record).2.trans (other policy record).2⟩

theorem append (one : SameEffect first first') (other : SameEffect second second') :
    SameEffect (first ++ second) (first' ++ second') := by
  intro policy record
  obtain ⟨records, warnings⟩ := one policy record
  obtain ⟨others, more⟩ := other policy (writeAll policy first record).1
  rw [writeAll_append, writeAll_append, ← records]
  exact ⟨others, warnings.append more⟩

end SameEffect

variable {first second : List Step}

/-- What is written to other fields in between does not show, neither in what is warned of nor in
the fields that the first steps leave alone. -/
theorem writeAll_after (apart : ∀ field, Untouched first field ∨ Untouched second field)
    (policy : WritePolicy) (record : Record) :
    (writeAll policy second (writeAll policy first record).1).1.AgreeOn id (Untouched first)
        (writeAll policy first (writeAll policy second record).1).1 ∧
      (writeAll policy second (writeAll policy first record).1).2 =
        (writeAll policy second record).2 := by
  have outside : ∀ step ∈ first, ∀ field ∈ step.fields, ¬Untouched first field :=
    fun step mem field written untouched => untouched step mem written
  have inside : ∀ step ∈ second, ∀ field ∈ step.fields, Untouched first field :=
    fun step mem field written =>
      (apart field).resolve_right fun untouched => untouched step mem written
  have alike : policy.Alike id policy := ⟨rfl, fun _ => rfl⟩
  obtain ⟨agree, warned⟩ := writeAll_agree alike inside (writeAll_apart policy outside record)
  exact ⟨agree.trans (writeAll_apart policy outside _).symm, warned⟩

/-- Steps that write to different fields have the same effect in either order. -/
theorem sameEffect_swap (apart : ∀ field, Untouched first field ∨ Untouched second field) :
    SameEffect (first ++ second) (second ++ first) := by
  intro policy record
  obtain ⟨one, warned⟩ := writeAll_after apart policy record
  obtain ⟨other, warned'⟩ := writeAll_after (fun field => (apart field).symm) policy record
  rw [writeAll_append, writeAll_append, warned, warned']
  refine ⟨(one.of_either other.symm apart).eq_of_all ?_, List.perm_append_comm⟩
  simp only [writeAll_location]

/-- Of a procedure only what it assigns counts for what a visit writes. -/
theorem sameEffect_visited {procedure procedure' : Procedure}
    (assignments : procedure.assignments = procedure'.assignments)
    (importing : procedure.importing = procedure'.importing) (captures : Captures) :
    SameEffect [.visited procedure captures] [.visited procedure' captures] := by
  intro policy record
  have same : write policy record (.visited procedure captures) =
      write policy record (.visited procedure' captures) := by
    simp only [write, policyOf, assignments, importing]
  rw [writeAll, writeAll, same]
  exact ⟨rfl, .refl _⟩

end Step

namespace Walk

/-- Both succeed or neither, and their steps have the same effect. -/
structure SameEffect (x y : Walk) : Prop where
  succeeded : x.succeeded = y.succeeded
  steps : Step.SameEffect x.steps y.steps

namespace SameEffect

variable {x x' y y' z : Walk}

theorem refl (x : Walk) : SameEffect x x := ⟨rfl, .refl _⟩

theorem trans (one : SameEffect x y) (other : SameEffect y z) : SameEffect x z :=
  ⟨one.succeeded.trans other.succeeded, one.steps.trans other.steps⟩

theorem append (one : SameEffect x x') (other : SameEffect y y') :
    SameEffect (x.append y) (x'.append y') where
  succeeded := by simp only [Walk.append, one.succeeded, other.succeeded]
  steps := one.steps.append other.steps

theorem after {steps steps' : List Step} (before : Step.SameEffect steps steps')
    (one : SameEffect x x') : SameEffect (Walk.after steps x) (Walk.after steps' x') where
  succeeded := one.succeeded
  steps := before.append one.steps

end SameEffect

variable {x y : Walk}

theorem append_assoc (x y z : Walk) : (x.append y).append z = x.append (y.append z) := by
  simp only [append, Bool.and_assoc, List.append_assoc]

theorem sameEffect_swap
    (apart : ∀ field, Step.Untouched x.steps field ∨ Step.Untouched y.steps field) :
    SameEffect (x.append y) (y.append x) where
  succeeded := Bool.and_comm _ _
  steps := Step.sameEffect_swap apart

end Walk

namespace Procedure

mutual

/-- The fields that are written to in a procedure or below it. -/
def fields : Procedure → List Field
  | .node _ _ _ _ _ assignments children =>
      assignments.map Assignment.field ++ fieldsAll children

def fieldsAll : List Procedure → List Field
  | [] => []
  | p :: ps => fields p ++ fieldsAll ps

end

/-- Two procedures write to different fields, and so do those below them. -/
def Independent (p q : Procedure) : Prop :=
  ∀ field ∈ p.fields, field ∉ q.fields

theorem Independent.symm {p q : Procedure} (independent : p.Independent q) : q.Independent p :=
  fun field written here => independent field here written

section Untouched

variable {m : Type → Type} [Monad m] {assurance : Assurance m}

theorem visitEach_untouched {procedure : Procedure} {children : List Procedure}
    {inner : Captures → m Walk}
    (below : ∀ captures, assurance.Ensures (inner captures) fun walk =>
      ∀ field ∉ fieldsAll children, Step.Untouched walk.steps field) (selected : List Captures) :
    assurance.Ensures (visitEach procedure inner selected) fun walk =>
      ∀ field ∉ procedure.assignments.map Assignment.field ++ fieldsAll children,
        Step.Untouched walk.steps field := by
  induction selected with
  | nil => exact assurance.ensures_pure fun _ _ => List.forall_mem_nil _
  | cons captures rest ih =>
    refine assurance.ensures_bind (below captures) fun inside untouched => ?_
    refine assurance.ensures_bind ih fun others untouched' => ?_
    refine assurance.ensures_pure fun field outside => ?_
    have visited : Step.Untouched [.visited procedure captures] field :=
      List.forall_mem_singleton.2 fun own => outside (List.mem_append_left _ own)
    have under := untouched field fun below => outside (List.mem_append_right _ below)
    exact (visited.append under).append (untouched' field outside)

theorem search_untouched (lenient : assurance.Lenient) (access : Access m) (captures : Captures)
    (procedure : Procedure) :
    assurance.Ensures (search access captures procedure) fun found =>
      ∀ field, Step.Untouched found.1 field := by
  have sourced := Step.untouched_warned (expandTemplate procedure.source captures).2
  have patterned := Step.untouched_warned (expandTemplate procedure.searchFor captures).2
  have both := fun field => (sourced field).append (patterned field)
  refine assurance.ensures_bind (lenient _) fun read _ => ?_
  cases read with
  | error e => exact assurance.ensures_pure sourced
  | ok text =>
    refine assurance.ensures_bind (lenient _) fun compiled _ => ?_
    cases compiled with
    | none => exact assurance.ensures_pure both
    | some regex =>
      refine assurance.ensures_bind (lenient _) fun selected _ => ?_
      cases selected with
      | nil => exact assurance.ensures_pure both
      | cons first rest => exact assurance.ensures_pure both

mutual

theorem walk_untouched (lenient : assurance.Lenient) (access : Access m) (captures : Captures) :
    ∀ procedure : Procedure, assurance.Ensures (walk access captures procedure) fun walk =>
      ∀ field ∉ procedure.fields, Step.Untouched walk.steps field
  | .node source searchFor repeats askUser importing assignments children => by
    let procedure := node source searchFor repeats askUser importing assignments children
    have searched := search_untouched lenient access captures procedure
    refine assurance.ensures_bind searched fun found untouched => ?_
    obtain ⟨steps, found⟩ := found
    cases found with
    | error warning =>
      have warned : ∀ field, Step.Untouched [.warned warning] field :=
        fun _ => List.forall_mem_singleton.2 List.not_mem_nil
      exact assurance.ensures_pure fun field _ => (untouched field).append (warned field)
    | ok selected =>
      have below : assurance.Ensures
          (visitEach procedure (fun inner => walkAll access inner children) selected)
          fun walk => ∀ field ∉ procedure.fields, Step.Untouched walk.steps field :=
        visitEach_untouched (fun inner => walkAll_untouched lenient access inner children) selected
      exact assurance.ensures_bind below fun inside untouched' =>
        assurance.ensures_pure fun field outside =>
          (untouched field).append (untouched' field outside)

/-- A walk over procedures takes no step that writes to a field that none of them writes to. -/
theorem walkAll_untouched (lenient : assurance.Lenient) (access : Access m)
    (captures : Captures) : ∀ procedures : List Procedure,
      assurance.Ensures (walkAll access captures procedures) fun walk =>
        ∀ field ∉ fieldsAll procedures, Step.Untouched walk.steps field
  | [] => assurance.ensures_pure fun _ _ => List.forall_mem_nil _
  | p :: ps => by
    refine assurance.ensures_bind (walk_untouched lenient access captures p)
      fun first untouched => ?_
    refine assurance.ensures_bind (walkAll_untouched lenient access captures ps)
      fun others untouched' => ?_
    refine assurance.ensures_pure fun field outside => ?_
    rw [fieldsAll, List.mem_append, not_or] at outside
    exact (untouched field outside.1).append (untouched' field outside.2)

end

end Untouched

variable (access : Access Id)

theorem walkAll_append (captures : Captures) (ps qs : List Procedure) :
    (walkAll access captures (ps ++ qs)).run =
      (walkAll access captures ps).run.append (walkAll access captures qs).run := by
  induction ps with
  | nil => rfl
  | cons p ps ih =>
    simp only [List.cons_append, walkAll, Id.run_bind, Id.run_pure, ih, Walk.append_assoc]

/-- Siblings that write to different fields have the same effect in any order. -/
theorem walkAll_perm (captures : Captures) {ps qs : List Procedure} (perm : ps.Perm qs)
    (independent : ps.Pairwise Independent) :
    Walk.SameEffect (walkAll access captures ps).run (walkAll access captures qs).run := by
  induction perm with
  | nil => exact .refl _
  | cons p _ ih =>
    simp only [walkAll, Id.run_bind, Id.run_pure]
    exact (Walk.SameEffect.refl _).append (ih independent.of_cons)
  | swap p q rest =>
    simp only [walkAll, Id.run_bind, Id.run_pure, ← Walk.append_assoc]
    obtain ⟨apart, -⟩ := List.pairwise_cons.1 independent
    -- Of the two neighbours, at most one writes to a field.
    refine (Walk.sameEffect_swap fun field => ?_).append (.refl _)
    by_cases written : field ∈ q.fields
    · have unwritten := apart p List.mem_cons_self field written
      exact .inr (walk_untouched Assurance.plain_lenient access captures p field unwritten)
    · exact .inl (walk_untouched Assurance.plain_lenient access captures q field written)
  | trans one _ ih ih' =>
    exact (ih independent).trans (ih' (independent.perm one .symm))

theorem visitEach_congr {procedure procedure' : Procedure}
    (assignments : procedure.assignments = procedure'.assignments)
    (importing : procedure.importing = procedure'.importing) {inner inner' : Captures → Id Walk}
    (below : ∀ captures, Walk.SameEffect (inner captures).run (inner' captures).run)
    (selected : List Captures) :
    Walk.SameEffect (visitEach procedure inner selected).run
      (visitEach procedure' inner' selected).run := by
  induction selected with
  | nil => exact .refl _
  | cons captures rest ih =>
    have visited := Step.sameEffect_visited assignments importing captures
    exact (Walk.SameEffect.after visited (below captures)).append ih

/-- What a procedure does with its children depends on what they do alone. -/
theorem walk_congr (captures : Captures) (source searchFor : String)
    (repeats askUser importing : Bool) (assignments : List Assignment)
    {children children' : List Procedure}
    (below : ∀ inner, Walk.SameEffect (walkAll access inner children).run
      (walkAll access inner children').run) :
    Walk.SameEffect
      (walk access captures (.node source searchFor repeats askUser importing assignments
        children)).run
      (walk access captures (.node source searchFor repeats askUser importing assignments
        children')).run := by
  have searched : search access captures (.node source searchFor repeats askUser importing
      assignments children) = search access captures (.node source searchFor repeats askUser
        importing assignments children') := rfl
  simp only [walk, Id.run_bind, searched]
  split
  · exact .refl _
  · next selected _ =>
    refine .after (.refl _) (visitEach_congr ?_ ?_ below selected) <;> rfl

end Procedure

end Gleaner
