import Gleaner.Procedure.Walk

set_option autoImplicit false

/-!
Walks in two monads. A relation between programs that sequencing keeps relates the walks as soon
as it relates what they find; and it relates what they find if it relates what they ask of the
outside. Nothing else of a walk depends on the monad.
-/
namespace Gleaner

variable {m n : Type → Type} [Monad m] [Monad n]

/-- A relation between the programs of two monads that sequencing keeps. -/
structure Correspondence (m n : Type → Type) [Monad m] [Monad n] where
  Related : {α : Type} → m α → n α → Prop
  related_pure : ∀ {α : Type} (a : α), Related (pure a) (pure a)
  related_bind : ∀ {α β : Type} {x : m α} {y : n α} {f : α → m β} {g : α → n β},
    Related x y → (∀ a, Related (f a) (g a)) → Related (x >>= f) (y >>= g)

namespace Correspondence

/-- The same state is passed along on both sides. -/
def stateT (c : Correspondence m n) (σ : Type) : Correspondence (StateT σ m) (StateT σ n) where
  Related x y := ∀ s, c.Related (x.run s) (y.run s)
  related_pure a s := c.related_pure (a, s)
  related_bind first next s := c.related_bind (first s) fun r => next r.1 r.2

/-- Programs that are the same. -/
def equal : Correspondence m m where
  Related x y := x = y
  related_pure _ := rfl
  related_bind first next := by rw [first, funext next]

/-- What two walks ask of the outside is related. -/
structure Agree (c : Correspondence m n) (a : Access m) (b : Access n) : Prop where
  scraper : a.scraper = b.scraper
  resolve : ∀ reference, c.Related (a.resolve reference) (b.resolve reference)
  compile : ∀ text, c.Related (a.compile text) (b.compile text)
  prompter : Option.Rel (fun p q => ∀ request, c.Related (p.choose request) (q.choose request))
    a.prompter b.prompter

variable {c : Correspondence m n} {a : Access m} {b : Access n}

theorem resolve_related {reader : Reader m} {reader' : Reader n}
    (read : ∀ reference, c.Related (reader.read reference) (reader'.read reference))
    (cache : SourceCache) (reference : String) :
    c.Related (cache.resolve reader reference) (cache.resolve reader' reference) := by
  unfold SourceCache.resolve
  split
  · exact c.related_pure _
  · refine c.related_bind (read reference) fun found => ?_
    cases found with
    | ok text => exact c.related_pure _
    | error e => exact c.related_pure _

theorem chooseAmong_related (agree : c.Agree a b) {p : Prompter m} {q : Prompter n}
    (answers : ∀ request, c.Related (p.choose request) (q.choose request)) (repeats : Bool)
    (reference pattern : String) (candidates : List Captures) :
    c.Related (Procedure.chooseAmong a p repeats reference pattern candidates)
      (Procedure.chooseAmong b q repeats reference pattern candidates) := by
  unfold Procedure.chooseAmong
  rw [agree.scraper]
  split
  · exact c.related_pure _
  · exact c.related_bind (answers _) fun answer => c.related_pure _

theorem select_related (agree : c.Agree a b) (repeats askUser : Bool)
    (reference pattern : String) (regex : Regex) (text : String) :
    c.Related (Procedure.select a repeats askUser reference pattern regex text)
      (Procedure.select b repeats askUser reference pattern regex text) := by
  unfold Procedure.select
  cases askUser with
  | false => exact c.related_pure _
  | true =>
    have prompters := agree.prompter
    cases p : a.prompter <;> cases q : b.prompter <;> rw [p, q] at prompters
    · exact c.related_pure _
    · cases prompters
    · cases prompters
    · cases prompters with
      | some answers => exact chooseAmong_related agree answers _ _ _ _

theorem visitEach_related (procedure : Procedure) {inner : Captures → m Walk}
    {inner' : Captures → n Walk} (below : ∀ captures, c.Related (inner captures) (inner' captures))
    (selected : List Captures) :
    c.Related (Procedure.visitEach procedure inner selected)
      (Procedure.visitEach procedure inner' selected) := by
  induction selected with
  | nil => exact c.related_pure _
  | cons captures rest ih =>
    exact c.related_bind (below captures) fun _ => c.related_bind ih fun _ => c.related_pure _

/-- The texts, patterns and matches that two walks find are related. -/
structure Concur (c : Correspondence m n) (a : Access m) (b : Access n) : Prop where
  resolve : ∀ reference, c.Related (a.resolve reference) (b.resolve reference)
  compile : ∀ text, c.Related (a.compile text) (b.compile text)
  select : ∀ repeats askUser reference pattern regex text,
    c.Related (Procedure.select a repeats askUser reference pattern regex text)
      (Procedure.select b repeats askUser reference pattern regex text)

theorem Agree.concur (agree : c.Agree a b) : c.Concur a b :=
  ⟨agree.resolve, agree.compile, select_related agree⟩

namespace Concur

theorem search (concur : c.Concur a b) (captures : Captures) (procedure : Procedure) :
    c.Related (Procedure.search a captures procedure)
      (Procedure.search b captures procedure) := by
  unfold Procedure.search
  refine c.related_bind (concur.resolve _) fun found => ?_
  cases found with
  | error e => exact c.related_pure _
  | ok text =>
    refine c.related_bind (concur.compile _) fun compiled => ?_
    cases compiled with
    | none => exact c.related_pure _
    | some regex =>
      refine c.related_bind (concur.select _ _ _ _ _ _) fun selected => ?_
      cases selected with
      | nil => exact c.related_pure _
      | cons first rest => exact c.related_pure _

mutual

theorem walk (concur : c.Concur a b) (captures : Captures) :
    ∀ procedure, c.Related (Procedure.walk a captures procedure)
      (Procedure.walk b captures procedure)
  | .node source searchFor repeats askUser importing assignments children => by
    simp only [Procedure.walk]
    refine c.related_bind (concur.search captures _) fun result => ?_
    obtain ⟨steps, found⟩ := result
    cases found with
    | error warning => exact c.related_pure _
    | ok selected =>
      refine c.related_bind ?_ fun _ => c.related_pure _
      exact visitEach_related _ (fun inner => walkAll concur inner children) selected

/-- Walks are related when what they find is. -/
theorem walkAll (concur : c.Concur a b) (captures : Captures) :
    ∀ procedures, c.Related (Procedure.walkAll a captures procedures)
      (Procedure.walkAll b captures procedures)
  | [] => by
    simp only [Procedure.walkAll]
    exact c.related_pure _
  | p :: ps => by
    simp only [Procedure.walkAll]
    refine c.related_bind (walk concur captures p) fun first => ?_
    exact c.related_bind (walkAll concur captures ps) fun others => c.related_pure _

end

end Concur

/-- Walks are related when what they ask of the outside is. -/
theorem walkAll_related (agree : c.Agree a b) (captures : Captures) (procedures : List Procedure) :
    c.Related (Procedure.walkAll a captures procedures)
      (Procedure.walkAll b captures procedures) :=
  agree.concur.walkAll captures procedures

end Correspondence

end Gleaner
