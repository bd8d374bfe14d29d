import Gleaner.Proofs.Caching
import Gleaner.Proofs.Evaluation
import Gleaner.Proofs.Prompting

set_option autoImplicit false

/-!
What can be said of the results of programs, whatever they find outside. Sequencing keeps it, so
that what is said of reading, compiling and asking extends to the evaluation of procedures.
-/
namespace Gleaner

namespace PromptRequest

/-- An operator who gives the answer chooses among what he is offered, or declines. -/
def Offers (request : PromptRequest) (answer : Option (List Captures)) : Prop :=
  ∀ chosen, answer = some chosen → ∀ captures ∈ chosen, captures ∈ request.candidates

theorem Offers.mem_of_getD {request : PromptRequest} {answer : Option (List Captures)}
    (offers : request.Offers answer) {captures : Captures}
    (mem : captures ∈ answer.getD request.candidates) : captures ∈ request.candidates := by
  cases chosen : answer with
  | none => rwa [chosen] at mem
  | some captures' =>
    rw [chosen] at mem
    exact offers captures' chosen captures mem

end PromptRequest

theorem Procedure.mem_of_keep {repeats : Bool} {candidates : List Captures} {captures : Captures}
    (mem : captures ∈ keep repeats candidates) : captures ∈ candidates := by
  cases repeats with
  | true => exact mem
  | false => exact List.mem_of_mem_take mem

/-- A way to be sure of the results of programs that sequencing keeps. -/
structure Assurance (m : Type → Type) [Monad m] where
  Ensures : {α : Type} → m α → (α → Prop) → Prop
  ensures_pure : ∀ {α : Type} {a : α} {P : α → Prop}, P a → Ensures (pure a) P
  ensures_bind : ∀ {α β : Type} {x : m α} {f : α → m β} {P : α → Prop} {Q : β → Prop},
    Ensures x P → (∀ a, P a → Ensures (f a) Q) → Ensures (x >>= f) Q

namespace Assurance

/-- Programs with an outside are run in those of its states that they do not leave. -/
def within {σ : Type} (States : σ → Prop) : Assurance (StateM σ) where
  Ensures x P := ∀ w, States w → P (x.run w).1 ∧ States (x.run w).2
  ensures_pure holds _ inside := ⟨holds, inside⟩
  ensures_bind first next w inside :=
    next _ (first w inside).1 _ (first w inside).2

variable {m : Type → Type} [Monad m]

/-- Programs with a cache are run with caches that hold properly compiled patterns. -/
def cached (assurance : Assurance m) : Assurance (StateT SourceCache m) where
  Ensures x P := ∀ cache : SourceCache, cache.Compiled →
    assurance.Ensures (x.run cache) fun result => P result.1 ∧ result.2.Compiled
  ensures_pure holds _ compiled := assurance.ensures_pure ⟨holds, compiled⟩
  ensures_bind first next cache compiled :=
    assurance.ensures_bind (first cache compiled) fun result held =>
      next result.1 held.1 result.2 held.2

/-- Programs with a state of their own are run from every such state. -/
def stateful (assurance : Assurance m) (ρ : Type) : Assurance (StateT ρ m) where
  Ensures x P := ∀ s, assurance.Ensures (x.run s) fun result => P result.1
  ensures_pure holds _ := assurance.ensures_pure holds
  ensures_bind first next s :=
    assurance.ensures_bind (first s) fun result held => next result.1 held result.2

/-- Programs without an outside. -/
def plain : Assurance Id where
  Ensures x P := P x.run
  ensures_pure holds := holds
  ensures_bind first next := next _ first

/-- Nothing need be known of a program before it is run. -/
def Lenient (assurance : Assurance m) : Prop :=
  ∀ {α : Type} (x : m α), assurance.Ensures x fun _ => True

theorem plain_lenient : plain.Lenient := fun _ => trivial

theorem within_lenient {σ : Type} : (within fun _ : σ => True).Lenient :=
  fun _ _ _ => ⟨trivial, trivial⟩

variable {assurance : Assurance m}

theorem Lenient.stateful (lenient : assurance.Lenient) (ρ : Type) :
    (assurance.stateful ρ).Lenient :=
  fun x s => lenient (x.run s)

/-- What is ensured of a program for each item holds of all that they give. -/
theorem ensures_mapM [LawfulMonad m] {α β : Type} {f : α → m β} {P : β → Prop} {items : List α}
    (each : ∀ item ∈ items, assurance.Ensures (f item) P) :
    assurance.Ensures (items.mapM f) fun results => ∀ result ∈ results, P result := by
  induction items with
  | nil => exact assurance.ensures_pure (List.forall_mem_nil P)
  | cons item rest ih =>
    obtain ⟨first, others⟩ := List.forall_mem_cons.1 each
    rw [List.mapM_cons]
    refine assurance.ensures_bind first fun result holds => ?_
    refine assurance.ensures_bind (ih others) fun results all => ?_
    exact assurance.ensures_pure (List.forall_mem_cons.2 ⟨holds, all⟩)

/-- Patterns are compiled, and an operator who is asked chooses among what he is offered. -/
structure Sound (assurance : Assurance m) (access : Access m) : Prop where
  resolve : ∀ reference, assurance.Ensures (access.resolve reference) fun _ => True
  compile : ∀ text, assurance.Ensures (access.compile text) (· = Regex.compile? text)
  prompter : ∀ prompter, access.prompter = some prompter →
    ∀ request, assurance.Ensures (prompter.choose request) request.Offers

namespace Sound

open Procedure

variable {access : Access m}

theorem chooseAmong (sound : assurance.Sound access) {prompter : Prompter m}
    (asked : access.prompter = some prompter) (repeats : Bool) (reference pattern : String)
    (candidates : List Captures) :
    assurance.Ensures (chooseAmong access prompter repeats reference pattern candidates)
      fun selected => ∀ captures ∈ selected, captures ∈ candidates := by
  unfold Procedure.chooseAmong
  split
  · exact assurance.ensures_pure (List.forall_mem_nil _)
  · refine assurance.ensures_bind (sound.prompter prompter asked _) fun answer offers => ?_
    exact assurance.ensures_pure fun captures mem => offers.mem_of_getD (mem_of_keep mem)

/-- What is selected are matches of the pattern. -/
theorem select (sound : assurance.Sound access) (repeats askUser : Bool)
    (reference pattern : String) (regex : Regex) (text : String) :
    assurance.Ensures (select access repeats askUser reference pattern regex text)
      fun selected => ∀ captures ∈ selected, captures ∈ regex.all text := by
  unfold Procedure.select
  split
  · next prompter asked =>
    exact sound.chooseAmong (Option.ite_none_right_eq_some.1 asked).2 _ _ _ _
  · refine assurance.ensures_pure fun captures mem => ?_
    rw [keep_all] at mem
    exact mem_of_keep mem

/-- What a procedure finds are matches of its expanded pattern. -/
theorem find (sound : assurance.Sound access) (given : Captures) (procedure : Procedure) :
    assurance.Ensures (find access given procedure) fun found => ∀ selected, found = .ok selected →
      ∃ regex text, Regex.compile? (Template.expand procedure.searchFor given).text = some regex ∧
        ∀ captures ∈ selected, captures ∈ regex.all text := by
  unfold Procedure.find
  refine assurance.ensures_bind (sound.resolve _) fun read _ => ?_
  cases read with
  | error e => exact assurance.ensures_pure nofun
  | ok text =>
    refine assurance.ensures_bind (sound.compile _) fun compiled same => ?_
    cases compiled with
    | none => exact assurance.ensures_pure nofun
    | some regex =>
      refine assurance.ensures_bind (sound.select _ _ _ _ _ _) fun selected matched => ?_
      cases selected with
      | nil => exact assurance.ensures_pure nofun
      | cons first rest =>
        refine assurance.ensures_pure fun selected' found => ?_
        cases found
        exact ⟨regex, text, same.symm, matched⟩

end Sound

end Assurance

end Gleaner
