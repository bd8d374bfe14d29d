import Gleaner.Proofs.Agreement
import Gleaner.Proofs.Caching
import Gleaner.Proofs.Prompting

set_option autoImplicit false

/-!
Scraping while the texts stay what they are and the operator, if he is asked, answers by a rule. A
walk is then a function of its seed, and an item one of its seed and its record: neither a cache
nor what was asked before counts.
-/
namespace Gleaner

/-- How requests are answered, if there is anybody to ask. -/
abbrev Rule := Option (PromptRequest → Option (List Captures))

variable {files : String → Except SourceError String} {rule : Rule}

/-- A world with these texts, whose operator answers by the rule from now on. -/
structure World.Still (files : String → Except SourceError String) (rule : Rule) (w : World) :
    Prop where
  files : w.files = files
  operator : ∀ answers, rule = some answers → ∀ earlier request,
    w.operator (w.requests ++ (earlier ++ [request])) = answers request

theorem World.Still.logged {w : World} (still : w.Still files rule) (new : List Event) :
    (w.logged new).Still files rule where
  files := still.files
  operator answers ruled earlier request := by
    rw [World.requests_logged, List.append_assoc, ← List.append_assoc (Event.requests new)]
    exact still.operator answers ruled _ request

theorem World.Still.unruled {w : World} (same : w.files = files) : w.Still files none :=
  ⟨same, fun _ ruled => nomatch ruled⟩

/-- An operator whose answers depend on the requests alone answers by a rule. -/
theorem World.still_of_answers {w : World} {answers : PromptRequest → Option (List Captures)}
    (operator : ∀ earlier request, w.operator (earlier ++ [request]) = answers request)
    (asks : Bool) : w.Still w.files (if asks then some answers else none) where
  files := rfl
  operator answers' ruled earlier request := by
    obtain ⟨-, same⟩ := Option.ite_none_right_eq_some.1 ruled
    rw [← List.append_assoc, operator, Option.some.inj same]

/-- A program comes to this in every such world, with whichever cache that agrees with it. -/
def Settles (files : String → Except SourceError String) (rule : Rule) {α : Type}
    (x : StateT SourceCache (StateM World) α) (a : Id α) : Prop :=
  ∀ w cache, World.Still files rule w → cache.Agrees files →
    ∃ after new, (x.run cache).run w = ((a, after), w.logged new) ∧ after.Agrees files

theorem Settles.pure {α : Type} (a : α) : Settles files rule (Pure.pure a) (Pure.pure a) := by
  intro w cache still agrees
  refine ⟨cache, [], ?_, agrees⟩
  rw [World.logged_nil]
  rfl

theorem Settles.bind {α β : Type} {x : StateT SourceCache (StateM World) α} {a : Id α}
    {f : α → StateT SourceCache (StateM World) β} {g : α → Id β} (first : Settles files rule x a)
    (next : ∀ a, Settles files rule (f a) (g a)) : Settles files rule (x >>= f) (a >>= g) := by
  intro w cache still agrees
  obtain ⟨middle, new, runX, agrees⟩ := first w cache still agrees
  obtain ⟨after, more, runF, agrees⟩ := next a _ middle (still.logged new) agrees
  rw [World.logged_logged] at runF
  refine ⟨after, new ++ more, ?_, agrees⟩
  rw [StateT.run_bind, StateT.run_bind, runX]
  exact runF

/-- Programs with a cache, and what they settle. -/
def settling (files : String → Except SourceError String) (rule : Rule) :
    Correspondence (StateT SourceCache (StateM World)) Id where
  Related := Settles files rule
  related_pure := Settles.pure
  related_bind := Settles.bind

theorem settles_resolve (reference : String) :
    Settles files rule (fun cache => cache.resolve World.reader reference) (files reference) := by
  intro w cache still agrees
  cases held : cache.contents.find? reference with
  | some text =>
    refine ⟨cache, [], ?_, agrees⟩
    rw [World.logged_nil, agrees.contents reference text held]
    exact SourceCache.run_resolve_of_some held w
  | none =>
    have run := SourceCache.run_resolve_of_none held w
    rw [still.files] at run
    refine ⟨_, [.read reference], run, ?_⟩
    cases found : files reference with
    | ok text => exact agrees.insert_contents found
    | error e => exact agrees

theorem settles_compile (text : String) :
    Settles files rule (fun cache => pure (cache.pattern text)) (Regex.compile? text) := by
  intro w cache still agrees
  refine ⟨(cache.pattern text).2, [], ?_, SourceCache.pattern_agrees agrees text⟩
  rw [World.logged_nil, ← SourceCache.pattern_fst agrees text]
  rfl

theorem settles_choose (answers : PromptRequest → Option (List Captures))
    (request : PromptRequest) :
    Settles files (some answers) (StateT.lift (World.prompter.choose request))
      (answers request) := by
  intro w cache still agrees
  refine ⟨cache, [.asked request], ?_, agrees⟩
  rw [← still.operator answers rfl [] request]
  rfl

/-- Reads texts that are at hand, and asks by the rule. -/
def Access.still (scraper : String) (files : String → Except SourceError String) (rule : Rule) :
    Access Id :=
  .direct scraper ⟨"world", files⟩ (rule.map fun answers => ⟨answers⟩)

/-- An operator who always declines makes no difference. -/
theorem walkAll_declined (scraper : String) (files : String → Except SourceError String)
    (seed : Captures) (procedures : List Procedure) :
    Procedure.walkAll (Access.still scraper files (some fun _ => none)) seed procedures =
      Procedure.walkAll (Access.still scraper files none) seed procedures := by
  have concur : Correspondence.equal.Concur (Access.still scraper files (some fun _ => none))
      (Access.still scraper files none) := {
    resolve := fun _ => rfl
    compile := fun _ => rfl
    select := Correspondence.Neutral.select (fun prompter there => by
      cases there
      exact fun request => ⟨none, .inl rfl, rfl⟩) rfl }
  exact concur.walkAll seed procedures

/-- A scraper that reads and asks in the world. -/
structure Scraper.InWorld (s : Scraper (StateM World)) : Prop where
  reader : s.reader = World.reader
  prompter : ∀ prompter, s.prompter = some prompter → prompter = World.prompter

theorem World.scraper_inWorld (definition : Definition) (prompted : Bool)
    (preparation : Preparation) (cache : SourceCache) :
    Scraper.InWorld { World.scraper definition prompted with preparation, cache } where
  reader := rfl
  prompter prompter there := by
    cases prompted with
    | false => cases there
    | true => exact (Option.some.inj there).symm

theorem run_then {σ α β : Type} {x : StateM σ α} {f : α → StateM σ β} {w w' : σ} {a : α}
    (ran : x.run w = (a, w')) : (x >>= f).run w = (f a).run w' := by
  rw [StateT.run_bind, ran]
  rfl

namespace Scraper

/-- The item that the rules make of a seed. -/
def stillItem (definition : Definition) (options : ScrapeOptions)
    (files : String → Except SourceError String) (rule : Rule) (seed : Captures)
    (record : Record) : ScrapedItem :=
  itemOf definition options record
    (Procedure.walkAll (Access.still definition.name files rule) seed definition.procedures).run

/-- The answer and the record that the choice of a seed leads to. -/
def stillAnswer (definition : Definition) (options : ScrapeOptions)
    (files : String → Except SourceError String) (rule : Rule) (record : Record) :
    Option Captures → Except EngineError Report × Record
  | none => (.ok Report.mismatch, record)
  | some seed =>
      let item := stillItem definition options files rule seed record
      (.ok item.report, item.record)

/-- There is a rule for the requests just where somebody is asked. -/
def Ruled (s : Scraper (StateM World)) (options : ScrapeOptions) (rule : Rule) : Prop :=
  rule.isSome = (options.askUser && s.prompter.isSome)

theorem ruled_of_asks (s : Scraper (StateM World)) (options : ScrapeOptions)
    (answers : PromptRequest → Option (List Captures)) :
    s.Ruled options (if options.askUser && s.prompter.isSome then some answers else none) := by
  unfold Ruled
  cases options.askUser && s.prompter.isSome <;> rfl

variable {s : Scraper (StateM World)} {options : ScrapeOptions} {fileName : Regex}
  {defaults : Details} {w w' : World}

theorem InWorld.with_cache (inWorld : s.InWorld) (cache : SourceCache) :
    InWorld { s with cache } := ⟨inWorld.reader, inWorld.prompter⟩

theorem InWorld.access (inWorld : s.InWorld) (ruled : s.Ruled options rule) :
    (settling files rule).Agree (s.access options)
      (Access.still s.definition.name files rule) where
  scraper := rfl
  resolve reference := by
    simp only [Scraper.access, Access.cached, inWorld.reader]
    exact settles_resolve reference
  compile := settles_compile
  prompter := by
    cases rule with
    | none =>
      have nobody : (s.access options).prompter = none := by
        cases asked : (s.access options).prompter with
        | none => rfl
        | some prompter =>
          obtain ⟨asks, plain, there, -⟩ := access_prompter asked
          simp [Ruled, asks, there] at ruled
      rw [nobody]
      exact .none
    | some answers =>
      have asked := ruled.symm
      rw [Option.isSome_some, Bool.and_eq_true, Option.isSome_iff_exists] at asked
      obtain ⟨asks, prompter, there⟩ := asked
      simp only [Scraper.access, Access.cached, asks, there, inWorld.prompter prompter there]
      exact .some (settles_choose answers)

/-- The item is what the rules make of its seed, whatever the cache held before. -/
theorem InWorld.run_execute (inWorld : s.InWorld) (ruled : s.Ruled options rule)
    (still : w.Still files rule) (seed : Captures) (record : Record) :
    ∃ cache new, (s.execute options seed record).run w =
      ((stillItem s.definition options files rule seed record, { s with cache }),
        w.logged new) := by
  obtain ⟨cache, new, ran, -⟩ :=
    Correspondence.walkAll_related (inWorld.access ruled) seed s.definition.procedures w {} still
      SourceCache.empty_agrees
  exact ⟨cache, new, run_then ran⟩

theorem InWorld.run_executeEach (inWorld : s.InWorld) (ruled : s.Ruled options rule)
    (still : w.Still files rule) (defaults : Details) (create : Captures → Record)
    (seeds : List Captures) :
    ∃ cache new, (executeEach options defaults create seeds s).run w =
      ((seeds.map fun seed =>
        stillItem s.definition options files rule seed ((create seed).reset defaults),
        { s with cache }), w.logged new) := by
  induction seeds generalizing s w with
  | nil => exact ⟨s.cache, [], by rw [World.logged_nil]; rfl⟩
  | cons seed rest ih =>
    obtain ⟨cache, new, one⟩ := inWorld.run_execute ruled still seed ((create seed).reset defaults)
    obtain ⟨last, more, others⟩ := ih (inWorld.with_cache cache) ruled (still.logged new)
    refine ⟨last, new ++ more, ?_⟩
    rw [World.logged_logged] at others
    rw [executeEach, run_then one, run_then others]
    rfl

theorem InWorld.run_chooseSeed (inWorld : s.InWorld) (options : ScrapeOptions)
    (location : String) (candidates : List Captures) (w : World) :
    ∃ seed new, (s.chooseSeed options location candidates).run w = (seed, w.logged new) := by
  unfold chooseSeed
  split
  · exact ⟨_, [], by rw [World.logged_nil]; rfl⟩
  · next prompter asked =>
    have there : s.prompter = some prompter :=
      (Option.ite_none_right_eq_some.1 asked).2
    rw [inWorld.prompter prompter there]
    exact ⟨_, [.asked _], rfl⟩

theorem InWorld.run_seen (inWorld : s.InWorld) (ready : s.ready = .ok (fileName, defaults))
    (ruled : s.Ruled options rule) {record : Record} {seed : Option Captures}
    (chosen : (s.chooseSeed options record.location
      (seeds s.definition fileName record.location)).run w = (seed, w'))
    (still : w'.Still files rule) :
    ((s.seen options record).run w).1 =
      stillAnswer s.definition options files rule (record.reset defaults) seed := by
  rw [seen, scrape_of_ready ready, bind_assoc, run_then chosen]
  cases seed with
  | none => rfl
  | some seed =>
    obtain ⟨cache, new, ran⟩ := inWorld.run_execute ruled still seed (record.reset defaults)
    rw [scrapeSeeded, bind_assoc, run_then ran]
    rfl

theorem InWorld.run_seenEach (inWorld : s.InWorld) (ready : s.ready = .ok (fileName, defaults))
    (ruled : s.Ruled options rule) (still : w.Still files rule) (location : String)
    (create : Captures → Record) :
    ((s.seenEach options location create).run w).1 =
      .ok ((seeds s.definition fileName location).map fun seed =>
        stillItem s.definition options files rule seed ((create seed).reset defaults)) := by
  obtain ⟨cache, new, ran⟩ := inWorld.run_executeEach ruled still defaults create
    (seeds s.definition fileName location)
  rw [seenEach, scrapeEach_of_ready ready, bind_assoc, run_then ran]
  rfl

end Scraper

end Gleaner
