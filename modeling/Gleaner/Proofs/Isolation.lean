import Gleaner.Proofs.Correspondence
import Gleaner.Proofs.Items
import Gleaner.Proofs.World

set_option autoImplicit false

/-!
No item leaks into the next: whatever was done with a scraper before, it scrapes as one that was
just prepared. What is kept of earlier calls is the cache alone, and no item starts with it.
-/
namespace Gleaner

namespace Scraper

variable {m n : Type → Type} [Monad m] [Monad n]

/-- Scrapers that are prepared alike and ask the same of the outside. Their caches may differ. -/
structure Alike (c : Correspondence m n) (s : Scraper m) (t : Scraper n) : Prop where
  definition : s.definition = t.definition
  preparation : s.preparation = t.preparation
  read : ∀ reference, c.Related (s.reader.read reference) (t.reader.read reference)
  prompter : Option.Rel (fun p q => ∀ request, c.Related (p.choose request) (q.choose request))
    s.prompter t.prompter

variable {c : Correspondence m n} {s : Scraper m} {t : Scraper n}

theorem Alike.ready (alike : s.Alike c t) : s.ready = t.ready := by
  simp only [Scraper.ready, alike.preparation, alike.definition]

theorem Alike.with_cache (alike : s.Alike c t) (cache cache' : SourceCache) :
    Alike c { s with cache } { t with cache := cache' } :=
  ⟨alike.definition, alike.preparation, alike.read, alike.prompter⟩

theorem Alike.chooseSeed (alike : s.Alike c t) (options : ScrapeOptions) (location : String)
    (candidates : List Captures) :
    c.Related (s.chooseSeed options location candidates)
      (t.chooseSeed options location candidates) := by
  unfold Scraper.chooseSeed
  rw [alike.definition]
  have prompters := alike.prompter
  by_cases asked : options.askUser ∧ 1 < candidates.length
  · rw [if_pos asked, if_pos asked]
    cases p : s.prompter <;> cases q : t.prompter <;> rw [p, q] at prompters
    · exact c.related_pure _
    · cases prompters
    · cases prompters
    · cases prompters with
      | some answers => exact c.related_bind (answers _) fun answer => c.related_pure _
  · rw [if_neg asked, if_neg asked]
    exact c.related_pure _

theorem Alike.access (alike : s.Alike c t) (options : ScrapeOptions) :
    (c.stateT SourceCache).Agree (s.access options) (t.access options) where
  scraper := congrArg Definition.name alike.definition
  resolve reference cache := Correspondence.resolve_related alike.read cache reference
  compile text cache := c.related_pure _
  prompter := by
    have prompters := alike.prompter
    cases asking : options.askUser with
    | false =>
      simp only [Scraper.access, Access.cached, asking, Bool.false_eq_true, ↓reduceIte]
      exact .none
    | true =>
      simp only [Scraper.access, Access.cached, asking, ↓reduceIte]
      cases p : s.prompter <;> cases q : t.prompter <;> rw [p, q] at prompters
      · exact .none
      · cases prompters
      · cases prompters
      · cases prompters with
        | some answers =>
          exact .some fun request cache =>
            c.related_bind (answers request) fun answer => c.related_pure _

variable [LawfulMonad m] [LawfulMonad n]

theorem Alike.execute (alike : s.Alike c t) (options : ScrapeOptions) (seed : Captures)
    (record : Record) {α : Type} {f : ScrapedItem × Scraper m → m α}
    {g : ScrapedItem × Scraper n → n α}
    (next : ∀ item cache, c.Related (f (item, { s with cache })) (g (item, { t with cache }))) :
    c.Related (s.execute options seed record >>= f) (t.execute options seed record >>= g) := by
  have walks := Correspondence.walkAll_related (alike.access options) seed
    s.definition.procedures {}
  simp only [Scraper.execute, bind_assoc, pure_bind]
  rw [← alike.definition]
  refine c.related_bind walks fun walked => ?_
  simpa only [← alike.definition] using
    next (itemOf s.definition options record walked.1) walked.2

theorem Alike.seen (alike : s.Alike c t) (options : ScrapeOptions) (record : Record) :
    c.Related (s.seen options record) (t.seen options record) := by
  unfold Scraper.seen
  cases found : s.ready with
  | error e =>
    rw [scrape_of_error found, scrape_of_error (alike.ready ▸ found), pure_bind, pure_bind]
    exact c.related_pure _
  | ok prepared =>
    rw [scrape_of_ready found, scrape_of_ready (alike.ready ▸ found), bind_assoc, bind_assoc,
      alike.definition]
    refine c.related_bind (alike.chooseSeed options _ _) fun seed => ?_
    cases seed with
    | none =>
      simp only [scrapeSeeded, pure_bind]
      exact c.related_pure _
    | some seed =>
      simp only [scrapeSeeded, bind_assoc, pure_bind]
      exact alike.execute options seed _ fun item cache => c.related_pure _

theorem Alike.executeEach (alike : s.Alike c t) (options : ScrapeOptions) (defaults : Details)
    (create : Captures → Record) (seeds : List Captures) :
    c.Related (executeEach options defaults create seeds s >>= fun scraped => pure scraped.1)
      (executeEach options defaults create seeds t >>= fun scraped => pure scraped.1) := by
  induction seeds generalizing s t with
  | nil =>
    simp only [Scraper.executeEach, pure_bind]
    exact c.related_pure _
  | cons seed rest ih =>
    simp only [Scraper.executeEach, bind_assoc, pure_bind]
    refine alike.execute options seed _ fun item cache => ?_
    -- Both go on with the cache of the item, and are still alike.
    have others := c.related_bind (ih (alike.with_cache cache cache)) fun items =>
      c.related_pure (item :: items)
    simpa only [bind_assoc, pure_bind] using others

theorem Alike.seenEach (alike : s.Alike c t) (options : ScrapeOptions) (location : String)
    (create : Captures → Record) :
    c.Related (s.seenEach options location create) (t.seenEach options location create) := by
  unfold Scraper.seenEach
  cases found : s.ready with
  | error e =>
    rw [scrapeEach_of_error found, scrapeEach_of_error (alike.ready ▸ found), pure_bind,
      pure_bind]
    exact c.related_pure _
  | ok prepared =>
    rw [scrapeEach_of_ready found, scrapeEach_of_ready (alike.ready ▸ found), alike.definition]
    have scraped := c.related_bind (alike.executeEach options prepared.2 create
      (seeds t.definition prepared.1 location)) fun items =>
        c.related_pure (Except.ok (ε := EngineError) items)
    simpa only [bind_assoc, pure_bind] using scraped

end Scraper

/-- Worlds with the same texts, whose operators answer the same to whatever they are asked. -/
structure World.Alike (w w' : World) : Prop where
  files : w.files = w'.files
  operator : ∀ coming, w.operator (w.requests ++ coming) = w'.operator (w'.requests ++ coming)

theorem World.Alike.refl (w : World) : w.Alike w := ⟨rfl, fun _ => rfl⟩

theorem World.Alike.logged {w w' : World} (alike : w.Alike w') (new : List Event) :
    (w.logged new).Alike (w'.logged new) where
  files := alike.files
  operator coming := by
    rw [World.requests_logged, World.requests_logged, List.append_assoc, List.append_assoc]
    exact alike.operator (Event.requests new ++ coming)

/-- In worlds that are alike, both come to the same and ask for the same. -/
def Indistinct {α : Type} (x y : StateM World α) : Prop :=
  ∀ w w', World.Alike w w' →
    ∃ answer new, x.run w = (answer, w.logged new) ∧ y.run w' = (answer, w'.logged new)

theorem Indistinct.pure {α : Type} (a : α) :
    Indistinct (Pure.pure a) (Pure.pure a : StateM World α) := by
  intro w w' alike
  refine ⟨a, [], ?_, ?_⟩
  · rw [World.logged_nil]
    rfl
  · rw [World.logged_nil]
    rfl

theorem Indistinct.bind {α β : Type} {x y : StateM World α} {f g : α → StateM World β}
    (first : Indistinct x y) (next : ∀ a, Indistinct (f a) (g a)) :
    Indistinct (x >>= f) (y >>= g) := by
  intro w w' alike
  obtain ⟨a, new, runX, runY⟩ := first w w' alike
  obtain ⟨b, more, runF, runG⟩ := next a _ _ (alike.logged new)
  rw [World.logged_logged] at runF runG
  refine ⟨b, new ++ more, ?_, ?_⟩
  · rw [StateT.run_bind, runX]
    exact runF
  · rw [StateT.run_bind, runY]
    exact runG

def indistinct : Correspondence (StateM World) (StateM World) where
  Related := Indistinct
  related_pure := Indistinct.pure
  related_bind := Indistinct.bind

theorem indistinct_read (reference : String) :
    Indistinct (World.reader.read reference) (World.reader.read reference) := by
  intro w w' alike
  refine ⟨w.files reference, [.read reference], rfl, ?_⟩
  rw [alike.files]
  rfl

theorem indistinct_choose (request : PromptRequest) :
    Indistinct (World.prompter.choose request) (World.prompter.choose request) := by
  intro w w' alike
  refine ⟨w.operator (w.requests ++ [request]), [.asked request], rfl, ?_⟩
  rw [alike.operator]
  rfl

theorem World.scraper_alike (definition : Definition) (prompted : Bool)
    (preparation : Preparation) (cache cache' : SourceCache) :
    Scraper.Alike indistinct { World.scraper definition prompted with preparation, cache }
      { World.scraper definition prompted with preparation, cache := cache' } where
  definition := rfl
  preparation := rfl
  read := indistinct_read
  prompter := by
    cases prompted with
    | false => exact .none
    | true => exact .some indistinct_choose

namespace Scraper

variable {s : Scraper (StateM World)} {fileName : Regex} {defaults : Details}

theorem run_scrape_location {σ : Type} {s : Scraper (StateM σ)}
    (ready : s.ready = .ok (fileName, defaults)) (options : ScrapeOptions) (record : Record)
    (w : σ) : ((s.scrape options record).run w).1.2.1.location = record.location := by
  have seen : ((s.seen options record).run w).1.2.location = record.location := by
    rw [seen_eq ready, StateT.run_map]
    exact answerFrom_location _ _ _ _ _
  exact seen

/-- A record that is scraped again is what it was, and so is the answer. -/
theorem Alike.scrape_again (alike : s.Alike indistinct s)
    (ready : s.ready = .ok (fileName, defaults)) (options : ScrapeOptions) (record : Record)
    {w w' : World} (worlds : w.Alike w') :
    let once := ((s.scrape options record).run w).1
    ((once.2.2.seen options once.2.1).run w').1 = (once.1, once.2.1) := by
  intro once
  obtain ⟨cache, after⟩ := s.run_scrape_scraper w options record
  have location : record.location = once.2.1.location :=
    (run_scrape_location ready options record w).symm
  have again : Indistinct (s.seen options record) (once.2.2.seen options once.2.1) := by
    rw [seen_congr ready options location, after]
    exact (alike.with_cache s.cache cache).seen options once.2.1
  obtain ⟨answer, new, first, second⟩ := again w w' worlds
  have answered : answer = (once.1, once.2.1) := (congrArg Prod.fst first).symm
  rw [second, answered]

end Scraper

/-- A scraper that was prepared forgets what it is used for: whatever calls were made of it, in
whatever worlds, scraping is as with the scraper that was just prepared. Scraping a record again
changes neither it nor the answer. -/
theorem scraper_forgets {definition : Definition} {prompted : Bool}
    {defaultsOf : String → Option Details}
    (prepared : ((World.scraper definition prompted).prepare defaultsOf).1 = .ok ())
    (history : List (World × Call)) (options : ScrapeOptions) :
    let fresh := ((World.scraper definition prompted).prepare defaultsOf).2
    let used := fresh.afterAll history
    (∀ record, Indistinct (used.seen options record) (fresh.seen options record)) ∧
    (∀ location create, Indistinct (used.seenEach options location create)
      (fresh.seenEach options location create)) ∧
    ∀ record w w', World.Alike w w' →
      let once := ((used.scrape options record).run w).1
      ((once.2.2.seen options once.2.1).run w').1 = (once.1, once.2.1) := by
  intro fresh used
  obtain ⟨fileName, defaults, ready⟩ := Scraper.preparation_of_prepared prepared
  obtain ⟨cache, after⟩ := Scraper.afterAll_of_ready ready history
  have settled := Scraper.prepare_scraper (World.scraper definition prompted) defaultsOf
  have alike : ∀ cache cache', Scraper.Alike indistinct { fresh with cache }
      { fresh with cache := cache' } := by
    intro cache cache'
    rw [show fresh = _ from settled]
    exact World.scraper_alike definition prompted _ cache cache'
  have beside : used.Alike indistinct fresh := by
    rw [show used = _ from after]
    exact alike cache fresh.cache
  refine ⟨beside.seen options, beside.seenEach options, fun record w w' worlds => ?_⟩
  have usedReady : used.ready = .ok (fileName, defaults) :=
    beside.ready.trans (Scraper.ready_of_preparation ready)
  have self : used.Alike indistinct used := by
    rw [show used = _ from after]
    exact alike cache cache
  exact self.scrape_again usedReady options record worlds

/-- What is left of an album does not show when it is scraped again. -/
theorem scraper_forgets_albums :
    let fresh := ((World.scraper albums true).prepare albumTypes).2
    let album := Record.fresh "one" Dict.empty
    let used := fresh.afterAll [(shelf, .scrape {} album), (shelf, .prepare fun _ => none)]
    let once := ((used.scrape {} album).run shelf).1
    ((World.scraper albums true).prepare albumTypes).1 = .ok () ∧ used.cachedSources = 1 ∧
    Indistinct (used.seen {} album) (fresh.seen {} album) ∧
    Indistinct (used.seenEach {} "one" fun _ => album) (fresh.seenEach {} "one" fun _ => album) ∧
    ((once.2.2.seen {} once.2.1).run shelf).1 = (once.1, once.2.1) := by
  have accepted : ((World.scraper albums true).prepare albumTypes).1.isOk = true := by
    decide +kernel
  have prepared : ((World.scraper albums true).prepare albumTypes).1 = .ok () := by
    cases outcome : ((World.scraper albums true).prepare albumTypes).1 with
    | ok done => rfl
    | error e =>
      rw [outcome] at accepted
      cases accepted
  intro fresh album used once
  obtain ⟨single, each, again⟩ := scraper_forgets prepared
    [(shelf, .scrape {} album), (shelf, .prepare fun _ => none)] {}
  have held : used.cachedSources = 1 := by decide +kernel
  exact ⟨prepared, held, single album, each "one" fun _ => album,
    again album shelf shelf (World.Alike.refl shelf)⟩

end Gleaner
