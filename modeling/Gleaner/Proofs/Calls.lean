import Gleaner.Scraper

set_option autoImplicit false

/-!
Calls of one scraper, each in a world as it is at the time. Apart from what preparing settles, all
that a call changes of the scraper is the cache.
-/
namespace Gleaner

inductive Call where
  | prepare (defaultsOf : String → Option Details)
  | scrape (options : ScrapeOptions) (record : Record)
  | scrapeEach (options : ScrapeOptions) (location : String) (create : Captures → Record)
  | deactivate

theorem eq_ok_of_isOk {ε : Type} {outcome : Except ε Unit} (accepted : outcome.isOk = true) :
    outcome = .ok () := by
  cases outcome with
  | ok done => rfl
  | error e => cases accepted

theorem Report.isMatch_ofRun (complete : Bool) (warnings : List Warning) :
    (ofRun complete warnings).isMatch = true := by
  cases complete <;> rfl

namespace Scraper

/-- A walk does not lead to a mismatch, whatever fails in it. -/
theorem itemOf_outcome_ne (definition : Definition) (options : ScrapeOptions) (record : Record)
    (walk : Walk) : (itemOf definition options record walk).report.outcome ≠ .mismatch :=
  bne_iff_ne.1 (Report.isMatch_ofRun _ _)

section Seeded

variable {m : Type → Type} {s : Scraper m} {fileName : Regex} {defaults : Details}

theorem ready_of_preparation (ready : s.preparation = .ready fileName defaults) :
    s.ready = .ok (fileName, defaults) := by
  simp only [Scraper.ready, ready]

theorem preparation_of_prepared {defaultsOf : String → Option Details}
    (prepared : (s.prepare defaultsOf).1 = .ok ()) :
    ∃ fileName defaults, (s.prepare defaultsOf).2.preparation = .ready fileName defaults := by
  unfold prepare at prepared ⊢
  split at prepared
  · next fileName defaults ready => exact ⟨fileName, defaults, ready⟩
  · cases prepared
  · split at prepared
    · next fileName defaults examined => exact ⟨fileName, defaults, rfl⟩
    · cases prepared

/-- A scraper that is prepared for the first time takes the name pattern of its definition, and the
defaults of its media type. -/
theorem prepare_of_pending (pending : s.preparation = .pending)
    {defaultsOf : String → Option Details} (prepared : (s.prepare defaultsOf).1 = .ok ()) :
    ∃ fileName defaults, s.definition.validate = .ok fileName ∧
      defaultsOf s.definition.targetType = some defaults ∧
      (s.prepare defaultsOf).2 = { s with preparation := .ready fileName defaults } := by
  simp only [prepare, pending, examine] at prepared ⊢
  cases valid : s.definition.validate with
  | error e =>
    rw [valid] at prepared
    cases prepared
  | ok fileName =>
    cases known : defaultsOf s.definition.targetType with
    | none =>
      simp only [valid, known] at prepared
      cases prepared
    | some defaults => exact ⟨fileName, defaults, rfl, rfl, rfl⟩

theorem prepare_of_valid (pending : s.preparation = .pending)
    {defaultsOf : String → Option Details} (valid : s.definition.validate = .ok fileName)
    (known : defaultsOf s.definition.targetType = some defaults) :
    s.prepare defaultsOf = (.ok (), { s with preparation := .ready fileName defaults }) := by
  simp only [prepare, pending, examine, valid, known]
  rfl

theorem prepare_scraper (s : Scraper m) (defaultsOf : String → Option Details) :
    (s.prepare defaultsOf).2 = { s with preparation := (s.prepare defaultsOf).2.preparation } := by
  unfold prepare
  split
  · rfl
  · rfl
  · split <;> rfl

variable [Monad m]

/-- Scrapes an item whose seed is chosen. -/
def scrapeSeeded (s : Scraper m) (options : ScrapeOptions) (record : Record) :
    Option Captures → m (Except EngineError Report × Record × Scraper m)
  | none => pure (.ok Report.mismatch, record, s)
  | some seed => do
      let (item, s) ← s.execute options seed record
      pure (.ok item.report, item.record, s)

theorem scrape_of_error {e : EngineError} (refused : s.ready = .error e)
    (options : ScrapeOptions) (record : Record) :
    s.scrape options record = pure (.error e, record, s) := by
  simp only [scrape, refused]

theorem scrapeEach_of_error {e : EngineError} (refused : s.ready = .error e)
    (options : ScrapeOptions) (location : String) (create : Captures → Record) :
    s.scrapeEach options location create = pure (.error e, s) := by
  simp only [scrapeEach, refused]

theorem scrape_of_ready (ready : s.ready = .ok (fileName, defaults)) (options : ScrapeOptions)
    (record : Record) :
    s.scrape options record =
      s.chooseSeed options record.location (seeds s.definition fileName record.location) >>=
        s.scrapeSeeded options (record.reset defaults) := by
  simp only [scrape, ready]
  refine congrArg _ (funext fun seed => ?_)
  cases seed <;> rfl

theorem scrapeEach_of_ready (ready : s.ready = .ok (fileName, defaults))
    (options : ScrapeOptions) (location : String) (create : Captures → Record) :
    s.scrapeEach options location create =
      executeEach options defaults create (seeds s.definition fileName location) s >>=
        fun scraped => pure (.ok scraped.1, scraped.2) := by
  simp only [scrapeEach, ready]

/-- What is seen of scraping one item: the answer and the record. -/
def seen (s : Scraper m) (options : ScrapeOptions) (record : Record) :
    m (Except EngineError Report × Record) := do
  let scraped ← s.scrape options record
  pure (scraped.1, scraped.2.1)

/-- What is seen of scraping the items of a location. -/
def seenEach (s : Scraper m) (options : ScrapeOptions) (location : String)
    (create : Captures → Record) : m (Except EngineError (List ScrapedItem)) := do
  let scraped ← s.scrapeEach options location create
  pure scraped.1

end Seeded

end Scraper

variable {σ : Type}

namespace Call

/-- The scraper after a call in the world `w`. -/
def after (w : σ) (s : Scraper (StateM σ)) : Call → Scraper (StateM σ)
  | prepare defaultsOf => (s.prepare defaultsOf).2
  | scrape options record => ((s.scrape options record).run w).1.2.2
  | scrapeEach options location create => ((s.scrapeEach options location create).run w).1.2
  | deactivate => s.deactivate

/-- What is settled about the definition after a call. -/
def preparation (s : Scraper (StateM σ)) : Call → Preparation
  | prepare defaultsOf => (s.prepare defaultsOf).2.preparation
  | _ => s.preparation

end Call

namespace Scraper

/-- The scraper after calls, each with the world it is made in. -/
def afterAll (s : Scraper (StateM σ)) (history : List (σ × Call)) : Scraper (StateM σ) :=
  history.foldl (fun s made => made.2.after made.1 s) s

variable (s : Scraper (StateM σ)) (w : σ)

theorem run_execute_scraper (options : ScrapeOptions) (seed : Captures) (record : Record) :
    ∃ cache, ((s.execute options seed record).run w).1.2 = { s with cache } :=
  ⟨_, rfl⟩

theorem run_executeEach_scraper (options : ScrapeOptions) (defaults : Details)
    (create : Captures → Record) (seeds : List Captures) :
    ∃ cache, ((executeEach options defaults create seeds s).run w).1.2 = { s with cache } := by
  induction seeds generalizing s w with
  | nil => exact ⟨s.cache, rfl⟩
  | cons seed rest ih =>
    obtain ⟨cache, one⟩ := run_execute_scraper s w options seed ((create seed).reset defaults)
    obtain ⟨last, others⟩ := ih ((s.execute options seed ((create seed).reset defaults)).run w).1.2
      ((s.execute options seed ((create seed).reset defaults)).run w).2
    refine ⟨last, Eq.trans ?_ (others.trans ?_)⟩
    · rfl
    · rw [one]

theorem run_scrape_scraper (options : ScrapeOptions) (record : Record) :
    ∃ cache, ((s.scrape options record).run w).1.2.2 = { s with cache } := by
  cases found : s.ready with
  | error e =>
    rw [scrape_of_error found]
    exact ⟨s.cache, rfl⟩
  | ok prepared =>
    rw [scrape_of_ready found, StateT.run_bind]
    generalize (s.chooseSeed options record.location
      (seeds s.definition prepared.1 record.location)).run w = chosen
    obtain ⟨seed, w⟩ := chosen
    cases seed with
    | none => exact ⟨s.cache, rfl⟩
    | some seed => exact run_execute_scraper s w options seed (record.reset prepared.2)

theorem run_scrapeEach_scraper (options : ScrapeOptions) (location : String)
    (create : Captures → Record) :
    ∃ cache, ((s.scrapeEach options location create).run w).1.2 = { s with cache } := by
  cases found : s.ready with
  | error e =>
    rw [scrapeEach_of_error found]
    exact ⟨s.cache, rfl⟩
  | ok prepared =>
    rw [scrapeEach_of_ready found, StateT.run_bind]
    exact run_executeEach_scraper s w options prepared.2 create
      (seeds s.definition prepared.1 location)

end Scraper

/-- What a call changes of a scraper. -/
theorem Call.after_eq (w : σ) (s : Scraper (StateM σ)) (call : Call) :
    ∃ cache, call.after w s = { s with preparation := call.preparation s, cache } := by
  cases call with
  | prepare defaultsOf => exact ⟨s.cache, s.prepare_scraper defaultsOf⟩
  | scrape options record => exact s.run_scrape_scraper w options record
  | scrapeEach options location create => exact s.run_scrapeEach_scraper w options location create
  | deactivate => exact ⟨{}, rfl⟩

/-- What is settled stays settled: preparing again changes nothing. -/
theorem Call.preparation_of_settled {s : Scraper (StateM σ)} (settled : s.preparation ≠ .pending)
    (call : Call) : call.preparation s = s.preparation := by
  cases call with
  | prepare defaultsOf =>
    simp only [preparation, Scraper.prepare]
    split
    · rfl
    · rfl
    · next pending => exact absurd pending settled
  | _ => rfl

theorem Scraper.afterAll_of_settled {s : Scraper (StateM σ)} (settled : s.preparation ≠ .pending)
    (history : List (σ × Call)) : ∃ cache, s.afterAll history = { s with cache } := by
  induction history generalizing s with
  | nil => exact ⟨s.cache, rfl⟩
  | cons made rest ih =>
    obtain ⟨cache, one⟩ := made.2.after_eq made.1 s
    rw [Call.preparation_of_settled settled] at one
    obtain ⟨last, others⟩ := ih (s := made.2.after made.1 s) (by rw [one]; exact settled)
    refine ⟨last, others.trans ?_⟩
    rw [one]

theorem Scraper.afterAll_of_ready {s : Scraper (StateM σ)} {fileName : Regex} {defaults : Details}
    (ready : s.preparation = .ready fileName defaults) (history : List (σ × Call)) :
    ∃ cache, s.afterAll history = { s with cache } := by
  refine afterAll_of_settled ?_ history
  rw [ready]
  exact nofun

end Gleaner
