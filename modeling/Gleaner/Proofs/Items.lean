import Gleaner.Proofs.Calls
import Gleaner.Proofs.Evaluation

set_option autoImplicit false

/-!
Scraped items, as what is made of the evaluations of their rules. Scraping has the effects of the
evaluations and no others, and its answers are a function of them.
-/
namespace Gleaner

namespace Scraper

variable {m : Type → Type} [Monad m]

/-- Evaluates the rules for one item, from an empty cache. -/
def evaluate (s : Scraper m) (options : ScrapeOptions) (seed : Captures) :
    m (List Evaluation) := do
  let (found, _) ← (Procedure.evaluateAll (s.access options) seed s.definition.procedures).run {}
  pure found

/-- Evaluates the rules for one item after the other; each comes with its seed. -/
def evaluateEach (s : Scraper m) (options : ScrapeOptions) (seeds : List Captures) :
    m (List (Captures × List Evaluation)) :=
  seeds.mapM fun seed => do
    let found ← s.evaluate options seed
    pure (seed, found)

/-- Evaluates the rules for the item at a location, if it has a seed. -/
def evaluations (s : Scraper m) (options : ScrapeOptions) (location : String) :
    m (Option (List Evaluation)) :=
  match s.ready with
  | .error _ => pure none
  | .ok (fileName, _) => do
      match ← s.chooseSeed options location (seeds s.definition fileName location) with
      | none => pure none
      | some seed => do
          let found ← s.evaluate options seed
          pure (some found)

/-- Evaluates the rules for every item of a location. -/
def evaluationsEach (s : Scraper m) (options : ScrapeOptions) (location : String) :
    m (List (Captures × List Evaluation)) :=
  match s.ready with
  | .error _ => pure []
  | .ok (fileName, _) => s.evaluateEach options (seeds s.definition fileName location)

/-- The item that evaluations make of a record. -/
def itemFrom (definition : Definition) (options : ScrapeOptions) (defaults : Details)
    (record : Record) (found : List Evaluation) : ScrapedItem :=
  itemOf definition options (record.reset defaults) (Evaluation.walkAll found)

/-- The answer and the record that evaluations lead to, if there were any. -/
def answerFrom (definition : Definition) (options : ScrapeOptions) (defaults : Details)
    (record : Record) : Option (List Evaluation) → Except EngineError Report × Record
  | none => (.ok Report.mismatch, record.reset defaults)
  | some found =>
      let item := itemFrom definition options defaults record found
      (.ok item.report, item.record)

/-- The items that evaluations make of the records that are created from their seeds. -/
def itemsFrom (definition : Definition) (options : ScrapeOptions) (defaults : Details)
    (create : Captures → Record) (found : List (Captures × List Evaluation)) :
    List ScrapedItem :=
  found.map fun item => itemFrom definition options defaults (create item.1) item.2

theorem access_with_cache (s : Scraper m) (options : ScrapeOptions) (cache : SourceCache) :
    access { s with cache } options = s.access options := rfl

variable [LawfulMonad m] {s : Scraper m} {fileName : Regex} {defaults : Details}

theorem execute_eq (s : Scraper m) (options : ScrapeOptions) (seed : Captures)
    (record : Record) :
    s.execute options seed (record.reset defaults) =
      (Procedure.evaluateAll (s.access options) seed s.definition.procedures).run {} >>=
        fun found => pure (itemFrom s.definition options defaults record found.1,
          { s with cache := found.2 }) := by
  simp only [execute, Procedure.walkAll_eq, StateT.run_map]
  simp only [map_eq_pure_bind, bind_assoc, pure_bind, itemFrom]

theorem seen_eq (ready : s.ready = .ok (fileName, defaults)) (options : ScrapeOptions)
    (record : Record) :
    s.seen options record =
      answerFrom s.definition options defaults record <$>
        s.evaluations options record.location := by
  simp only [seen, scrape_of_ready ready, evaluations, ready, map_eq_pure_bind, bind_assoc]
  refine bind_congr fun seed => ?_
  cases seed with
  | none => simp only [scrapeSeeded, pure_bind, answerFrom]
  | some seed =>
    simp only [scrapeSeeded, execute_eq, evaluate, bind_assoc, pure_bind, answerFrom]

theorem answerFrom_location (definition : Definition) (options : ScrapeOptions)
    (defaults : Details) (record : Record) (found : Option (List Evaluation)) :
    (answerFrom definition options defaults record found).2.location = record.location := by
  cases found with
  | none => rfl
  | some found => exact Step.writeAll_location _ _ _

/-- Of the record that is scraped only the location counts. -/
theorem seen_congr (ready : s.ready = .ok (fileName, defaults)) (options : ScrapeOptions)
    {record record' : Record} (same : record.location = record'.location) :
    s.seen options record = s.seen options record' := by
  have reset : record.reset defaults = record'.reset defaults := congrArg (Record.fresh · _) same
  rw [seen_eq ready, seen_eq ready, same]
  refine congrArg (· <$> _) (funext fun found => ?_)
  cases found with
  | none => simp only [answerFrom, reset]
  | some found => simp only [answerFrom, itemFrom, reset]

theorem executeEach_eq (s : Scraper m) (options : ScrapeOptions) (defaults : Details)
    (create : Captures → Record) (seeds : List Captures) :
    (executeEach options defaults create seeds s >>= fun scraped => pure scraped.1) =
      itemsFrom s.definition options defaults create <$> s.evaluateEach options seeds := by
  unfold evaluateEach
  induction seeds generalizing s with
  | nil => simp only [executeEach, List.mapM_nil, pure_bind, map_pure, itemsFrom, List.map_nil]
  | cons seed rest ih =>
    simp only [executeEach, execute_eq, evaluate, List.mapM_cons, map_eq_pure_bind, bind_assoc,
      pure_bind]
    refine bind_congr fun found => ?_
    -- The next item starts from an empty cache, whatever this one leaves in the scraper.
    have others := congrArg
      (fun scraped => scraped >>= fun items => pure
        (itemFrom s.definition options defaults (create seed) found.1 :: items))
      (ih { s with cache := found.2 })
    simpa only [evaluate, access_with_cache, map_eq_pure_bind, bind_assoc, pure_bind, itemsFrom,
      List.map_cons] using others

theorem seenEach_eq (ready : s.ready = .ok (fileName, defaults)) (options : ScrapeOptions)
    (location : String) (create : Captures → Record) :
    s.seenEach options location create =
      (fun found => .ok (itemsFrom s.definition options defaults create found)) <$>
        s.evaluationsEach options location := by
  have scraped := congrArg (fun items => items >>= fun items => pure
      (Except.ok (ε := EngineError) items))
    (executeEach_eq s options defaults create (seeds s.definition fileName location))
  simpa only [seenEach, scrapeEach_of_ready ready, evaluationsEach, ready, map_eq_pure_bind,
    bind_assoc, pure_bind] using scraped

end Scraper

end Gleaner
