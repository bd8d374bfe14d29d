import Gleaner.Proofs.Correspondence
import Gleaner.Proofs.Recording

set_option autoImplicit false

/-!
What a cache does, told from its history: since it was last cleared, every source is read until a
read of it succeeds, and never again. So the sources that a scraper holds are those that were read
for its latest item. Main statement: `cache_follows_reads`.
-/
namespace Gleaner

variable {σ : Type}

namespace SourceCache

/-- What can be asked of a cache or done to it. -/
inductive Operation where
  | resolve (reference : String)
  | pattern (text : String)
  | isCached (reference : String)
  | clear
  deriving DecidableEq

inductive Answer where
  | source (found : Except SourceError String)
  | compiled (regex : Option Regex)
  | cached (held : Bool)
  | cleared

def perform {m : Type → Type} [Monad m] (reader : Reader m) (cache : SourceCache) :
    Operation → m (Answer × SourceCache)
  | .resolve reference => do
      let (found, cache) ← cache.resolve reader reference
      pure (.source found, cache)
  | .pattern text => pure (.compiled (cache.pattern text).1, (cache.pattern text).2)
  | .isCached reference => pure (.cached (cache.isCached reference), cache)
  | .clear => pure (.cleared, cache.clear)

/-- What came of an operation. -/
structure Performed (σ : Type) where
  answer : Answer
  /-- What was read for it. -/
  exchanges : List Exchange
  cache : SourceCache
  /-- What the outside became. -/
  outside : σ

/-- Performs an operation while the outside is in the state `w`. -/
def performed (reader : Reader (StateM σ)) (cache : SourceCache) (w : σ) (operation : Operation) :
    Performed σ :=
  let ran := (cache.perform reader.recorded operation).run ([], w)
  ⟨ran.1.1, ran.2.1, ran.1.2, ran.2.2⟩

/-- A cache in use, and what was read for it since it was last cleared. -/
structure Session where
  cache : SourceCache
  since : List Exchange

namespace Session

/-- The session after one more operation, in a state of the outside that may be any. -/
def next (reader : Reader (StateM σ)) (s : Session) (made : σ × Operation) : Session :=
  let done := performed reader s.cache made.1 made.2
  ⟨done.cache, if made.2 = .clear then [] else s.since ++ done.exchanges⟩

def run (reader : Reader (StateM σ)) (s : Session) (history : List (σ × Operation)) : Session :=
  history.foldl (next reader) s

/-- A new cache after operations, each with the state of the outside at the time. -/
def after (reader : Reader (StateM σ)) (history : List (σ × Operation)) : Session :=
  run reader ⟨empty, []⟩ history

end Session

/-- Two performances that cannot be told apart, whatever the caches have become. -/
structure Performed.Same (x y : Performed σ) : Prop where
  answer : x.answer = y.answer
  exchanges : x.exchanges = y.exchanges
  outside : x.outside = y.outside

variable {reader : Reader (StateM σ)} {cache : SourceCache} {since : List Exchange}

theorem performed_resolve_of_held {reference text : String}
    (held : cache.contents.find? reference = some text) (w : σ) :
    performed reader cache w (.resolve reference) = ⟨.source (.ok text), [], cache, w⟩ := by
  have ran := run_resolve_of_held reader held ([], w)
  simp only [performed, perform]
  rw [StateT.run_bind, ran]
  rfl

theorem performed_resolve_of_missing {reference : String}
    (missing : cache.contents.find? reference = none) (w : σ) :
    let found := (reader.read reference).run w
    performed reader cache w (.resolve reference) =
      ⟨.source found.1, [.read reference found.1], match found.1 with
        | .ok text => { cache with contents := cache.contents.insert reference text }
        | .error _ => cache, found.2⟩ := by
  intro found
  have ran := run_resolve_of_missing reader missing [] w
  simp only [performed, perform]
  rw [StateT.run_bind, ran]
  rfl

/-- Each operation leaves a cache that mirrors what was read since the last clearing. -/
theorem Session.next_mirrors {s : Session} (mirrors : s.cache.Mirrors s.since)
    (made : σ × Operation) : (s.next reader made).cache.Mirrors (s.next reader made).since := by
  obtain ⟨w, operation⟩ := made
  cases operation with
  | resolve reference =>
    simp only [next]
    cases held : s.cache.contents.find? reference with
    | some text =>
      rw [performed_resolve_of_held held]
      simpa using mirrors
    | none =>
      rw [performed_resolve_of_missing held]
      exact mirrors.read held _
  | pattern text =>
    have same : (s.next reader (w, .pattern text)).since = s.since := List.append_nil _
    rw [same]
    exact mirrors.pattern text
  | isCached reference =>
    have same : (s.next reader (w, .isCached reference)).since = s.since := List.append_nil _
    rw [same]
    exact mirrors
  | clear => exact empty_mirrors

theorem Session.run_mirrors {s : Session} (mirrors : s.cache.Mirrors s.since)
    (history : List (σ × Operation)) :
    (s.run reader history).cache.Mirrors (s.run reader history).since := by
  induction history generalizing s with
  | nil => exact mirrors
  | cons made rest ih => exact ih (next_mirrors mirrors made)

/-- An operation reads no source but the one that it resolves. -/
theorem Session.not_mem_since_next {s : Session} {reference : String}
    {found : Except SourceError String} (missing : .read reference found ∉ s.since)
    {made : σ × Operation} (other : made.2 ≠ .resolve reference) :
    .read reference found ∉ (s.next reader made).since := by
  obtain ⟨w, operation⟩ := made
  cases operation with
  | resolve reference' =>
    have apart : reference ≠ reference' := by
      rintro rfl
      exact other rfl
    simp only [next]
    cases held : s.cache.contents.find? reference' with
    | some text =>
      rw [performed_resolve_of_held held]
      simpa using missing
    | none =>
      rw [performed_resolve_of_missing held]
      simp [missing, apart]
  | pattern text =>
    have same : (s.next reader (w, .pattern text)).since = s.since := List.append_nil _
    rwa [same]
  | isCached reference' =>
    have same : (s.next reader (w, .isCached reference')).since = s.since := List.append_nil _
    rwa [same]
  | clear => exact List.not_mem_nil

theorem Session.not_mem_since_run {s : Session} {reference : String}
    {found : Except SourceError String} (missing : .read reference found ∉ s.since)
    {history : List (σ × Operation)} (others : ∀ made ∈ history, made.2 ≠ .resolve reference) :
    .read reference found ∉ (s.run reader history).since := by
  induction history generalizing s with
  | nil => exact missing
  | cons made rest ih =>
    obtain ⟨here, there⟩ := List.forall_mem_cons.1 others
    exact ih (not_mem_since_next missing here) there

/-- The law of a cache that is in use. -/
structure Session.Lawful (reader : Reader (StateM σ)) (s : Session) : Prop where
  /-- What was read with success is not read again, whatever has become of the source. -/
  spared : ∀ reference text, .read reference (.ok text) ∈ s.since → ∀ w,
    performed reader s.cache w (.resolve reference) = ⟨.source (.ok text), [], s.cache, w⟩
  /-- All else is read; a read that fails is reported, and stores nothing. -/
  fetched : ∀ reference, (∀ text, .read reference (.ok text) ∉ s.since) → ∀ w,
    let found := (reader.read reference).run w
    let done := performed reader s.cache w (.resolve reference)
    done.answer = .source found.1 ∧ done.exchanges = [.read reference found.1] ∧
      done.outside = found.2 ∧ ∀ e, found.1 = .error e → done.cache = s.cache
  /-- After a failed read the reference is read again the next time it is resolved. -/
  retried : ∀ reference e w,
    (performed reader s.cache w (.resolve reference)).exchanges = [.read reference (.error e)] →
    ∀ later : List (σ × Operation), (∀ made ∈ later, made.2 ≠ .resolve reference) → ∀ w',
      (performed reader ((s.next reader (w, .resolve reference)).run reader later).cache w'
        (.resolve reference)).exchanges = [.read reference ((reader.read reference).run w').1]
  isCached_iff : ∀ reference,
    s.cache.isCached reference = true ↔ ∃ text, .read reference (.ok text) ∈ s.since
  size : s.cache.size = (Exchange.obtained s.since).toFinset.card
  /-- A pattern is compiled as it would be afresh, and nobody notices that it was. -/
  pattern : ∀ text w,
    let done := performed reader s.cache w (.pattern text)
    done.answer = .compiled (Regex.compile? text) ∧ done.exchanges = [] ∧ done.outside = w ∧
      done.cache.size = s.cache.size ∧
      ∀ w operation, (performed reader done.cache w operation).Same
        (performed reader s.cache w operation)

theorem Mirrors.find?_eq_none (mirrors : cache.Mirrors since) {reference : String}
    (missing : ∀ text, .read reference (.ok text) ∉ since) :
    cache.contents.find? reference = none := by
  cases held : cache.contents.find? reference with
  | none => rfl
  | some text => exact absurd ((mirrors.contents reference text).1 held) (missing text)

/-- Caches of the same contents cannot be told apart, if both hold patterns as they compile. -/
theorem performed_same {cache' : SourceCache} (contents : cache'.contents = cache.contents)
    (compiled : cache.Compiled) (compiled' : cache'.Compiled) (w : σ) (operation : Operation) :
    (performed reader cache' w operation).Same (performed reader cache w operation) := by
  cases operation with
  | resolve reference =>
    cases held : cache.contents.find? reference with
    | some text =>
      rw [performed_resolve_of_held held, performed_resolve_of_held (contents ▸ held)]
      exact ⟨rfl, rfl, rfl⟩
    | none =>
      rw [performed_resolve_of_missing held, performed_resolve_of_missing (contents ▸ held)]
      exact ⟨rfl, rfl, rfl⟩
  | pattern text =>
    have same : (cache'.pattern text).1 = (cache.pattern text).1 := by
      rw [compiled.pattern_fst, compiled'.pattern_fst]
    exact ⟨congrArg Answer.compiled same, rfl, rfl⟩
  | isCached reference =>
    have same : cache'.isCached reference = cache.isCached reference := by
      rw [isCached, contents, isCached]
    exact ⟨congrArg Answer.cached same, rfl, rfl⟩
  | clear => exact ⟨rfl, rfl, rfl⟩

theorem Session.lawful_of_mirrors {s : Session} (mirrors : s.cache.Mirrors s.since) :
    s.Lawful reader where
  spared reference text read w :=
    performed_resolve_of_held ((mirrors.contents reference text).2 read) w
  fetched reference missing w := by
    rw [performed_resolve_of_missing (mirrors.find?_eq_none missing)]
    refine ⟨rfl, rfl, rfl, fun e failed => ?_⟩
    simp only [failed]
  retried reference e w failed later others w' := by
    have missing : s.cache.contents.find? reference = none := by
      cases held : s.cache.contents.find? reference with
      | none => rfl
      | some text =>
        rw [performed_resolve_of_held held] at failed
        cases failed
    have before : ∀ text, .read reference (.ok text) ∉ s.since := by
      intro text read
      rw [(mirrors.contents reference text).2 read] at missing
      cases missing
    have after : ∀ text, .read reference (.ok text) ∉
        (s.next reader (w, .resolve reference)).since := by
      intro text
      simp [next, failed, before text]
    have read : (s.next reader (w, .resolve reference)).cache.Mirrors
        (s.next reader (w, .resolve reference)).since :=
      next_mirrors mirrors (w, .resolve reference)
    have still : ((s.next reader (w, .resolve reference)).run reader later).cache.Mirrors
        ((s.next reader (w, .resolve reference)).run reader later).since := run_mirrors read later
    rw [performed_resolve_of_missing
      (still.find?_eq_none fun text => not_mem_since_run (after text) others)]
  isCached_iff := mirrors.isCached_iff
  size := mirrors.size_eq
  pattern text w := by
    have contents := pattern_contents s.cache text
    refine ⟨congrArg Answer.compiled (mirrors.compiled.pattern_fst text), rfl, rfl,
      congrArg Dict.size contents, fun w operation => ?_⟩
    exact performed_same contents mirrors.compiled (mirrors.compiled.pattern_snd text) w operation

end SourceCache

/-- Programs that keep a cache a mirror of what is read. -/
def mirroring : Correspondence (StateT SourceCache (Recorded σ))
    (StateT SourceCache (Recorded σ)) where
  Related x _ := Tells x fun _ _ _ => True
  related_pure _ := Tells.pure fun _ => trivial
  related_bind first next := first.bind next fun _ _ _ _ _ _ _ => trivial

namespace Scraper

variable {s : Scraper (Recorded σ)}

theorem Records.access (records : s.Records) (options : ScrapeOptions) :
    mirroring.Agree (s.access options) (s.access options) where
  scraper := rfl
  resolve reference := ((records.told options).resolve reference).mono fun _ _ _ _ => trivial
  compile text := ((records.told options).compile text).mono fun _ _ _ _ => trivial
  prompter := by
    have asked := (records.told options).prompter
    cases there : (s.access options).prompter with
    | none => exact .none
    | some prompter =>
      exact .some fun request => (asked prompter there request).mono fun _ _ _ _ => trivial

/-- An item leaves a cache that mirrors what was read for it. -/
theorem Records.run_execute (records : s.Records) (options : ScrapeOptions) (seed : Captures)
    (record : Record) (w : σ) :
    ∃ item cache own w', cache.Mirrors own ∧ ∀ log,
      (s.execute options seed record).run (log, w) =
        ((item, { s with cache }), log ++ own, w') := by
  have walked := Correspondence.walkAll_related (records.access options) seed
    s.definition.procedures
  obtain ⟨walk, cache, own, w', ran, mirrors, -⟩ :=
    walked {} [] w SourceCache.empty_mirrors
  refine ⟨itemOf s.definition options record walk, cache, own, w', mirrors, fun log => ?_⟩
  simp only [execute]
  rw [StateT.run_bind, ran log]
  rfl

end Scraper

namespace Call

/-- What is exchanged for each item that a call scrapes, in order. -/
def items (s : Scraper (Recorded σ)) : Call → Recorded σ (List (List Exchange))
  | scrape options record =>
      match s.ready with
      | .error _ => pure []
      | .ok (fileName, defaults) => do
          let candidates := Scraper.seeds s.definition fileName record.location
          match ← s.chooseSeed options record.location candidates with
          | none => pure []
          | some seed => do
              let (_, own) ← apart (s.execute options seed (record.reset defaults))
              pure [own]
  | scrapeEach options location create =>
      match s.ready with
      | .error _ => pure []
      | .ok (fileName, defaults) =>
          (Scraper.seeds s.definition fileName location).mapM fun seed => do
            let (_, own) ← apart (s.execute options seed ((create seed).reset defaults))
            pure own
  | _ => pure []

/-- What was exchanged for the latest item when a call has been made in the world `w`, if `before`
was exchanged for the latest until then. Deactivating forgets it. -/
def latest (before : List Exchange) (w : σ) (s : Scraper (Recorded σ)) : Call → List Exchange
  | deactivate => []
  | call => ((call.items s).run ([], w)).1.getLast?.getD before

end Call

namespace Scraper

/-- What was exchanged for the latest item after calls, each with the world it is made in. -/
def latest (s : Scraper (Recorded σ)) (before : List Exchange) : List (σ × Call) → List Exchange
  | [] => before
  | made :: rest =>
      latest (made.2.after ([], made.1) s) (made.2.latest before made.1 s) rest

/-- The items that a call scrapes are all that it does outside: it leaves the same log, and the
outside in the same state. -/
structure Itemized (s : Scraper (Recorded σ)) : Prop where
  scrape : ∀ options record w,
    (((Call.scrape options record).items s).run ([], w)).2 =
      ((s.scrape options record).run ([], w)).2
  scrapeEach : ∀ options location create w,
    (((Call.scrapeEach options location create).items s).run ([], w)).2 =
      ((s.scrapeEach options location create).run ([], w)).2

variable {s : Scraper (Recorded σ)}

/-- Running an item with a log of its own gives what it exchanges, and leaves the same outside. -/
theorem Records.run_apart (records : s.Records) (options : ScrapeOptions) (seed : Captures)
    (record : Record) (w : σ) :
    ∃ item cache own w', cache.Mirrors own ∧ ∀ log,
      (s.execute options seed record).run (log, w) =
          ((item, { s with cache }), log ++ own, w') ∧
        (apart (s.execute options seed record)).run (log, w) =
          (((item, { s with cache }), own), log ++ own, w') := by
  obtain ⟨item, cache, own, w', mirrors, ran⟩ := records.run_execute options seed record w
  exact ⟨item, cache, own, w', mirrors, fun log => ⟨ran log, run_apart_of_run ran log⟩⟩

/-- The cache after items: that of the last of them, if there were any. -/
def LeftBy (before : SourceCache) (owns : List (List Exchange)) (after : SourceCache) : Prop :=
  match owns.getLast? with
  | none => after = before
  | some own => after.Mirrors own

theorem LeftBy.cons {before between after : SourceCache} {own : List Exchange}
    {owns : List (List Exchange)} (mirrors : between.Mirrors own)
    (others : LeftBy between owns after) : LeftBy before (own :: owns) after := by
  unfold LeftBy at others ⊢
  rw [List.getLast?_cons]
  cases ends : owns.getLast? with
  | none =>
    rw [ends] at others
    exact others ▸ mirrors
  | some last =>
    rw [ends] at others
    exact others

theorem LeftBy.mirrors {before after : SourceCache} {owns : List (List Exchange)}
    (left : LeftBy before owns after) {since : List Exchange} (mirrors : before.Mirrors since) :
    after.Mirrors (owns.getLast?.getD since) := by
  unfold LeftBy at left
  cases ends : owns.getLast? with
  | none =>
    rw [ends] at left
    exact left ▸ mirrors
  | some last =>
    rw [ends] at left
    exact left

theorem Records.run_scrape (records : s.Records) (options : ScrapeOptions) (record : Record)
    (w : σ) :
    ∃ answer record' cache owns outside, LeftBy s.cache owns cache ∧
      (s.scrape options record).run ([], w) = ((answer, record', { s with cache }), outside) ∧
      ((Call.scrape options record).items s).run ([], w) = (owns, outside) := by
  cases found : s.ready with
  | error e =>
    simp only [scrape_of_error found, Call.items, found]
    exact ⟨.error e, record, s.cache, [], ([], w), rfl, rfl, rfl⟩
  | ok prepared =>
    simp only [scrape_of_ready found, Call.items, found]
    rw [StateT.run_bind, StateT.run_bind]
    generalize (s.chooseSeed options record.location
      (seeds s.definition prepared.1 record.location)).run ([], w) = chosen
    obtain ⟨seed, log, w₁⟩ := chosen
    cases seed with
    | none =>
      exact ⟨.ok Report.mismatch, record.reset prepared.2, s.cache, [], (log, w₁), rfl, rfl, rfl⟩
    | some seed =>
      obtain ⟨item, cache, own, w', mirrors, ran⟩ :=
        records.run_apart options seed (record.reset prepared.2) w₁
      obtain ⟨plain, logged⟩ := ran log
      refine ⟨.ok item.report, item.record, cache, [own], (log ++ own, w'), mirrors, ?_, ?_⟩
      · exact congrArg (fun scraped : (ScrapedItem × Scraper (Recorded σ)) × List Exchange × σ =>
          ((Except.ok scraped.1.1.report, scraped.1.1.record, scraped.1.2), scraped.2)) plain
      · exact congrArg (fun scraped : ((ScrapedItem × Scraper (Recorded σ)) × List Exchange) ×
          List Exchange × σ => ([scraped.1.2], scraped.2)) logged

/-- The items of a location, one after the other: the cache is left by the last. -/
theorem Records.run_executeEach (records : s.Records) (options : ScrapeOptions)
    (defaults : Details) (create : Captures → Record) (seeds : List Captures) (log : List Exchange)
    (w : σ) :
    ∃ items cache owns outside, LeftBy s.cache owns cache ∧
      (executeEach options defaults create seeds s).run (log, w) =
        ((items, { s with cache }), outside) ∧
      (seeds.mapM fun seed => do
        let (_, own) ← apart (s.execute options seed ((create seed).reset defaults))
        pure own : Recorded σ (List (List Exchange))).run (log, w) = (owns, outside) := by
  induction seeds generalizing s log w with
  | nil => exact ⟨[], s.cache, [], (log, w), rfl, rfl, rfl⟩
  | cons seed rest ih =>
    obtain ⟨item, cache, own, w₁, mirrors, ran⟩ :=
      records.run_apart options seed ((create seed).reset defaults) w
    obtain ⟨plain, logged⟩ := ran log
    -- The next item starts from an empty cache, whatever this one leaves in the scraper.
    obtain ⟨items, last, owns, outside, left, others, otherItems⟩ :=
      ih (records.with_cache s.preparation cache) (log ++ own) w₁
    refine ⟨item :: items, last, own :: owns, outside, .cons mirrors left, ?_, ?_⟩
    · simp only [executeEach]
      rw [StateT.run_bind, plain]
      exact congrArg (fun scraped : (List ScrapedItem × Scraper (Recorded σ)) × List Exchange × σ =>
        ((item :: scraped.1.1, scraped.1.2), scraped.2)) others
    · rw [List.mapM_cons, StateT.run_bind, StateT.run_bind, logged]
      exact congrArg (fun owns : List (List Exchange) × List Exchange × σ =>
        (own :: owns.1, owns.2)) otherItems

theorem Records.run_scrapeEach (records : s.Records) (options : ScrapeOptions) (location : String)
    (create : Captures → Record) (w : σ) :
    ∃ answer cache owns outside, LeftBy s.cache owns cache ∧
      (s.scrapeEach options location create).run ([], w) = ((answer, { s with cache }), outside) ∧
      ((Call.scrapeEach options location create).items s).run ([], w) = (owns, outside) := by
  cases found : s.ready with
  | error e =>
    simp only [scrapeEach_of_error found, Call.items, found]
    exact ⟨.error e, s.cache, [], ([], w), rfl, rfl, rfl⟩
  | ok prepared =>
    obtain ⟨items, cache, owns, outside, left, plain, logged⟩ :=
      records.run_executeEach options prepared.2 create
        (seeds s.definition prepared.1 location) [] w
    simp only [scrapeEach_of_ready found, Call.items, found]
    refine ⟨.ok items, cache, owns, outside, left, ?_, logged⟩
    rw [StateT.run_bind, plain]
    rfl

/-- Each call leaves a cache that mirrors what was exchanged for the latest item. -/
theorem Records.after_mirrors (records : s.Records) {before : List Exchange}
    (mirrors : s.cache.Mirrors before) (w : σ) (call : Call) :
    (call.after ([], w) s).Records ∧
      (call.after ([], w) s).cache.Mirrors (call.latest before w s) := by
  cases call with
  | prepare defaultsOf =>
    have same := s.prepare_scraper defaultsOf
    simp only [Call.after]
    rw [same]
    exact ⟨records.with_cache _ s.cache, mirrors⟩
  | scrape options record =>
    obtain ⟨answer, record', cache, owns, outside, left, plain, logged⟩ :=
      records.run_scrape options record w
    simp only [Call.after, Call.latest, plain, logged]
    exact ⟨records.with_cache s.preparation cache, left.mirrors mirrors⟩
  | scrapeEach options location create =>
    obtain ⟨answer, cache, owns, outside, left, plain, logged⟩ :=
      records.run_scrapeEach options location create w
    simp only [Call.after, Call.latest, plain, logged]
    exact ⟨records.with_cache s.preparation cache, left.mirrors mirrors⟩
  | deactivate => exact ⟨records.with_cache s.preparation _, SourceCache.empty_mirrors⟩

theorem Records.afterAll_mirrors (records : s.Records) {before : List Exchange}
    (mirrors : s.cache.Mirrors before) (history : List (σ × Call)) :
    let used := s.afterAll (history.map fun made => (([], made.1), made.2))
    used.Records ∧ used.cache.Mirrors (s.latest before history) := by
  induction history generalizing s before with
  | nil => exact ⟨records, mirrors⟩
  | cons made rest ih =>
    obtain ⟨still, kept⟩ := records.after_mirrors mirrors made.1 made.2
    exact ih still kept

theorem Records.itemized (records : s.Records) : s.Itemized where
  scrape options record w := by
    obtain ⟨answer, record', cache, owns, outside, -, plain, logged⟩ :=
      records.run_scrape options record w
    rw [plain, logged]
  scrapeEach options location create w := by
    obtain ⟨answer, cache, owns, outside, -, plain, logged⟩ :=
      records.run_scrapeEach options location create w
    rw [plain, logged]

end Scraper

/-- A cache follows what is read. Whatever was asked of a new cache, and however the sources changed
meanwhile, it keeps to its law; and whatever was called of a scraper, the sources that it holds are
as many as were read with success for its latest item, and none when it was deactivated since. -/
theorem cache_follows_reads (reader : Reader (StateM σ)) :
    (∀ history : List (σ × SourceCache.Operation),
      (SourceCache.Session.after reader history).Lawful reader) ∧
    ∀ (definition : Definition) (prompter : Option (Prompter (StateM σ)))
      (preparation : Preparation) (history : List (σ × Call)),
      let new := { Scraper.recording definition reader prompter with preparation }
      let used := new.afterAll (history.map fun made => (([], made.1), made.2))
      used.Itemized ∧
        used.cachedSources = (Exchange.obtained (new.latest [] history)).toFinset.card := by
  constructor
  · intro history
    apply SourceCache.Session.lawful_of_mirrors
    exact SourceCache.Session.run_mirrors SourceCache.empty_mirrors history
  · intro definition prompter preparation history new used
    have records : new.Records := ⟨⟨reader, rfl⟩, ⟨prompter, rfl⟩⟩
    obtain ⟨still, mirrors⟩ := records.afterAll_mirrors SourceCache.empty_mirrors history
    exact ⟨still.itemized, mirrors.size_eq⟩

end Gleaner
