import Gleaner.Proofs.Correspondence
import Gleaner.Proofs.Dict
import Gleaner.Proofs.Interpreter
import Gleaner.Proofs.World

set_option autoImplicit false

/-!
Scraping with a cache. While the texts stay what they are, a cache that agrees with them changes
nothing that is seen of an item, and spares exactly the reads of texts that are known already.
-/
namespace Gleaner

variable (files : String → Except SourceError String)

/-- The text behind a reference can be had. -/
def readable (reference : String) : Bool :=
  match files reference with
  | .ok _ => true
  | .error _ => false

/-- The references that are known after one more read; a read that fails makes nothing known. -/
def learn (known : String → Bool) (reference : String) : String → Bool :=
  fun other => known other || (reference == other && readable files reference)

/-- The reads that are left when nothing known is read again. -/
def freshReads (known : String → Bool) : List String → List String
  | [] => []
  | reference :: rest =>
      (if known reference then [] else [reference]) ++
        freshReads (learn files known reference) rest

theorem freshReads_append (known : String → Bool) (first second : List String) :
    freshReads files known (first ++ second) =
      freshReads files known first ++
        freshReads files (first.foldl (learn files) known) second := by
  induction first generalizing known with
  | nil => rfl
  | cons reference rest ih =>
    simp only [List.cons_append, freshReads, List.foldl_cons, ih, List.append_assoc]

/-- Reads that fail are never spared. -/
theorem filter_freshReads {known : String → Bool}
    (truly : ∀ reference, known reference = true → readable files reference = true)
    (reads : List String) :
    (freshReads files known reads).filter (fun r => !readable files r) =
      reads.filter fun r => !readable files r := by
  induction reads generalizing known with
  | nil => rfl
  | cons reference rest ih =>
    have still : ∀ other, learn files known reference other = true →
        readable files other = true := by
      intro other learnt
      simp only [learn, Bool.or_eq_true, Bool.and_eq_true, beq_iff_eq] at learnt
      rcases learnt with before | ⟨rfl, now⟩
      · exact truly other before
      · exact now
    simp only [freshReads, List.filter_append, ih still, List.filter_cons]
    by_cases seen : known reference = true
    · simp [seen, truly reference seen]
    · cases found : readable files reference <;> simp [seen, found]

namespace SourceCache

/-- The patterns that a cache holds are compiled as they would be afresh. -/
def Compiled (cache : SourceCache) : Prop :=
  ∀ text regex, cache.patterns.find? text = some regex → Regex.compile? text = some regex

theorem empty_compiled : empty.Compiled :=
  fun _ _ found => nomatch found

theorem Compiled.pattern_fst {cache : SourceCache} (compiled : cache.Compiled) (text : String) :
    (cache.pattern text).1 = Regex.compile? text := by
  unfold pattern
  split
  · next regex held => exact (compiled text regex held).symm
  · split <;> next found => exact found.symm

theorem Compiled.pattern_snd {cache : SourceCache} (compiled : cache.Compiled) (text : String) :
    (cache.pattern text).2.Compiled := by
  unfold pattern
  split
  · exact compiled
  · split
    · next regex found =>
      intro other regex' held
      rw [Dict.find?_insert] at held
      split at held
      · next same => rw [← same, found, Option.some.inj held]
      · exact compiled other regex' held
    · exact compiled

/-- What a cache holds is what reading and compiling afresh would give. -/
structure Agrees (cache : SourceCache) : Prop where
  contents : ∀ reference text, cache.contents.find? reference = some text →
    files reference = .ok text
  patterns : ∀ text regex, cache.patterns.find? text = some regex →
    Regex.compile? text = some regex

variable {files} {cache : SourceCache}

theorem empty_agrees : empty.Agrees files where
  contents _ _ found := by cases found
  patterns _ _ found := by cases found

theorem Agrees.readable_of_isCached (agrees : cache.Agrees files) {reference : String}
    (cached : cache.isCached reference = true) : readable files reference = true := by
  obtain ⟨text, found⟩ := Option.isSome_iff_exists.1 cached
  simp only [readable, agrees.contents reference text found]

theorem Agrees.insert_contents (agrees : cache.Agrees files) {reference text : String}
    (read : files reference = .ok text) :
    Agrees files { cache with contents := cache.contents.insert reference text } where
  contents other found held := by
    rw [Dict.find?_insert] at held
    split at held
    · next same => rw [← same, read, Option.some.inj held]
    · exact agrees.contents other found held
  patterns := agrees.patterns

theorem pattern_fst (agrees : cache.Agrees files) (text : String) :
    (cache.pattern text).1 = Regex.compile? text :=
  Compiled.pattern_fst agrees.patterns text

theorem pattern_contents (cache : SourceCache) (text : String) :
    (cache.pattern text).2.contents = cache.contents := by
  unfold pattern
  split
  · rfl
  · split <;> rfl

theorem pattern_agrees (agrees : cache.Agrees files) (text : String) :
    (cache.pattern text).2.Agrees files where
  contents := by simpa only [pattern_contents] using agrees.contents
  patterns := Compiled.pattern_snd agrees.patterns text

theorem isCached_insert (cache : SourceCache) (reference text : String) :
    isCached { cache with contents := cache.contents.insert reference text } =
      fun other => cache.isCached other || reference == other := by
  funext other
  simp only [isCached, Dict.contains_insert, Bool.or_comm]

theorem run_resolve_of_some {reference text : String}
    (held : cache.contents.find? reference = some text) (w : World) :
    (cache.resolve World.reader reference).run w = ((.ok text, cache), w) := by
  simp only [resolve, held]
  rfl

theorem run_resolve_of_none {reference : String} (missing : cache.contents.find? reference = none)
    (w : World) :
    (cache.resolve World.reader reference).run w =
      ((w.files reference, match w.files reference with
        | .ok text => { cache with contents := cache.contents.insert reference text }
        | .error _ => cache), w.logged [.read reference]) := by
  have read : (World.reader.read reference).run w =
      (w.files reference, w.logged [.read reference]) := rfl
  simp only [resolve, missing]
  rw [StateT.run_bind, read]
  cases found : w.files reference with
  | ok text => rfl
  | error e => rfl

end SourceCache

variable {files}

/-- A world in which everything is read afresh, and one in which a cache is used. -/
structure Beside (plain saving : World) (cache : SourceCache) : Prop where
  files : saving.files = plain.files
  operator : saving.operator = plain.operator
  requests : saving.requests = plain.requests
  agrees : cache.Agrees plain.files

/-- Both come to the same answer, after the same requests and with no read but the fresh ones. -/
def Spares {α : Type} (x : StateM World α) (y : StateT SourceCache (StateM World) α) : Prop :=
  ∀ plain saving cache, Beside plain saving cache →
    ∃ answer after new kept,
      x.run plain = (answer, plain.logged new) ∧
      (y.run cache).run saving = ((answer, after), saving.logged kept) ∧
      Event.requests kept = Event.requests new ∧
      Event.reads kept = freshReads plain.files cache.isCached (Event.reads new) ∧
      after.Agrees plain.files ∧
      after.isCached = (Event.reads new).foldl (learn plain.files) cache.isCached

theorem Beside.logged {plain saving : World} {cache after : SourceCache} {new kept : List Event}
    (beside : Beside plain saving cache) (requests : Event.requests kept = Event.requests new)
    (agrees : after.Agrees plain.files) :
    Beside (plain.logged new) (saving.logged kept) after where
  files := beside.files
  operator := beside.operator
  requests := by rw [World.requests_logged, World.requests_logged, beside.requests, requests]
  agrees := agrees

theorem Spares.pure {α : Type} (a : α) :
    Spares (Pure.pure a) (Pure.pure a : StateT SourceCache (StateM World) α) := by
  intro plain saving cache beside
  refine ⟨a, cache, [], [], ?_, ?_, rfl, rfl, beside.agrees, rfl⟩
  · rw [World.logged_nil]
    rfl
  · rw [World.logged_nil]
    rfl

theorem Spares.bind {α β : Type} {x : StateM World α} {y : StateT SourceCache (StateM World) α}
    {f : α → StateM World β} {g : α → StateT SourceCache (StateM World) β}
    (first : Spares x y) (next : ∀ a, Spares (f a) (g a)) : Spares (x >>= f) (y >>= g) := by
  intro plain saving cache beside
  obtain ⟨a, middle, new₁, kept₁, runX, runY, requests₁, reads₁, agrees₁, known₁⟩ :=
    first plain saving cache beside
  obtain ⟨b, after, new₂, kept₂, runF, runG, requests₂, reads₂, agrees₂, known₂⟩ :=
    next a _ _ middle (beside.logged requests₁ agrees₁)
  rw [World.logged_logged] at runF runG
  -- The second program starts with what the first made known, so that the fresh reads add up.
  refine ⟨b, after, new₁ ++ new₂, kept₁ ++ kept₂, ?_, ?_, ?_, ?_, agrees₂, ?_⟩
  · rw [StateT.run_bind, runX]
    exact runF
  · rw [StateT.run_bind, StateT.run_bind, runY]
    exact runG
  · rw [Event.requests_append, Event.requests_append, requests₁, requests₂]
  · rw [Event.reads_append, Event.reads_append, freshReads_append, reads₁, reads₂, known₁]
    rfl
  · rw [Event.reads_append, List.foldl_append, known₂, known₁]
    rfl

/-- Programs that read and compile afresh, and what they become with a cache. -/
def sparing : Correspondence (StateM World) (StateT SourceCache (StateM World)) where
  Related := Spares
  related_pure := Spares.pure
  related_bind := Spares.bind

theorem spares_resolve (reference : String) :
    Spares (World.reader.read reference) fun cache => cache.resolve World.reader reference := by
  intro plain saving cache beside
  have same : saving.files reference = plain.files reference := by rw [beside.files]
  cases held : cache.contents.find? reference with
  | some text =>
    have cached : cache.isCached reference = true := by
      simp only [SourceCache.isCached, Dict.contains, held, Option.isSome_some]
    have truly := beside.agrees.readable_of_isCached cached
    refine ⟨.ok text, cache, [.read reference], [], ?_, ?_, rfl, ?_, beside.agrees, ?_⟩
    · rw [← beside.agrees.contents reference text held]
      rfl
    · rw [World.logged_nil]
      exact SourceCache.run_resolve_of_some held saving
    · simp [freshReads, cached]
    · funext other
      by_cases here : reference = other
      · simp [learn, ← here, cached]
      · simp [learn, here]
  | none =>
    have unknown : cache.isCached reference = false := by
      simp only [SourceCache.isCached, Dict.contains, held, Option.isSome_none]
    have run := SourceCache.run_resolve_of_none held saving
    rw [same] at run
    refine ⟨plain.files reference, _, [.read reference], [.read reference], rfl, run, rfl,
      ?_, ?_, ?_⟩
    · simp [freshReads, unknown]
    · cases found : plain.files reference with
      | ok text => exact beside.agrees.insert_contents found
      | error e => exact beside.agrees
    · funext other
      cases found : plain.files reference with
      | ok text => simp [SourceCache.isCached_insert, learn, readable, found]
      | error e => simp [learn, readable, found]

theorem spares_compile (text : String) :
    Spares (pure (Regex.compile? text)) fun cache => pure (cache.pattern text) := by
  intro plain saving cache beside
  refine ⟨Regex.compile? text, (cache.pattern text).2, [], [], ?_, ?_, rfl, rfl,
    SourceCache.pattern_agrees beside.agrees text, ?_⟩
  · rw [World.logged_nil]
    rfl
  · rw [World.logged_nil, ← SourceCache.pattern_fst beside.agrees text]
    rfl
  · funext reference
    simp only [SourceCache.isCached, SourceCache.pattern_contents, Event.reads_nil, List.foldl_nil]

theorem spares_choose (request : PromptRequest) :
    Spares (World.prompter.choose request) (StateT.lift (World.prompter.choose request)) := by
  intro plain saving cache beside
  refine ⟨plain.operator (plain.requests ++ [request]), cache, [.asked request],
    [.asked request], rfl, ?_, rfl, rfl, beside.agrees, rfl⟩
  rw [← beside.operator, ← beside.requests]
  rfl

theorem sparing_agree (scraper : String) (asking : Bool) :
    let prompter := if asking then some World.prompter else none
    sparing.Agree (Access.direct scraper World.reader prompter)
      (Access.cached scraper World.reader prompter) where
  scraper := rfl
  resolve := spares_resolve
  compile := spares_compile
  prompter := by
    cases asking with
    | false => exact .none
    | true => exact .some spares_choose

/-- What is seen of an item that is scraped with a cache, beside the item for which everything is
read and compiled afresh. -/
structure Unnoticed (files : String → Except SourceError String) (cache : SourceCache)
    (policy : WritePolicy) (start : Record) (saving : (Walk × SourceCache) × World)
    (plain : (Bool × Progress) × World) : Prop where
  succeeded : saving.1.1.succeeded = plain.1.1
  record : (Step.writeAll policy saving.1.1.steps start).1 = plain.1.2.record
  warnings : (Step.writeAll policy saving.1.1.steps start).2 = plain.1.2.warnings
  requests : saving.2.requests = plain.2.requests
  reads : saving.2.reads = freshReads files cache.isCached plain.2.reads
  failedReads : saving.2.reads.filter (fun r => !readable files r) =
    plain.2.reads.filter fun r => !readable files r

/-- A cache that agrees with the texts is not noticed: the rules come to the same record, warnings
and requests as with no cache, and the reads that are spared are those of known texts. -/
theorem caching_unnoticed {files : String → Except SourceError String} {cache : SourceCache}
    (agrees : cache.Agrees files) (operator : List PromptRequest → Option (List Captures))
    (scraper : String) (asking : Bool) (policy : WritePolicy) (record : Record) (seed : Captures)
    (procedures : List Procedure) :
    let world : World := ⟨files, operator, []⟩
    let prompter := if asking then some World.prompter else none
    Unnoticed files cache policy record
      (((Procedure.walkAll (Access.cached scraper World.reader prompter) seed procedures).run
        cache).run world)
      (((Procedure.interpretAll (Access.direct scraper World.reader prompter) policy seed
        procedures).run ⟨record, []⟩).run world) := by
  intro world prompter
  have beside : Beside world world cache := ⟨rfl, rfl, rfl, agrees⟩
  obtain ⟨walk, after, new, kept, plain, saving, requests, reads, -, -⟩ :=
    Correspondence.walkAll_related (sparing_agree scraper asking) seed procedures world world
      cache beside
  have interpreted : ((Procedure.interpretAll (Access.direct scraper World.reader prompter) policy
      seed procedures).run ⟨record, []⟩).run world =
        (walk.settle policy ⟨record, []⟩, world.logged new) := by
    rw [Procedure.run_interpretAll, StateT.run_map, plain]
    rfl
  have truly : ∀ reference, cache.isCached reference = true → readable files reference = true :=
    fun _ cached => agrees.readable_of_isCached cached
  rw [saving, interpreted]
  exact {
    succeeded := rfl
    record := rfl
    warnings := (List.nil_append _).symm
    requests := requests
    reads := reads
    failedReads := (congrArg _ reads).trans (filter_freshReads files truly (Event.reads new)) }

/-- The tracks of an album are known, and only the lyrics are read. -/
theorem caching_unnoticed_albums :
    let known : SourceCache :=
      ⟨Dict.empty.insert "one.txt" "Track: dawn, Track: dusk, Cover: sky", Dict.empty⟩
    let saving := ((Procedure.walkAll (Access.cached albums.name World.reader none) ⟨[some "one"]⟩
      albums.procedures).run known).run shelf
    known.Agrees shelf.files ∧
    Unnoticed shelf.files known ⟨false, none⟩ (.fresh "one" albumDetails) saving
      (((Procedure.interpretAll (Access.direct albums.name World.reader none) ⟨false, none⟩
        ⟨[some "one"]⟩ albums.procedures).run ⟨.fresh "one" albumDetails, []⟩).run shelf) ∧
    saving.2.reads = ["one.nfo"] := by
  intro known saving
  have read : shelf.files "one.txt" = .ok "Track: dawn, Track: dusk, Cover: sky" := by
    simp only [shelf, ↓reduceIte]
  have agrees : known.Agrees shelf.files := SourceCache.empty_agrees.insert_contents read
  refine ⟨agrees, ?_, by decide +kernel⟩
  exact caching_unnoticed agrees shelf.operator albums.name false ⟨false, none⟩
    (.fresh "one" albumDetails) ⟨[some "one"]⟩ albums.procedures

end Gleaner
