import Gleaner.Proofs.Matches
import Gleaner.Proofs.Settled
import Mathlib.Data.List.Forall2

set_option autoImplicit false

/-!
Scraping an item and scraping all items of a location agree: the one is the first of the others,
unless an operator picks another, and each of them is what its seed alone leads to.
-/
namespace Gleaner

/-- The same item, at another location. -/
def ScrapedItem.at (item : ScrapedItem) (location : String) : ScrapedItem :=
  { item with record := { item.record with location } }

/-- Asked for this next, the operator picks that candidate. Whatever he is asked later, he
declines. -/
structure World.Picks (w : World) (request : PromptRequest) (choice : Captures) : Prop where
  picks : w.operator (w.requests ++ [request]) = some [choice]
  declines : ∀ later ≠ [], w.operator (w.requests ++ request :: later) = none

theorem World.Picks.still {w : World} {request : PromptRequest} {choice : Captures}
    (picks : w.Picks request choice) :
    (w.logged [.asked request]).Still w.files (some fun _ => none) where
  files := rfl
  operator answers declines earlier later := by
    cases declines
    rw [World.requests_logged, Event.requests_asked, List.append_assoc]
    exact picks.declines (earlier ++ [later])
      (List.append_ne_nil_of_right_ne_nil _ (List.cons_ne_nil _ _))

namespace Scraper

theorem stillItem_at (definition : Definition) (options : ScrapeOptions)
    (files : String → Except SourceError String) (rule : Rule) (seed : Captures)
    (record : Record) (location : String) :
    stillItem definition options files rule seed { record with location } =
      (stillItem definition options files rule seed record).at location := by
  simp only [stillItem, itemOf, Step.writeAll_elsewhere, ScrapedItem.at]

theorem stillItem_declined (definition : Definition) (options : ScrapeOptions)
    (files : String → Except SourceError String) (seed : Captures) (record : Record) :
    stillItem definition options.asking files (some fun _ => none) seed record =
      stillItem definition options files none seed record := by
  simp only [stillItem, walkAll_declined]
  rfl

/-- Of the record that an item is written to, the location alone shows. -/
theorem stillAnswer_some (definition : Definition) (options : ScrapeOptions)
    (files : String → Except SourceError String) (rule : Rule) (seed : Captures)
    (defaults : Details) (record record' : Record) :
    let item := stillItem definition options files rule seed (record'.reset defaults)
    stillAnswer definition options files rule (record.reset defaults) (some seed) =
      (.ok item.report, (item.at record.location).record) := by
  have located := stillItem_at definition options files rule seed (record'.reset defaults)
    record.location
  exact congrArg (fun item : ScrapedItem => (Except.ok item.report, item.record)) located

/-- A scrape is a mismatch when there is no seed. -/
theorem stillAnswer_mismatch (definition : Definition) (options : ScrapeOptions)
    (files : String → Except SourceError String) (rule : Rule) (record : Record)
    (seed : Option Captures) :
    (∃ report, (stillAnswer definition options files rule record seed).1 = .ok report ∧
      report.outcome = .mismatch) ↔ seed = none := by
  cases seed with
  | none => exact ⟨fun _ => rfl, fun _ => ⟨_, rfl, rfl⟩⟩
  | some seed =>
    refine ⟨fun ⟨report, answered, mismatch⟩ => ?_, fun none => nomatch none⟩
    cases answered
    exact absurd mismatch (itemOf_outcome_ne _ _ _ _)

variable {s : Scraper (StateM World)} {options : ScrapeOptions} {w : World} {fileName : Regex}
  {defaults : Details}

/-- Where nobody is asked, there is no rule. -/
theorem ruled_none (silent : options.askUser = false) : s.Ruled options none := by
  simp [Ruled, silent]

theorem run_chooseSeed_silent (silent : options.askUser = false) (location : String)
    (candidates : List Captures) (w : World) :
    (s.chooseSeed options location candidates).run w = (candidates.head?, w) := by
  simp only [chooseSeed, silent, Bool.false_eq_true, false_and, ↓reduceIte]
  rfl

theorem run_chooseSeed_picks (options : ScrapeOptions)
    (operator : s.prompter = some World.prompter) {location : String} {candidates : List Captures}
    (several : 1 < candidates.length) {choice : Captures}
    (picks : w.Picks ⟨s.definition.name, location, s.definition.fileName, candidates, false⟩
      choice) :
    ∃ request, (s.chooseSeed options.asking location candidates).run w =
      (some choice, w.logged [.asked request]) ∧
      (w.logged [.asked request]).Still w.files (some fun _ => none) := by
  refine ⟨_, ?_, picks.still⟩
  simp only [chooseSeed, ScrapeOptions.asking, several, and_self, ↓reduceIte, operator]
  have answered : (World.prompter.choose
      ⟨s.definition.name, location, s.definition.fileName, candidates, false⟩).run w =
      (some [choice], w.logged [.asked _]) := Prod.ext picks.picks rfl
  rw [run_then answered]
  rfl

theorem InWorld.run_seen_silent (inWorld : s.InWorld) (ready : s.ready = .ok (fileName, defaults))
    (silent : options.askUser = false) (record : Record) :
    ((s.seen options record).run w).1 =
      stillAnswer s.definition options w.files none (record.reset defaults)
        (seeds s.definition fileName record.location).head? :=
  inWorld.run_seen ready (ruled_none silent) (run_chooseSeed_silent silent _ _ w)
    (.unruled rfl)

theorem InWorld.run_seen_picked (inWorld : s.InWorld) (ready : s.ready = .ok (fileName, defaults))
    (operator : s.prompter = some World.prompter) (options : ScrapeOptions) {record : Record}
    (several : 1 < (seeds s.definition fileName record.location).length) {seed : Captures}
    (picks : w.Picks ⟨s.definition.name, record.location, s.definition.fileName,
      seeds s.definition fileName record.location, false⟩ seed) :
    ((s.seen options.asking record).run w).1 =
      stillAnswer s.definition options w.files none (record.reset defaults) (some seed) := by
  obtain ⟨request, chosen, declining⟩ := run_chooseSeed_picks options operator several picks
  have ruled : s.Ruled options.asking (some fun _ => none) := by
    simp [Ruled, ScrapeOptions.asking, operator]
  rw [inWorld.run_seen ready ruled chosen declining]
  simp only [stillAnswer, stillItem_declined]

end Scraper

/-- How the scrape of an item stands to the items of its location, while the texts stay what they
are. The scraper may hold any cache. -/
structure EntriesAgree (s : SourceCache → Scraper (StateM World))
    (files : String → Except SourceError String) (seeds : List Captures) (defaults : Details)
    (options : ScrapeOptions) (record : Record) (create : Captures → Record)
    (scraped : Except EngineError Report × Record) (items : List ScrapedItem) : Prop where
  /-- Each item is what its seed leads to by itself. -/
  each : List.Forall₂ (fun seed item => ∀ cache w, w.files = files →
    (((s cache).execute options seed ((create seed).reset defaults)).run w).1.1 = item) seeds items
  mismatch : (∃ report, scraped.1 = .ok report ∧ report.outcome = .mismatch) ↔ items = []
  first : ∀ item : ScrapedItem, items.head? = some item →
    scraped = (.ok item.report, (item.at record.location).record)
  /-- An operator may pick the seed of any other item instead. -/
  picked : ∀ (n : Nat) (seed : Captures) (item : ScrapedItem), 1 < seeds.length →
    seeds[n]? = some seed → items[n]? = some item → ∀ cache w, w.files = files →
      w.Picks ⟨(s cache).definition.name, record.location, (s cache).definition.fileName, seeds,
        false⟩ seed →
      ((Scraper.seen { s cache with prompter := some World.prompter } options.asking
        record).run w).1 = (.ok item.report, (item.at record.location).record)

/-- Scraping an item of a location and scraping all of them agree. There is an item for each match
of the name pattern, one behind the other, or at most one; each is what its seed leads to by
itself. If there is none, a scrape is a mismatch; else it comes to the first, or to the one that an
operator picks who leaves all other choices. -/
theorem entries_agree {definition : Definition} {prompted : Bool}
    {types : String → Option Details}
    (prepared : ((World.scraper definition prompted).prepare types).1 = .ok ())
    {options : ScrapeOptions} (silent : options.askUser = false) (record : Record)
    (create : Captures → Record) (held held' : SourceCache) {w w' : World}
    (files : w.files = w'.files) :
    let s cache := { ((World.scraper definition prompted).prepare types).2 with cache }
    ∃ (fileName : Regex) (defaults : Details) (items : List ScrapedItem),
      definition.validate = .ok fileName ∧ types definition.targetType = some defaults ∧
      (((s held').seenEach options record.location create).run w').1 = .ok items ∧
      let seeds := Scraper.seeds definition fileName record.location
      (definition.multipleItems = true → seeds = fileName.all record.location ∧
        (fileName.allSlots record.location.toList.toArray).Pairwise Pattern.Behind) ∧
      (definition.multipleItems = false → seeds.length ≤ 1) ∧
      EntriesAgree s w.files seeds defaults options record create
        (((s held).seen options record).run w).1 items := by
  obtain ⟨fileName, defaults, valid, known, after⟩ := Scraper.prepare_of_pending rfl prepared
  rw [after]
  intro s
  have ready : ∀ cache, (s cache).ready = .ok (fileName, defaults) := fun cache => rfl
  have inWorld : ∀ cache, (s cache).InWorld := World.scraper_inWorld definition prompted _
  have ran : ∀ cache (v : World), v.files = w.files → ∀ seed record,
      (((s cache).execute options seed record).run v).1.1 =
        Scraper.stillItem definition options w.files none seed record := by
    intro cache v same seed record
    obtain ⟨left, new, executed⟩ := (inWorld cache).run_execute (Scraper.ruled_none silent)
      (.unruled same) seed record
    rw [executed]
    rfl
  have each := (inWorld held').run_seenEach (ready held') (Scraper.ruled_none silent)
    (.unruled files.symm) record.location create
  have one := (inWorld held).run_seen_silent (w := w) (ready held) silent record
  refine ⟨fileName, defaults, _, valid, known, each, fun multiple => ?_, fun single => ?_, ?_⟩
  · exact ⟨if_pos multiple, fileName.allSlots_behind _⟩
  · rw [Scraper.seeds, if_neg (by simp [single])]
    exact Option.length_toList_le
  refine ⟨?each, ?mismatch, ?first, ?picked⟩
  case each =>
    rw [List.forall₂_map_right_iff]
    exact List.forall₂_same.2 fun seed _ cache v same => ran cache v same seed _
  case mismatch =>
    rw [one, Scraper.stillAnswer_mismatch, List.head?_eq_none_iff, List.map_eq_nil_iff]
  case first =>
    intro item first
    rw [List.head?_map] at first
    obtain ⟨seed, head, rfl⟩ := Option.map_eq_some_iff.1 first
    rw [one, head]
    exact Scraper.stillAnswer_some _ _ _ _ seed defaults record (create seed)
  case picked =>
    intro n seed item several nth nthItem cache v same picks
    rw [List.getElem?_map] at nthItem
    obtain ⟨seed', nth', rfl⟩ := Option.map_eq_some_iff.1 nthItem
    cases nth.symm.trans nth'
    have asks : Scraper.InWorld { s cache with prompter := some World.prompter } :=
      ⟨rfl, fun prompter there => (Option.some.inj there).symm⟩
    rw [asks.run_seen_picked (ready cache) rfl options several picks, same]
    exact Scraper.stillAnswer_some _ _ _ _ seed defaults record (create seed)

/-- Of two albums at a location the first is scraped, or the second when the operator picks it. -/
theorem entries_agree_albums :
    let new := World.scraper choosyAlbums true
    let s := { (new.prepare albumTypes).2 with cache := {} }
    let asked := { s with prompter := some World.prompter }
    let both : Record := { location := "one two" }
    let picking : World :=
      { shelf with operator := fun
          | [request] => request.candidates[1]?.map fun second => [second]
          | _ => none }
    (new.prepare albumTypes).1 = .ok () ∧
    ∃ one two, ((s.seenEach {} "one two" fun seed => { location := seed.whole }).run shelf).1 =
        .ok [one, two] ∧
      [one, two].map (·.record.name) = [some "dawn", some "rain"] ∧
      ((s.seen {} both).run shelf).1 = (.ok one.report, (one.at "one two").record) ∧
      ((asked.seen (ScrapeOptions.asking {}) both).run picking).1 =
        (.ok two.report, (two.at "one two").record) := by
  intro new s asked both picking
  have accepted : (new.prepare albumTypes).1.isOk = true := by decide +kernel
  have names : ((s.seenEach {} "one two" fun seed => { location := seed.whole }).run
      shelf).1.toOption.map (·.map (·.record.name)) = some [some "dawn", some "rain"] := by
    decide +kernel
  have prepared : (new.prepare albumTypes).1 = .ok () := eq_ok_of_isOk accepted
  have silent : ({} : ScrapeOptions).askUser = false := rfl
  have files : shelf.files = shelf.files := rfl
  obtain ⟨fileName, defaults, items, -, -, each, -, -, agree⟩ :=
    entries_agree prepared silent both (fun seed => { location := seed.whole }) {} {} files
  have named : items.map (·.record.name) = [some "dawn", some "rain"] := by
    rw [each] at names
    exact Option.some.inj names
  obtain ⟨one, others, rfl, one', rest⟩ := List.map_eq_cons_iff.1 named
  obtain ⟨two, others, rfl, two', rest⟩ := List.map_eq_cons_iff.1 rest
  cases List.map_eq_nil_iff.1 rest
  refine ⟨prepared, one, two, each, named, agree.first one rfl, ?_⟩
  have matched := agree.each
  have picked := agree.picked
  generalize seeds : Scraper.seeds choosyAlbums fileName both.location = found at matched picked
  cases matched with
  | cons _ matched =>
    cases matched with
    | cons _ matched =>
      cases matched
      refine picked 1 _ two (Nat.lt_succ_self 1) rfl rfl {} picking rfl ⟨rfl, fun later some => ?_⟩
      cases later with
      | nil => exact absurd rfl some
      | cons request later => rfl

end Gleaner
