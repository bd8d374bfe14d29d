import Gleaner.Proofs.Commuting
import Gleaner.Proofs.Observation
import Mathlib.Data.List.Forall2

set_option autoImplicit false

/-!
What a scrape may write. A record keeps its location, and in the fields that no rule assigns to it
holds its type's defaults and nothing else; where there is no item, nothing is read. Main statement:
`Scraper.scrape_confined`.
-/
namespace Gleaner

/-- The record after a scrape is from where it was before, and outside the given fields it holds
its type's defaults and nothing else. -/
structure Record.Confined (fields : List Field) (defaults : Details) (before after : Record) :
    Prop where
  location : after.location = before.location
  name : .name ∉ fields → after.name = none
  description : .description ∉ fields → after.description = none
  details : ∀ key, .detail key ∉ fields → after.detail? key = defaults.find? key
  icons : .icon ∉ fields → after.icons = []
  fanart : .fanart ∉ fields → after.fanart = []

namespace Record.Confined

variable {fields : List Field} {defaults : Details} {before after : Record}

/-- What agrees with a record that was reset, apart from some fields, is confined to these. -/
theorem of_agree (agree : after.AgreeOn id (· ∉ fields) (before.reset defaults))
    (location : after.location = before.location) : before.Confined fields defaults after where
  location := location
  name outside := agree.name outside
  description outside := agree.description outside
  details key outside := agree.details key outside
  icons outside := (List.map_id after.icons).symm.trans (agree.icons outside)
  fanart outside := (List.map_id after.fanart).symm.trans (agree.fanart outside)

theorem reset (fields : List Field) (defaults : Details) (before : Record) :
    before.Confined fields defaults (before.reset defaults) :=
  of_agree (.refl id (· ∉ fields) (before.reset defaults)) rfl

end Record.Confined

namespace Scraper

/-- What is written of a walk is confined to the fields that its steps write to. -/
theorem itemOf_confined {fields : List Field} {walk : Walk}
    (untouched : ∀ field ∉ fields, Step.Untouched walk.steps field) (definition : Definition)
    (options : ScrapeOptions) (defaults : Details) (before : Record) :
    before.Confined fields defaults
      (itemOf definition options (before.reset defaults) walk).record := by
  have apart : ∀ step ∈ walk.steps, ∀ field ∈ step.fields, ¬field ∉ fields := by
    intro step mem field written outside
    exact untouched field outside step mem written
  refine .of_agree ?_ (Step.writeAll_location _ _ _)
  exact Step.writeAll_apart (writePolicy definition options) apart (before.reset defaults)

section Ensured

variable {m : Type → Type} [Monad m] {assurance : Assurance m} (lenient : assurance.Lenient)
  (options : ScrapeOptions) (defaults : Details)

include lenient

/-- Running the rules for an item writes to the fields that the rules name. -/
theorem ensures_execute (s : Scraper m) (seed : Captures) (before : Record) :
    assurance.Ensures (s.execute options seed (before.reset defaults)) fun scraped =>
      before.Confined (Procedure.fieldsAll s.definition.procedures) defaults scraped.1.record ∧
        scraped.1.report.outcome ≠ .mismatch ∧ scraped.2.definition = s.definition := by
  have walked := Procedure.walkAll_untouched (lenient.stateful SourceCache) (s.access options) seed
    s.definition.procedures {}
  refine assurance.ensures_bind walked fun found untouched => ?_
  refine assurance.ensures_pure ⟨?_, ?_, rfl⟩
  · exact itemOf_confined untouched s.definition options defaults before
  · exact itemOf_outcome_ne s.definition options _ found.1

theorem ensures_executeEach (create : Captures → Record) (seeds : List Captures)
    (s : Scraper m) :
    assurance.Ensures (executeEach options defaults create seeds s) fun scraped =>
      List.Forall₂ (fun seed item => (create seed).Confined
        (Procedure.fieldsAll s.definition.procedures) defaults item.record) seeds scraped.1 := by
  induction seeds generalizing s with
  | nil => exact assurance.ensures_pure .nil
  | cons seed rest ih =>
    refine assurance.ensures_bind
      (ensures_execute lenient options defaults s seed (create seed)) fun scraped held => ?_
    obtain ⟨item, after⟩ := scraped
    obtain ⟨confined, -, same⟩ := held
    have others := ih after
    rw [same] at others
    exact assurance.ensures_bind others fun scraped confined' =>
      assurance.ensures_pure (.cons confined confined')

/-- What a chosen seed leads to is a report and a confined record, and no mismatch. -/
theorem ensures_scrapeSeeded (s : Scraper m) (seed : Captures) (before : Record) :
    assurance.Ensures (s.scrapeSeeded options (before.reset defaults) (some seed)) fun scraped =>
      ∃ report, scraped.1 = .ok report ∧ report.outcome ≠ .mismatch ∧
        before.Confined (Procedure.fieldsAll s.definition.procedures) defaults scraped.2.1 := by
  have executed := ensures_execute lenient options defaults s seed before
  refine assurance.ensures_bind executed fun scraped held => ?_
  obtain ⟨confined, matched, -⟩ := held
  exact assurance.ensures_pure ⟨scraped.1.report, rfl, matched, confined⟩

end Ensured

variable {σ : Type}

/-- Programs that log what they ask of an outside, run from any log and in any outside. -/
def anywhere : Assurance (Logged σ) :=
  (Assurance.within fun _ : σ => True).stateful (List Event)

theorem anywhere_lenient : (anywhere (σ := σ)).Lenient :=
  Assurance.within_lenient.stateful (List Event)

/-- To choose a seed nothing is read. -/
theorem run_chooseSeed_reads (definition : Definition) (reader : Reader (StateM σ))
    (prompter : Option (Prompter (StateM σ))) (preparation : Preparation) (cache : SourceCache)
    (options : ScrapeOptions) (location : String) (candidates : List Captures) (w : σ) :
    let s := { logging definition reader prompter with preparation, cache }
    ∃ seed events w', ((s.chooseSeed options location candidates).run []).run w =
      ((seed, events), w') ∧ Event.reads events = [] := by
  intro s
  cases asked : if options.askUser ∧ 1 < candidates.length then s.prompter else none with
  | none =>
    refine ⟨candidates.head?, [], w, ?_, rfl⟩
    simp only [chooseSeed, asked]
    rfl
  | some operator =>
    obtain ⟨-, there⟩ := Option.ite_none_right_eq_some.1 asked
    obtain ⟨given, -, rfl⟩ := Option.map_eq_some_iff.1 there
    let request : PromptRequest :=
      ⟨definition.name, location, definition.fileName, candidates, false⟩
    let answered := (given.choose request).run w
    refine ⟨(answered.1.getD candidates).head?, [.asked request], answered.2, ?_, rfl⟩
    simp only [chooseSeed, asked]
    rfl

/-- A scrape writes to the fields that its rules name and to no others. Whatever the record held
before, it keeps its location, and of its fields those that no rule assigns to are as its type's
defaults make them. If there is no item at the location that is all there is to it: nothing is read,
and the scraper stays as it was. -/
theorem scrape_confined (definition : Definition) (reader : Reader (StateM σ))
    (prompter : Option (Prompter (StateM σ))) (fileName : Regex) (defaults : Details)
    (held : SourceCache) (options : ScrapeOptions) (w : σ) :
    let s := { logging definition reader prompter with
      preparation := .ready fileName defaults, cache := held }
    let fields := Procedure.fieldsAll definition.procedures
    (∀ record, ∃ report after last events w',
      ((s.scrape options record).run []).run w = (((.ok report, after, last), events), w') ∧
        record.Confined fields defaults after ∧
        (report.outcome = .mismatch →
          after = .fresh record.location defaults ∧ Event.reads events = [] ∧ last = s)) ∧
    ∀ location create, ∃ items last events w',
      ((s.scrapeEach options location create).run []).run w =
          (((.ok items, last), events), w') ∧
        List.Forall₂ (fun seed item => (create seed).Confined fields defaults item.record)
          (seeds definition fileName location) items ∧
        (items = [] → events = [] ∧ last = s) := by
  intro s fields
  have ready : s.ready = .ok (fileName, defaults) := rfl
  constructor
  · intro record
    obtain ⟨seed, events, w', chosen, unread⟩ := run_chooseSeed_reads definition reader prompter
      s.preparation held options record.location (seeds definition fileName record.location) w
    have ran : ((s.scrape options record).run []).run w =
        ((s.scrapeSeeded options (record.reset defaults) seed).run events).run w' := by
      rw [scrape_of_ready ready]
      exact congrArg (fun chosen : (Option Captures × List Event) × σ =>
        ((s.scrapeSeeded options (record.reset defaults) chosen.1.1).run chosen.1.2).run chosen.2)
        chosen
    rw [ran]
    cases seed with
    | none =>
      refine ⟨Report.mismatch, record.reset defaults, s, events, w', rfl, .reset _ _ _, ?_⟩
      exact fun _ => ⟨rfl, unread, rfl⟩
    | some seed =>
      obtain ⟨⟨report, answered, matched, confined⟩, -⟩ :=
        ensures_scrapeSeeded anywhere_lenient options defaults s seed record events w' trivial
      generalize ((s.scrapeSeeded options (record.reset defaults) (some seed)).run events).run w' =
        scraped at answered confined
      obtain ⟨⟨⟨answer, after, last⟩, events⟩, w⟩ := scraped
      cases answered
      exact ⟨report, after, last, events, w, rfl, confined, fun mismatch => absurd mismatch matched⟩
  · intro location create
    have ran : s.scrapeEach options location create =
        executeEach options defaults create (seeds definition fileName location) s >>=
          fun scraped => pure (.ok scraped.1, scraped.2) :=
      scrapeEach_of_ready ready options location create
    rw [ran]
    generalize seeds definition fileName location = found
    obtain ⟨confined, -⟩ := ensures_executeEach anywhere_lenient options defaults create found s
      [] w trivial
    refine ⟨_, _, _, _, rfl, confined, fun none => ?_⟩
    cases found with
    | nil => exact ⟨rfl, rfl⟩
    | cons seed rest =>
      have length := confined.length_eq.trans (congrArg List.length none)
      cases length

end Scraper

end Gleaner
