import Gleaner.Proofs.Items
import Gleaner.Proofs.World
import Mathlib.Data.List.Forall2

set_option autoImplicit false

/-!
What a scrape harvests. Nothing is lost, doubled or moved: the fields that collect hold what the
visits assign to them, in the order of the visits, and the others hold what came last.
-/
namespace Gleaner

namespace Visit

/-- The images that a visit assigns to a field. -/
def images (options : ScrapeOptions) (field : Field) (visit : Visit) : List Image :=
  (visit.values field).flatMap (Value.images (options.importing || visit.procedure.importing))

/-- The texts that a visit assigns to a field and that are accepted. -/
def texts (field : Field) (visit : Visit) : List String :=
  (visit.values field).filterMap Value.text?

end Visit

/-- A record holds what visits assigned, and its type's defaults. -/
structure Harvested (options : ScrapeOptions) (defaults : Details) (visits : List Visit)
    (record : Record) : Prop where
  icons : record.icons = visits.flatMap (Visit.images options .icon)
  fanart : record.fanart = visits.flatMap (Visit.images options .fanart)
  arrays : ∀ key items, defaults.find? key = some (.array items) →
    record.detail? key = some (.array (items ++ visits.flatMap (Visit.values · (.detail key))))
  name : record.name = (visits.flatMap (Visit.texts .name)).getLast?
  description : record.description = (visits.flatMap (Visit.texts .description)).getLast?

/-- An array takes values of every kind, at its end. -/
theorem foldl_accrue_array (values items : List Value) :
    values.foldl Value.accrue (some (.array items)) = some (.array (items ++ values)) := by
  induction values generalizing items with
  | nil => rw [List.foldl_nil, List.append_nil]
  | cons value rest ih =>
    rw [List.foldl_cons]
    simp only [Value.accrue, Value.coerce, ih, List.append_assoc, List.singleton_append]

/-- Of texts that are written in turn the last that is accepted stays. -/
theorem foldl_text (values : List Value) (text : Option String) :
    values.foldl (fun text value => value.text?.or text) text =
      (values.filterMap Value.text?).getLast?.or text := by
  induction values generalizing text with
  | nil => rfl
  | cons value rest ih =>
    rw [List.foldl_cons, ih, List.filterMap_cons]
    cases value.text? with
    | none => rfl
    | some accepted =>
      rw [List.getLast?_cons]
      cases (rest.filterMap Value.text?).getLast? <;> rfl

namespace FieldView

variable {options : ScrapeOptions}

/-- Where images are added, visits add the images they assign. -/
theorem foldl_effects_images (v : FieldView (List Image))
    (adds : ∀ importing value part, v.effect importing value part = part ++ value.images importing)
    (start : List Image) (visits : List Visit) :
    visits.foldl (fun part visit => v.effects (options.importing || visit.procedure.importing)
        part (visit.values v.field)) start =
      start ++ visits.flatMap (Visit.images options v.field) := by
  simp only [effects, adds, List.foldl_append_eq_append]
  rfl

/-- Where a text replaces another, the last accepted one of the visits stays. -/
theorem foldl_effects_text (v : FieldView (Option String))
    (replaces : ∀ importing value part, v.effect importing value part = value.text?.or part)
    (start : Option String) (visits : List Visit) :
    visits.foldl (fun part visit => v.effects (options.importing || visit.procedure.importing)
        part (visit.values v.field)) start =
      (visits.flatMap (Visit.texts v.field)).getLast?.or start := by
  simp only [effects, replaces]
  rw [← List.foldl_flatMap, foldl_text, List.filterMap_flatMap]
  rfl

/-- An array takes all the values of the visits. -/
theorem foldl_effects_array (key : String) (items : List Value) (visits : List Visit) :
    visits.foldl (fun part visit => (detail key).effects
        (options.importing || visit.procedure.importing) part (visit.values (.detail key)))
        (some (.array items)) =
      some (.array (items ++ visits.flatMap (Visit.values · (.detail key)))) := by
  rw [← foldl_accrue_array, List.foldl_flatMap]
  rfl

end FieldView

namespace Scraper

variable {options : ScrapeOptions}

theorem writes_own {definition : Definition} (off : inheritance definition options = none)
    (field : Field) : Assignment.inherited? (writePolicy definition options) field = none := by
  simp only [Assignment.inherited?, writePolicy, off]

/-- A part of the record of an item: what its visits make of the part of a fresh record. -/
theorem view_itemFrom {definition : Definition} (off : inheritance definition options = none)
    (defaults : Details) (record : Record) (found : List Evaluation) {α : Type}
    (v : FieldView α) :
    v.view (itemFrom definition options defaults record found).record =
      (Evaluation.visitsAll found).foldl (fun part visit =>
        v.effects (options.importing || visit.procedure.importing) part (visit.values v.field))
        (v.view (record.reset defaults)) := by
  rw [← (Evaluation.walkAll_tells found).visits]
  exact v.view_writeAll (writes_own off v.field) _ _

theorem itemFrom_harvested {definition : Definition}
    (off : inheritance definition options = none) (defaults : Details) (record : Record)
    (found : List Evaluation) :
    Harvested options defaults (Evaluation.visitsAll found)
      (itemFrom definition options defaults record found).record where
  icons := (view_itemFrom off defaults record found .icons).trans
    (FieldView.icons.foldl_effects_images (fun _ _ _ => rfl) _ _)
  fanart := (view_itemFrom off defaults record found .fanart).trans
    (FieldView.fanart.foldl_effects_images (fun _ _ _ => rfl) _ _)
  arrays key items array := by
    have start : (record.reset defaults).detail? key = some (.array items) := array
    rw [← FieldView.foldl_effects_array, ← start]
    exact view_itemFrom off defaults record found (.detail key)
  name := ((view_itemFrom off defaults record found .name).trans
    (FieldView.name.foldl_effects_text (fun _ _ _ => rfl) _ _)).trans Option.or_none
  description := ((view_itemFrom off defaults record found .description).trans
    (FieldView.description.foldl_effects_text (fun _ _ _ => rfl) _ _)).trans Option.or_none

end Scraper

/-- Scraping without inheritance leaves a record that holds exactly what the visits assigned, if
the location matches; and so it does for each item of a location. -/
theorem Scraper.scrape_harvests {σ : Type} {s : Scraper (StateM σ)} {fileName : Regex}
    {defaults : Details} (ready : s.preparation = .ready fileName defaults)
    {options : ScrapeOptions} (off : inheritance s.definition options = none) (w : σ) :
    (∀ record, ∃ report, ((s.seen options record).run w).1.1 = .ok report ∧
      match ((s.evaluations options record.location).run w).1 with
      | none => report.isMatch = false
      | some found => report.isMatch = true ∧
          Harvested options defaults (Evaluation.visitsAll found)
            ((s.seen options record).run w).1.2) ∧
    ∀ location create, ∃ items, ((s.seenEach options location create).run w).1 = .ok items ∧
      List.Forall₂ (fun item found =>
        Harvested options defaults (Evaluation.visitsAll found.2) item.record) items
        ((s.evaluationsEach options location).run w).1 := by
  have prepared := ready_of_preparation ready
  constructor
  · intro record
    rw [seen_eq prepared, StateT.run_map]
    generalize (s.evaluations options record.location).run w = run
    obtain ⟨found, w⟩ := run
    cases found with
    | none => exact ⟨Report.mismatch, rfl, rfl⟩
    | some found =>
      exact ⟨_, rfl, Report.isMatch_ofRun _ _, itemFrom_harvested off defaults record found⟩
  · intro location create
    rw [seenEach_eq prepared, StateT.run_map]
    refine ⟨_, rfl, ?_⟩
    refine List.forall₂_map_left_iff.2 (List.forall₂_same.2 fun item _ => ?_)
    exact itemFrom_harvested off defaults (create item.1) item.2

/-- Of an album with two tracks both are kept, each with an icon that is to be imported. -/
theorem Scraper.scrape_harvests_albums :
    inheritance readyAlbums.definition {} = none ∧
    (∃ found, ((readyAlbums.evaluations {} "one").run shelf).1 = some found ∧
      (Evaluation.visitsAll found).flatMap (Visit.texts .name) = ["dawn", "dusk"] ∧
      Harvested {} albumDetails (Evaluation.visitsAll found)
        ((readyAlbums.seen {} (.fresh "one" Dict.empty)).run shelf).1.2) ∧
    ((readyAlbums.seen {} (.fresh "one" Dict.empty)).run shelf).1.2.icons =
      [⟨"dawn.png", true⟩, ⟨"dusk.png", true⟩] := by
  have ready : readyAlbums.preparation = .ready albumName albumDetails := rfl
  have off : inheritance readyAlbums.definition {} = none := rfl
  obtain ⟨report, answer, harvested⟩ :=
    (scrape_harvests ready off shelf).1 (.fresh "one" Dict.empty)
  have texts : ((readyAlbums.evaluations {} "one").run shelf).1.map
      (fun found => (Evaluation.visitsAll found).flatMap (Visit.texts .name)) =
      some ["dawn", "dusk"] := by decide +kernel
  obtain ⟨found, evaluated, named⟩ := Option.map_eq_some_iff.1 texts
  simp only [Record.fresh, evaluated] at harvested
  exact ⟨off, ⟨found, evaluated, named, harvested.2⟩, by decide +kernel⟩

end Gleaner
