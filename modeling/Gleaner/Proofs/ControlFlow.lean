import Gleaner.Proofs.Agreement
import Gleaner.Proofs.Completeness
import Gleaner.Proofs.Observation

set_option autoImplicit false

/-!
The course of a scrape does not depend on the record, nor on how it is written: what is read, what
is asked and which procedures fail follow from the definition and the location.
-/
namespace Gleaner

/-- The same image, linked. -/
def Image.linked (image : Image) : Image :=
  { image with importing := false }

theorem Mild.filter_isFailure {warnings : List Warning} (mild : Mild warnings) :
    warnings.filter Warning.isFailure = [] :=
  List.filter_eq_nil_iff.2 fun warning mem => by simp [mild warning mem]

/-- The failure that a step tells, if it tells one. -/
def Step.failure? : Step → Option Warning
  | .warned warning => if warning.isFailure then some warning else none
  | .visited _ _ => none

/-- The failures are those of the steps, whatever is written to whichever record. -/
theorem Step.filter_writeAll (policy : WritePolicy) (steps : List Step) (record : Record) :
    (writeAll policy steps record).2.filter Warning.isFailure = steps.filterMap failure? := by
  induction steps generalizing record with
  | nil => rfl
  | cons step rest ih =>
    simp only [writeAll, List.filter_append, ih, List.filterMap_cons]
    cases step with
    | warned warning =>
      cases failed : warning.isFailure <;> simp [write, failure?, failed]
    | visited procedure captures =>
      simp only [write, failure?, (Assignment.applyAll_mild _ _ _ _).filter_isFailure,
        List.nil_append]

namespace Scraper

variable {m : Type → Type} [Monad m] {s t : Scraper m} {fileName : Regex}
  {defaults defaults' : Details} {options options' : ScrapeOptions}

/-- Of the options only that on asking counts for what is evaluated, and of a scraper neither its
defaults nor its cache. -/
theorem evaluations_congr (definition : s.definition = t.definition)
    (reader : s.reader = t.reader) (prompter : s.prompter = t.prompter)
    (ready : s.ready = .ok (fileName, defaults)) (ready' : t.ready = .ok (fileName, defaults'))
    (asks : options.askUser = options'.askUser) (location : String) :
    s.evaluations options location = t.evaluations options' location := by
  have access : s.access options = t.access options' := by
    simp only [Scraper.access, definition, reader, prompter, asks]
  have evaluate : s.evaluate options = t.evaluate options' := by
    funext seed
    simp only [Scraper.evaluate, access, definition]
  have choose : s.chooseSeed options = t.chooseSeed options' := by
    funext location candidates
    simp only [Scraper.chooseSeed, definition, prompter, asks]
  simp only [evaluations, ready, ready', definition, choose, evaluate]

end Scraper

variable {σ : Type}

namespace Observation

/-- Two scrapes took the same course: they asked the same, in the same order, and ended alike, with
the same failures. -/
structure SameCourse (x y : Observation σ) : Prop where
  events : x.events = y.events
  outside : x.outside = y.outside
  reports : ∃ report report', x.answer = .ok report ∧ y.answer = .ok report' ∧
    report.outcome = report'.outcome ∧
    report.warnings.filter Warning.isFailure = report'.warnings.filter Warning.isFailure

/-- Two scrapes came to the same, apart from which images are to be imported. -/
structure SameItem (x y : Observation σ) : Prop where
  answer : x.answer = y.answer
  record : x.record.mapImages Image.linked = y.record.mapImages Image.linked

end Observation

namespace Scraper

variable {definition : Definition} {defaults defaults' : Details}
  {options options' : ScrapeOptions} {record record' : Record}

/-- An answer of evaluations tells how they went, and not how they were written. -/
theorem answerFrom_flow (definition : Definition) (options options' : ScrapeOptions)
    (defaults defaults' : Details) (record record' : Record)
    (found : Option (List Evaluation)) :
    ∃ report report', (answerFrom definition options defaults record found).1 = .ok report ∧
      (answerFrom definition options' defaults' record' found).1 = .ok report' ∧
      report.outcome = report'.outcome ∧
      report.warnings.filter Warning.isFailure = report'.warnings.filter Warning.isFailure := by
  cases found with
  | none => exact ⟨_, _, rfl, rfl, rfl, rfl⟩
  | some found =>
    simp only [answerFrom, itemFrom, itemOf, Report.ofRun]
    refine ⟨_, _, rfl, rfl, rfl, ?_⟩
    simp only [Step.filter_writeAll]

/-- Whether images are imported shows in the images alone. -/
theorem answerFrom_linked (definition : Definition) (location : record.location = record'.location)
    (inherit : options.inherit = options'.inherit) (parent : options.parent = options'.parent)
    (defaults : Details) (found : Option (List Evaluation)) :
    (answerFrom definition options defaults record found).1 =
        (answerFrom definition options' defaults record' found).1 ∧
      (answerFrom definition options defaults record found).2.mapImages Image.linked =
        (answerFrom definition options' defaults record' found).2.mapImages Image.linked := by
  have reset : record.reset defaults = record'.reset defaults :=
    congrArg (Record.fresh · defaults) location
  cases found with
  | none => exact ⟨rfl, congrArg _ reset⟩
  | some found =>
    have alike : (writePolicy definition options).Alike Image.linked
        (writePolicy definition options') :=
      ⟨by simp only [writePolicy, inheritance, inherit, parent], fun _ => rfl⟩
    obtain ⟨agree, warned⟩ := Step.writeAll_agree alike
      (fun step _ field _ => trivial) (.refl _ (fun _ => True) (record'.reset defaults))
    simp only [answerFrom, itemFrom, itemOf, reset]
    exact ⟨by rw [warned], agree.mapImages_eq
      ((Step.writeAll_location _ _ _).trans (Step.writeAll_location _ _ _).symm)⟩

theorem observe_eq {s : Scraper (Logged σ)} {fileName : Regex}
    (ready : s.ready = .ok (fileName, defaults)) (options : ScrapeOptions) (record : Record)
    (w : σ) :
    let ran := ((s.evaluations options record.location).run []).run w
    let seen := answerFrom s.definition options defaults record ran.1.1
    s.observe options record w = ⟨seen.1, seen.2, ran.1.2, ran.2⟩ := by
  simp only [observe, seen_eq ready, StateT.run_map]
  rfl

end Scraper

/-- Scrapers that were prepared for one definition take the same course with records of one
location, whatever else the records hold, whatever defaults the scrapers were given and however
they write. With the same defaults and the same inheritance they come to the same, but for which
images are imported. -/
theorem course_ignores_record {definition : Definition} {reader : Reader (StateM σ)}
    {prompter : Option (Prompter (StateM σ))} {types types' : String → Option Details}
    (prepared : ((Scraper.logging definition reader prompter).prepare types).1 = .ok ())
    (prepared' : ((Scraper.logging definition reader prompter).prepare types').1 = .ok ())
    {record record' : Record} (location : record.location = record'.location)
    {options options' : ScrapeOptions} (asks : options.askUser = options'.askUser)
    (held held' : SourceCache) (w : σ) :
    let s := { ((Scraper.logging definition reader prompter).prepare types).2 with cache := held }
    let t := { ((Scraper.logging definition reader prompter).prepare types').2 with cache := held' }
    let x := s.observe options record w
    let y := t.observe options' record' w
    x.SameCourse y ∧
      (types definition.targetType = types' definition.targetType →
        options.inherit = options'.inherit → options.parent = options'.parent →
        x.SameItem y) := by
  intro s t x y
  obtain ⟨fileName, defaults, valid, known, after⟩ := Scraper.prepare_of_pending rfl prepared
  obtain ⟨fileName', defaults', valid', known', after'⟩ := Scraper.prepare_of_pending rfl prepared'
  have same : fileName' = fileName := Except.ok.inj (valid'.symm.trans valid)
  subst same
  have definitions : s.definition = definition ∧ t.definition = definition := by
    simp only [s, t, after, after']
    exact ⟨rfl, rfl⟩
  have sReady : s.ready = .ok (fileName', defaults) := by
    simp only [s, after, Scraper.ready]
  have tReady : t.ready = .ok (fileName', defaults') := by
    simp only [t, after', Scraper.ready]
  have evaluations : s.evaluations options record.location =
      t.evaluations options' record'.location := by
    rw [← location]
    exact Scraper.evaluations_congr (definitions.1.trans definitions.2.symm)
      (by simp only [s, t, after, after']) (by simp only [s, t, after, after']) sReady tReady asks _
  have seenX := Scraper.observe_eq sReady options record w
  have seenY := Scraper.observe_eq tReady options' record' w
  rw [definitions.1] at seenX
  rw [definitions.2, ← evaluations] at seenY
  simp only [x, y, seenX, seenY]
  refine ⟨⟨rfl, rfl, Scraper.answerFrom_flow _ _ _ _ _ _ _ _⟩, fun agreed inherit parent => ?_⟩
  have given : defaults' = defaults :=
    Option.some.inj (known'.symm.trans (agreed.symm.trans known))
  subst given
  obtain ⟨answer, linked⟩ := Scraper.answerFrom_linked definition location inherit
    parent defaults' _
  exact ⟨answer, linked⟩

/-- An album is searched for the same tracks and lyrics, with a list of tracks or without, and
whatever it held. -/
theorem course_ignores_record_albums :
    let new := Scraper.logging albums World.reader (some World.prompter)
    let untyped : String → Option Details := fun _ => some Dict.empty
    let blank : Record := { location := "one" }
    let album : Record := { location := "one", name := some "night" }
    let importing : ScrapeOptions := { importing := true, parent := some album }
    let s := { (new.prepare albumTypes).2 with cache := {} }
    let t := { (new.prepare untyped).2 with cache := {} }
    let x := s.observe {} blank shelf
    let y := t.observe importing album shelf
    (new.prepare albumTypes).1 = .ok () ∧ (new.prepare untyped).1 = .ok () ∧
      x.SameCourse y ∧ x.reads = ["one.txt", "one.nfo"] := by
  intro new untyped blank album importing s t x y
  have accepted : (new.prepare albumTypes).1.isOk = true ∧ (new.prepare untyped).1.isOk = true := by
    decide +kernel
  have prepared : (new.prepare albumTypes).1 = .ok () := eq_ok_of_isOk accepted.1
  have prepared' : (new.prepare untyped).1 = .ok () := eq_ok_of_isOk accepted.2
  have reads : x.reads = ["one.txt", "one.nfo"] := by decide +kernel
  have location : blank.location = album.location := rfl
  have asks : ({} : ScrapeOptions).askUser = importing.askUser := rfl
  have course : x.SameCourse y :=
    (course_ignores_record prepared prepared' location asks {} {} shelf).1
  exact ⟨prepared, prepared', course, reads⟩

end Gleaner
