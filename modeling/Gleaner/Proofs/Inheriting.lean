import Gleaner.Proofs.Assigning
import Gleaner.Proofs.Limiting
import Gleaner.Proofs.World

set_option autoImplicit false

/-!
Details that are inherited from a parent record. They hold what the parent holds, whatever is
assigned to them, and nothing else of a scrape depends on them. Main statement:
`Scraper.inherited_from_parent`.
-/
namespace Gleaner

/-- The definition with only those assignments that are to fields that are kept. -/
def Definition.limited (kept : Field → Bool) (definition : Definition) : Definition :=
  { definition with procedures := Procedure.limitedAll kept definition.procedures }

/-- A field is no detail that the definition copies from a parent. -/
def Definition.owns (definition : Definition) : Field → Bool
  | .detail key => !(definition.inherited.find? key).isSome
  | _ => true

/-- Each write to an inherited detail leaves the parent's value, and so do they all, if there is one
among them. -/
theorem Write.foldl_inherited {policy : WritePolicy} {key : String} {value : Value}
    (inherits : Assignment.inherited? policy (.detail key) = some (key, value))
    (writes : List Write) (record : Record) :
    (writes.foldl (apply policy) record).detail? key =
      if ∃ w ∈ writes, w.assignment.field = .detail key then some value
      else record.detail? key := by
  induction writes generalizing record with
  | nil => simp only [List.foldl_nil, List.not_mem_nil, false_and, exists_false, ↓reduceIte]
  | cons w rest ih =>
    have inherits' : Assignment.inherited? (w.policy policy) (.detail key) = some (key, value) :=
      (inherited?_policy policy w (.detail key)).trans inherits
    have first : (w.apply policy record).detail? key =
        if w.assignment.field = .detail key then some value else record.detail? key :=
      Assignment.detail?_apply inherits' w.visit.captures w.assignment record
    rw [List.foldl_cons, ih, first]
    simp only [List.mem_cons, or_and_right, exists_or, exists_eq_left]
    by_cases later : ∃ w ∈ rest, w.assignment.field = .detail key
    · rw [if_pos later, if_pos (.inr later)]
    · simp only [later, ↓reduceIte, or_false]

namespace Scraper

variable {definition : Definition} {options : ScrapeOptions} {parent : Record}

theorem inherited?_of_parent (inherits : options.inherit = true)
    (given : options.parent = some parent) {key parentKey : String}
    (mapped : definition.inherited.find? key = some parentKey) :
    Assignment.inherited? (writePolicy definition options) (.detail key) =
      some (key, (parent.detail? parentKey).getD .null) := by
  rw [inherited?_writePolicy, inherits, given, mapped]
  rfl

theorem owns_iff (inherits : options.inherit = true) (given : options.parent = some parent)
    (field : Field) :
    definition.owns field = (Assignment.inherited? (writePolicy definition options) field).isNone := by
  cases field with
  | detail key =>
    rw [inherited?_writePolicy, inherits, given, Definition.owns]
    cases definition.inherited.find? key <;> rfl
  | _ => rfl

/-- Some procedure that has an assignment to the detail was matched. -/
def Assigned (found : Option (List Evaluation)) (key : String) : Prop :=
  ∃ w ∈ writes found, w.assignment.field = .detail key

/-- An item that inherits, the same item if it does not, and the item if moreover nothing is
assigned to the details that it would inherit. -/
structure Trial where
  found : Option (List Evaluation)
  item : ScrapedItem
  plain : ScrapedItem
  spared : ScrapedItem

/-- Inherited details are the parent's; all else is as if there were no parent, and nothing is
warned of on their account. -/
structure Trial.Inherits (definition : Definition) (options : ScrapeOptions) (parent : Record)
    (defaults : Details) (trial : Trial) : Prop where
  taken : ∀ key parentKey, definition.inherited.find? key = some parentKey →
    Assigned trial.found key →
    trial.item.record.detail? key = some ((parent.detail? parentKey).getD .null)
  left : ∀ key parentKey, definition.inherited.find? key = some parentKey →
    ¬Assigned trial.found key → trial.item.record.detail? key = defaults.find? key
  elsewhere : trial.item.record.AgreeOn id (definition.owns · = true) trial.plain.record
  location : trial.item.record.location = trial.plain.record.location
  silent : ∀ w ∈ writes trial.found, definition.owns w.assignment.field = false →
    ∀ record, (w.assignment.apply (w.policy (writePolicy definition options)) w.visit.captures
      record).2 = []
  report : trial.item.report = trial.spared.report

variable (definition options) in
/-- What evaluations make of a record, with inheritance and without. -/
def trial (defaults : Details) (record : Record) : Option (List Evaluation) → Trial
  | none =>
      let item := ⟨record.reset defaults, Report.mismatch⟩
      ⟨none, item, item, item⟩
  | some found =>
      let plain := { options with inherit := false }
      ⟨some found, itemFrom definition options defaults record found,
        itemFrom definition plain defaults record found,
        itemFrom (definition.limited definition.owns) plain defaults record
          (Evaluation.limitedAll definition.owns found)⟩

theorem trial_found (defaults : Details) (record : Record) (found : Option (List Evaluation)) :
    (trial definition options defaults record found).found = found := by
  cases found <;> rfl

theorem trial_item (defaults : Details) (record : Record) (found : Option (List Evaluation)) :
    answerFrom definition options defaults record found =
      let item := (trial definition options defaults record found).item
      (.ok item.report, item.record) := by
  cases found <;> rfl

theorem trial_plain (defaults : Details) (record : Record) (found : Option (List Evaluation)) :
    answerFrom definition { options with inherit := false } defaults record found =
      let item := (trial definition options defaults record found).plain
      (.ok item.report, item.record) := by
  cases found <;> rfl

theorem trial_spared (defaults : Details) (record : Record) (found : Option (List Evaluation)) :
    answerFrom (definition.limited definition.owns) { options with inherit := false } defaults
        record (found.map (Evaluation.limitedAll definition.owns)) =
      let item := (trial definition options defaults record found).spared
      (.ok item.report, item.record) := by
  cases found <;> rfl

theorem inheritsRest_of_parent (inherits : options.inherit = true)
    (given : options.parent = some parent) :
    (writePolicy definition options).InheritsRest definition.owns := by
  intro field rest
  rw [owns_iff inherits given, Option.isNone_eq_false_iff] at rest
  exact rest

theorem alikeAt_of_parent (inherits : options.inherit = true)
    (given : options.parent = some parent) :
    (writePolicy definition options).AlikeAt definition.owns
      (writePolicy definition { options with inherit := false }) where
  importing := rfl
  inherits field own := by
    rw [owns_iff inherits given, Option.isNone_iff_eq_none] at own
    rw [own]
    cases field <;> rfl

/-- An item agrees with the one that leaves assignments out, on the fields that these are not to;
and if those fields are inherited, the reports are the same. -/
theorem itemFrom_limited {definition' : Definition} {options' : ScrapeOptions}
    {kept : Field → Bool}
    (alike : (writePolicy definition options).AlikeAt kept (writePolicy definition' options'))
    (defaults : Details) (record : Record) (found : List Evaluation) :
    let whole := itemFrom definition options defaults record found
    let limited := itemFrom definition' options' defaults record (Evaluation.limitedAll kept found)
    whole.record.AgreeOn id (kept · = true) limited.record ∧
      ((writePolicy definition options).InheritsRest kept → whole.report = limited.report) := by
  have start := Record.AgreeOn.refl id (kept · = true) (record.reset defaults)
  obtain ⟨agree, warned⟩ := Step.writeAll_limited alike (Evaluation.walkAll found).steps start
  simp only [itemFrom, itemOf, Evaluation.walkAll_limited, Walk.limited]
  exact ⟨agree, fun all => congrArg (Report.ofRun _) (warned all)⟩

theorem trial_inherits (inherits : options.inherit = true) (given : options.parent = some parent)
    (defaults : Details) (record : Record) (found : Option (List Evaluation)) :
    (trial definition options defaults record found).Inherits definition options parent
      defaults := by
  have item : (trial definition options defaults record found).item.record =
      (writes found).foldl (Write.apply (writePolicy definition options))
        (record.reset defaults) := by
    rw [← answerFrom_record, trial_item]
  have rest : (writePolicy definition options).InheritsRest definition.owns :=
    inheritsRest_of_parent inherits given
  have alike : (writePolicy definition options).AlikeAt definition.owns
      (writePolicy definition { options with inherit := false }) := alikeAt_of_parent inherits given
  refine { taken := ?_, left := ?_, elsewhere := ?_, location := ?_, silent := ?_, report := ?_ }
  · intro key parentKey mapped assigned
    rw [trial_found] at assigned
    rw [item, Write.foldl_inherited (inherited?_of_parent inherits given mapped)]
    exact if_pos assigned
  · intro key parentKey mapped notAssigned
    rw [trial_found] at notAssigned
    rw [item, Write.foldl_inherited (inherited?_of_parent inherits given mapped)]
    exact if_neg notAssigned
  · cases found with
    | none => exact .refl _ _ _
    | some found =>
      -- With inheritance or without, the item agrees with the one that leaves assignments out.
      have inheriting := itemFrom_limited alike defaults record found
      have plain := itemFrom_limited (.refl definition.owns
        (writePolicy definition { options with inherit := false })) defaults record found
      exact inheriting.1.trans plain.1.symm
  · cases found with
    | none => rfl
    | some found =>
      exact (Step.writeAll_location _ _ _).trans (Step.writeAll_location _ _ _).symm
  · intro w mem notOwn record
    have copied : (Assignment.inherited? (w.policy (writePolicy definition options))
        w.assignment.field).isSome = true := by
      rw [Write.inherited?_policy]
      exact rest _ notOwn
    exact Assignment.apply_snd_of_inherited copied record
  · cases found with
    | none => rfl
    | some found => exact (itemFrom_limited alike defaults record found).2 rest

section Evaluations

variable {m : Type → Type} [Monad m] [LawfulMonad m] {s : Scraper m} {fileName : Regex}
  {defaults : Details}

theorem evaluate_limited (kept : Field → Bool) (options : ScrapeOptions) (seed : Captures) :
    evaluate { s with definition := s.definition.limited kept } options seed =
      Evaluation.limitedAll kept <$> s.evaluate options seed := by
  have evaluated : evaluate { s with definition := s.definition.limited kept } options seed =
      (Procedure.evaluateAll (s.access options) seed
        (Procedure.limitedAll kept s.definition.procedures)).run {} >>=
          fun found => pure found.1 := rfl
  rw [evaluated, Procedure.evaluateAll_limited, StateT.run_map]
  simp only [evaluate, map_eq_pure_bind, bind_assoc, pure_bind]

/-- What is evaluated does not depend on assignments. -/
theorem evaluations_limited (prepared : s.preparation = .ready fileName defaults)
    (kept : Field → Bool) (options : ScrapeOptions) (location : String) :
    evaluations { s with definition := s.definition.limited kept } options location =
      Option.map (Evaluation.limitedAll kept) <$> s.evaluations options location := by
  have ready := ready_of_preparation prepared
  have ready' : Scraper.ready { s with definition := s.definition.limited kept } =
      .ok (fileName, defaults) := ready_of_preparation prepared
  simp only [evaluations, ready, ready', evaluate_limited, map_eq_pure_bind, bind_assoc]
  refine bind_congr fun seed => ?_
  cases seed with
  | none => simp only [pure_bind, Option.map_none]
  | some seed => simp only [bind_assoc, pure_bind, Option.map_some]

theorem evaluationsEach_limited (prepared : s.preparation = .ready fileName defaults)
    (kept : Field → Bool) (options : ScrapeOptions) (location : String) :
    evaluationsEach { s with definition := s.definition.limited kept } options location =
      List.map (Prod.map id (Evaluation.limitedAll kept)) <$>
        s.evaluationsEach options location := by
  have ready := ready_of_preparation prepared
  have ready' : Scraper.ready { s with definition := s.definition.limited kept } =
      .ok (fileName, defaults) := ready_of_preparation prepared
  simp only [evaluationsEach, ready, ready', evaluateEach]
  exact mapM_changed _ (evaluate_limited kept options) _

end Evaluations

end Scraper

/-- What a scrape inherits are the parent's details, and no other. A detail that the definition
inherits holds what the parent has if it is assigned to at all, and its default if not; the other
fields are as in a scrape that does not inherit, and the report as if nothing were assigned to what
is inherited. -/
theorem Scraper.inherited_from_parent {σ : Type} {s : Scraper (StateM σ)} {fileName : Regex}
    {defaults : Details} (ready : s.preparation = .ready fileName defaults)
    {options : ScrapeOptions} (inherits : options.inherit = true) {parent : Record}
    (given : options.parent = some parent) (w : σ) :
    let plain := { options with inherit := false }
    let spared := { s with definition := s.definition.limited s.definition.owns }
    (∀ record, ∃ trial : Trial,
      let ran := (s.evaluations options record.location).run w
      trial.found = ran.1 ∧
        (s.seen options record).run w = ((.ok trial.item.report, trial.item.record), ran.2) ∧
        (s.seen plain record).run w = ((.ok trial.plain.report, trial.plain.record), ran.2) ∧
        (spared.seen plain record).run w =
          ((.ok trial.spared.report, trial.spared.record), ran.2) ∧
        trial.Inherits s.definition options parent defaults) ∧
    ∀ location create, ∃ trials : List Trial,
      let ran := (s.evaluationsEach options location).run w
      trials.map Trial.found = ran.1.map (fun item => some item.2) ∧
        (s.seenEach options location create).run w = (.ok (trials.map Trial.item), ran.2) ∧
        (s.seenEach plain location create).run w = (.ok (trials.map Trial.plain), ran.2) ∧
        (spared.seenEach plain location create).run w = (.ok (trials.map Trial.spared), ran.2) ∧
        ∀ trial ∈ trials, trial.Inherits s.definition options parent defaults := by
  intro plain spared
  have prepared := ready_of_preparation ready
  have preparedSpared : spared.ready = .ok (fileName, defaults) := ready_of_preparation ready
  constructor
  · intro record
    let ran := (s.evaluations options record.location).run w
    -- What is evaluated is the same with inheritance and without.
    have sparedFound : spared.evaluations plain record.location =
        Option.map (Evaluation.limitedAll s.definition.owns) <$>
          s.evaluations options record.location := evaluations_limited ready _ plain _
    refine ⟨trial s.definition options defaults record ran.1, trial_found _ _ _, ?_, ?_, ?_,
      trial_inherits inherits given defaults record ran.1⟩
    · rw [seen_eq prepared, StateT.run_map]
      exact Prod.ext (trial_item defaults record ran.1) rfl
    · rw [seen_eq prepared, StateT.run_map]
      exact Prod.ext (trial_plain defaults record ran.1) rfl
    · rw [seen_eq preparedSpared, sparedFound, StateT.run_map, StateT.run_map]
      exact Prod.ext (trial_spared defaults record ran.1) rfl
  · intro location create
    let ran := (s.evaluationsEach options location).run w
    have sparedFound : spared.evaluationsEach plain location =
        List.map (Prod.map id (Evaluation.limitedAll s.definition.owns)) <$>
          s.evaluationsEach options location := evaluationsEach_limited ready _ plain _
    let trials := ran.1.map fun item =>
      trial s.definition options defaults (create item.1) (some item.2)
    have items : trials.map Trial.item =
        itemsFrom s.definition options defaults create ran.1 := List.map_map
    have plains : trials.map Trial.plain =
        itemsFrom s.definition plain defaults create ran.1 := List.map_map
    have spareds : trials.map Trial.spared = itemsFrom spared.definition plain defaults create
        (ran.1.map (Prod.map id (Evaluation.limitedAll s.definition.owns))) := by
      rw [itemsFrom, List.map_map, List.map_map]
      rfl
    refine ⟨trials, ?_, ?_, ?_, ?_, ?_⟩
    · simp only [trials, List.map_map, Function.comp_def, trial_found]
      rfl
    · rw [seenEach_eq prepared, StateT.run_map, items]
      rfl
    · rw [seenEach_eq prepared, StateT.run_map, plains]
      rfl
    · rw [seenEach_eq preparedSpared, sparedFound, StateT.run_map, StateT.run_map, spareds]
      rfl
    · intro made mem
      obtain ⟨item, -, rfl⟩ := List.mem_map.1 mem
      exact trial_inherits inherits given defaults (create item.1) (some item.2)

/-- Albums that take their tracks and their artist from the parent. -/
def familyAlbums : Definition :=
  { albums with
    inherited := (Dict.empty.insert "artist" "artist").insert "tracks" "titles" }

/-- An album that inherits has its parent's tracks, however many it was found to have, and its own
name. No artist is looked for, so that none is inherited. -/
theorem Scraper.inherited_from_parent_albums :
    let s := { readyAlbums with definition := familyAlbums }
    let titles := Value.array [.string "noon"]
    let parent : Record := { location := "", details := Dict.empty.insert "titles" titles }
    let options : ScrapeOptions := { inherit := true, parent := some parent }
    let album := Record.fresh "one" Dict.empty
    options.inherit = true ∧ options.parent = some parent ∧
      ∃ trial : Trial, trial.found = ((s.evaluations options album.location).run shelf).1 ∧
        ((s.seen options album).run shelf).1 = (.ok trial.item.report, trial.item.record) ∧
        Assigned trial.found "tracks" ∧ ¬Assigned trial.found "artist" ∧
        trial.item.record.detail? "tracks" = some titles ∧
        trial.item.record.detail? "artist" = none ∧
        trial.item.record.name = trial.plain.record.name ∧
        trial.item.report = trial.spared.report := by
  intro s titles parent options album
  have ready : s.preparation = .ready albumName albumDetails := rfl
  have given : options.parent = some parent := rfl
  obtain ⟨trial, found, ran, -, -, inherits⟩ := (inherited_from_parent ready rfl given shelf).1 album
  have mapped : familyAlbums.inherited.find? "tracks" = some "titles" :=
    Dict.find?_insert_self _ _ _
  have mapped' : familyAlbums.inherited.find? "artist" = some "artist" := by decide +kernel
  have assigned : Assigned trial.found "tracks" := by
    rw [found]
    unfold Assigned
    decide +kernel
  have notAssigned : ¬Assigned trial.found "artist" := by
    rw [found]
    unfold Assigned
    decide +kernel
  have held : parent.detail? "titles" = some titles := Dict.find?_insert_self _ _ _
  have tracks := inherits.taken "tracks" "titles" mapped assigned
  rw [held, Option.getD_some] at tracks
  exact ⟨rfl, given, trial, found, congrArg Prod.fst ran, assigned, notAssigned, tracks,
    inherits.left "artist" "artist" mapped' notAssigned, inherits.elsewhere.name rfl,
    inherits.report⟩

end Gleaner
