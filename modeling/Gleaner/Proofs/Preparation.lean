import Gleaner.Proofs.Calls
import Gleaner.Proofs.Validation
import Gleaner.Proofs.World

set_option autoImplicit false

/-!
Preparing is decided once. What a scraper is after any calls follows from the first registry that
it was prepared with, and a scraper that is not valid does nothing. Main statement:
`preparation_decided_once`.
-/
namespace Gleaner

variable {σ : Type}

/-- The registry of a call that prepares. -/
def Call.types? : Call → Option (String → Option Details)
  | prepare defaultsOf => some defaultsOf
  | _ => none

/-- The registry that a scraper is prepared with first, if it is prepared. -/
def firstTypes? (history : List (σ × Call)) : Option (String → Option Details) :=
  history.findSome? fun made => made.2.types?

/-- A definition that is valid, of a media type that the registry knows. -/
structure Definition.Accepted (d : Definition) (defaultsOf : String → Option Details)
    (fileName : Regex) (defaults : Details) : Prop where
  valid : d.Valid fileName
  known : defaultsOf d.targetType = some defaults

/-- What the first registry settles for good. -/
def Preparation.settledBy (d : Definition) : Option (String → Option Details) → Preparation
  | none => .pending
  | some defaultsOf =>
      match Scraper.examine d defaultsOf with
      | .ok (fileName, defaults) => .ready fileName defaults
      | .error _ => .refused

namespace Scraper

theorem examine_eq_ok_iff (d : Definition) (defaultsOf : String → Option Details)
    (fileName : Regex) (defaults : Details) :
    examine d defaultsOf = .ok (fileName, defaults) ↔
      d.Accepted defaultsOf fileName defaults := by
  unfold examine
  constructor
  · intro examined
    cases valid : d.validate with
    | error e =>
      rw [valid] at examined
      cases examined
    | ok found =>
      cases known : defaultsOf d.targetType with
      | none =>
        simp only [valid, known] at examined
        cases examined
      | some given =>
        simp only [valid, known] at examined
        cases examined
        exact ⟨(d.validate_eq_ok_iff _).1 valid, known⟩
  · rintro ⟨valid, known⟩
    simp only [(d.validate_eq_ok_iff _).2 valid, known]
    rfl

end Scraper

namespace Preparation

variable (d : Definition) (defaultsOf : String → Option Details)

theorem settledBy_of_accepted {d : Definition} {defaultsOf : String → Option Details}
    {fileName : Regex} {defaults : Details} (accepted : d.Accepted defaultsOf fileName defaults) :
    settledBy d (some defaultsOf) = .ready fileName defaults := by
  simp only [settledBy, (Scraper.examine_eq_ok_iff d defaultsOf _ _).2 accepted]

theorem settledBy_of_not_accepted {d : Definition} {defaultsOf : String → Option Details}
    (refused : ¬∃ fileName defaults, d.Accepted defaultsOf fileName defaults) :
    settledBy d (some defaultsOf) = .refused := by
  cases examined : Scraper.examine d defaultsOf with
  | error e => simp only [settledBy, examined]
  | ok prepared =>
    have accepted := (Scraper.examine_eq_ok_iff d defaultsOf prepared.1 prepared.2).1 examined
    exact absurd ⟨_, _, accepted⟩ refused

/-- A registry settles what is prepared with it, one way or the other. -/
theorem settledBy_some_ne_pending : settledBy d (some defaultsOf) ≠ .pending := by
  cases examined : Scraper.examine d defaultsOf with
  | error e =>
    simp only [settledBy, examined]
    exact nofun
  | ok prepared =>
    simp only [settledBy, examined]
    exact nofun

end Preparation

theorem Call.preparation_of_pending {s : Scraper (StateM σ)} (pending : s.preparation = .pending)
    (call : Call) : call.preparation s = .settledBy s.definition call.types? := by
  cases call with
  | prepare defaultsOf =>
    simp only [preparation, types?, Preparation.settledBy, Scraper.prepare, pending]
    cases Scraper.examine s.definition defaultsOf <;> rfl
  | _ => exact pending

/-- The calls of a scraper that was not prepared before leave what the first registry settles, and
some cache. -/
theorem Scraper.afterAll_of_pending {s : Scraper (StateM σ)} (pending : s.preparation = .pending)
    (history : List (σ × Call)) :
    ∃ cache, s.afterAll history =
      { s with preparation := .settledBy s.definition (firstTypes? history), cache } := by
  induction history generalizing s with
  | nil =>
    refine ⟨s.cache, ?_⟩
    rw [show Preparation.settledBy s.definition (firstTypes? ([] : List (σ × Call))) =
      s.preparation from pending.symm]
    rfl
  | cons made rest ih =>
    obtain ⟨cache, one⟩ := made.2.after_eq made.1 s
    rw [Call.preparation_of_pending pending] at one
    -- Until the first call that prepares the scraper stays as it was; from then on it is settled.
    cases types : made.2.types? with
    | none =>
      have first : firstTypes? (made :: rest) = firstTypes? rest := by
        simp only [firstTypes?, List.findSome?_cons, types]
      have still : (made.2.after made.1 s).preparation = .pending := by
        rw [one, types]
        rfl
      obtain ⟨last, others⟩ := ih still
      refine ⟨last, others.trans ?_⟩
      rw [first, one]
    | some defaultsOf =>
      have first : firstTypes? (made :: rest) = some defaultsOf := by
        simp only [firstTypes?, List.findSome?_cons, types]
      have settled : (made.2.after made.1 s).preparation ≠ .pending := by
        rw [one, types]
        exact Preparation.settledBy_some_ne_pending s.definition defaultsOf
      obtain ⟨last, others⟩ := afterAll_of_settled settled rest
      refine ⟨last, others.trans ?_⟩
      rw [first, one, types]

namespace Scraper

variable {m : Type → Type}

theorem ready_of_isValid {s : Scraper m} (valid : s.isValid = true) :
    ∃ fileName defaults, s.preparation = .ready fileName defaults := by
  unfold isValid at valid
  split at valid
  · next fileName defaults ready => exact ⟨fileName, defaults, ready⟩
  · cases valid

variable [Monad m]

/-- Scrapes items one after the other, where the record of each is created by a program. -/
def executeEachM (options : ScrapeOptions) (defaults : Details) (create : Captures → m Record) :
    List Captures → Scraper m → m (List ScrapedItem × Scraper m)
  | [], s => pure ([], s)
  | seed :: seeds, s => do
      let record ← create seed
      let (item, s) ← s.execute options seed (record.reset defaults)
      let (items, s) ← executeEachM options defaults create seeds s
      pure (item :: items, s)

/-- Scrapes every item of a location, where the records are created by a program. -/
def scrapeEachM (s : Scraper m) (options : ScrapeOptions) (location : String)
    (create : Captures → m Record) : m (Except EngineError (List ScrapedItem) × Scraper m) :=
  match s.ready with
  | .error e => pure (.error e, s)
  | .ok (fileName, defaults) => do
      let (items, s) ← executeEachM options defaults create (seeds s.definition fileName location) s
      pure (.ok items, s)

variable [LawfulMonad m]

theorem executeEach_eq_executeEachM (options : ScrapeOptions) (defaults : Details)
    (create : Captures → Record) (seeds : List Captures) (s : Scraper m) :
    executeEach options defaults create seeds s =
      executeEachM options defaults (fun seed => pure (create seed)) seeds s := by
  induction seeds generalizing s with
  | nil => rfl
  | cons seed rest ih =>
    simp only [executeEach, executeEachM, pure_bind]
    refine bind_congr fun scraped => ?_
    rw [ih]

/-- Creating records without a program is the case of programs that do nothing else. -/
theorem scrapeEach_eq_scrapeEachM (s : Scraper m) (options : ScrapeOptions) (location : String)
    (create : Captures → Record) :
    s.scrapeEach options location create =
      s.scrapeEachM options location fun seed => pure (create seed) := by
  cases found : s.ready with
  | error e => simp only [scrapeEach, scrapeEachM, found]
  | ok prepared => simp only [scrapeEach, scrapeEachM, found, executeEach_eq_executeEachM]

omit [LawfulMonad m] in
theorem scrapeEachM_of_error {s : Scraper m} {e : EngineError} (refused : s.ready = .error e)
    (options : ScrapeOptions) (location : String) (create : Captures → m Record) :
    s.scrapeEachM options location create = pure (.error e, s) := by
  simp only [scrapeEachM, refused]

/-- Scraping fails, and that is all that it does: the record and the scraper stay as they are,
nothing is read or asked, and no record is created. -/
structure Refuses (s : Scraper m) (e : EngineError) : Prop where
  kind : e.kind = .invalidDefinition
  scrape : ∀ options record, s.scrape options record = pure (.error e, record, s)
  scrapeEach : ∀ options location create,
    s.scrapeEach options location create = pure (.error e, s)
  creating : ∀ options location create,
    s.scrapeEachM options location create = pure (.error e, s)

theorem refuses_of_error {s : Scraper m} {e : EngineError} (kind : e.kind = .invalidDefinition)
    (refused : s.ready = .error e) : s.Refuses e where
  kind := kind
  scrape := scrape_of_error refused
  scrapeEach options location create := by
    rw [scrapeEach_eq_scrapeEachM]
    exact scrapeEachM_of_error refused options location _
  creating := scrapeEachM_of_error refused

/-- A scraper that is not valid fails closed. -/
theorem refuses_of_not_isValid {s : Scraper m} (invalid : s.isValid = false) :
    ∃ e, s.Refuses e := by
  have refused : ∃ e : EngineError, e.kind = .invalidDefinition ∧ s.ready = .error e := by
    cases settled : s.preparation with
    | pending =>
      exact ⟨.notPrepared s.definition.name, rfl, by simp only [ready, settled]⟩
    | refused =>
      exact ⟨.failedValidation s.definition.name, rfl, by simp only [ready, settled]⟩
    | ready fileName defaults =>
      simp only [isValid, settled] at invalid
      cases invalid
  obtain ⟨e, kind, refused⟩ := refused
  exact ⟨e, refuses_of_error kind refused⟩

/-- What the first registry decides about a scraper, whatever else is called. -/
structure DecidedOnce (d : Definition) (first : Option (String → Option Details))
    (s : Scraper m) : Prop where
  isValid_iff : s.isValid = true ↔ ∃ defaultsOf, first = some defaultsOf ∧
    ∃ fileName defaults, d.Accepted defaultsOf fileName defaults
  /-- Preparing for the first time succeeds with a registry that accepts the definition. -/
  undecided : first = none → ∀ defaultsOf, (s.prepare defaultsOf).1 = .ok () ↔
    ∃ fileName defaults, d.Accepted defaultsOf fileName defaults
  /-- Preparing again succeeds and changes nothing, and the first defaults stay in use. -/
  accepted : ∀ defaultsOf fileName defaults, first = some defaultsOf →
    d.Accepted defaultsOf fileName defaults →
    s.ready = .ok (fileName, defaults) ∧ ∀ later, s.prepare later = (.ok (), s)
  /-- Preparing again fails whatever the registry, and so does scraping. -/
  refused : ∀ defaultsOf, first = some defaultsOf →
    (¬∃ fileName defaults, d.Accepted defaultsOf fileName defaults) →
    ∃ e, s.Refuses e ∧ ∀ later, s.prepare later = (.error e, s)
  closed : s.isValid = false → ∃ e, s.Refuses e

theorem decidedOnce_of_settled {d : Definition} {s : Scraper m}
    {first : Option (String → Option Details)} (definition : s.definition = d)
    (settled : s.preparation = .settledBy d first) : s.DecidedOnce d first where
  isValid_iff := by
    constructor
    · intro valid
      obtain ⟨fileName, defaults, ready⟩ := ready_of_isValid valid
      rw [ready] at settled
      cases first with
      | none => cases settled
      | some defaultsOf =>
        refine ⟨defaultsOf, rfl, Classical.byContradiction fun refused => ?_⟩
        rw [Preparation.settledBy_of_not_accepted refused] at settled
        cases settled
    · rintro ⟨defaultsOf, rfl, fileName, defaults, accepted⟩
      rw [Preparation.settledBy_of_accepted accepted] at settled
      simp only [isValid, settled]
  undecided none defaultsOf := by
    have pending : s.preparation = .pending := by rw [settled, none]; rfl
    constructor
    · intro prepared
      obtain ⟨fileName, defaults, valid, known, -⟩ := prepare_of_pending pending prepared
      rw [definition] at valid known
      exact ⟨fileName, defaults, (d.validate_eq_ok_iff fileName).1 valid, known⟩
    · rintro ⟨fileName, defaults, valid, known⟩
      have checked := (d.validate_eq_ok_iff fileName).2 valid
      rw [← definition] at checked known
      rw [prepare_of_valid pending checked known]
  accepted defaultsOf fileName defaults same accepted := by
    rw [same, Preparation.settledBy_of_accepted accepted] at settled
    refine ⟨ready_of_preparation settled, fun later => ?_⟩
    simp only [prepare, settled]
  refused defaultsOf same refused := by
    rw [same, Preparation.settledBy_of_not_accepted refused] at settled
    have failed : s.ready = .error (.failedValidation s.definition.name) := by
      simp only [ready, settled]
    refine ⟨.failedValidation s.definition.name, refuses_of_error rfl failed, fun later => ?_⟩
    simp only [prepare, settled]
  closed := refuses_of_not_isValid

end Scraper

/-- Preparing is decided once. Whatever is called of a new scraper and in whatever worlds, it is
valid if the first registry that it was prepared with knows its media type and its definition is
valid; that does not change any more, and a scraper that is not valid does nothing. -/
theorem preparation_decided_once (definition : Definition) (reader : Reader (StateM σ))
    (prompter : Option (Prompter (StateM σ))) (history : List (σ × Call)) :
    let new : Scraper (StateM σ) := { definition, reader, prompter }
    (new.afterAll history).DecidedOnce definition (firstTypes? history) := by
  intro new
  obtain ⟨cache, after⟩ := Scraper.afterAll_of_pending (s := new) rfl history
  rw [after]
  exact Scraper.decidedOnce_of_settled rfl rfl

/-- A scraper of albums that is prepared late is valid from then on, and one that was first
prepared without a type for albums never is. -/
theorem preparation_decided_once_albums :
    let new : Scraper (StateM World) := { definition := albums, reader := World.reader }
    let untyped : String → Option Details := fun _ => none
    let album := Record.fresh "one" Dict.empty
    let late := new.afterAll
      [(shelf, .scrape {} album), (shelf, .prepare albumTypes), (shelf, .prepare untyped)]
    let never := new.afterAll [(shelf, .prepare untyped), (shelf, .prepare albumTypes)]
    (late.isValid = true ∧ ∀ later, late.prepare later = (.ok (), late)) ∧
      never.isValid = false ∧
      ∃ e, never.Refuses e ∧ ∀ later, never.prepare later = (.error e, never) := by
  intro new untyped album late never
  have prepared : (new.prepare albumTypes).1 = .ok () := eq_ok_of_isOk (by decide +kernel)
  obtain ⟨fileName, defaults, accepted⟩ :=
    ((preparation_decided_once albums World.reader none ([] : List (World × Call))).undecided rfl
      albumTypes).1 prepared
  have refused : ¬∃ fileName defaults, albums.Accepted untyped fileName defaults := by
    rintro ⟨_, _, -, known⟩
    cases known
  have lately := preparation_decided_once albums World.reader none
    [(shelf, .scrape {} album), (shelf, .prepare albumTypes), (shelf, .prepare untyped)]
  have neverDecided := preparation_decided_once albums World.reader none
    [(shelf, .prepare untyped), (shelf, .prepare albumTypes)]
  have valid : late.isValid = true :=
    lately.isValid_iff.2 ⟨albumTypes, rfl, fileName, defaults, accepted⟩
  have invalid : never.isValid = false := by
    refine Bool.eq_false_iff.2 fun valid => ?_
    obtain ⟨defaultsOf, first, accepted⟩ := neverDecided.isValid_iff.1 valid
    cases first
    exact refused accepted
  exact ⟨⟨valid, (lately.accepted albumTypes fileName defaults rfl accepted).2⟩, invalid,
    neverDecided.refused untyped rfl refused⟩

end Gleaner
