import Gleaner.Command
import Gleaner.Proofs.Prompting

set_option autoImplicit false

/-!
The program at a terminal where nothing is typed: asking leaves the requests on the screen, and
changes nothing else.
-/
namespace Gleaner

/-- What was put out at a terminal. -/
structure Screen where
  printed : List String := []
  /-- What was noted beside it, each text at a time. -/
  noted : List String := []
  deriving DecidableEq

namespace Screen

def print (screen : Screen) (text : String) : Screen :=
  { screen with printed := screen.printed ++ [text] }

def note (screen : Screen) (text : String) : Screen :=
  { screen with noted := screen.noted ++ [text] }

/-- Requests are noted; reads do not show. -/
def display (screen : Screen) : Event → Screen
  | .read _ => screen
  | .asked request => screen.note request.text

/-- Nothing shows. -/
def still (screen : Screen) (_ : Event) : Screen := screen

theorem foldl_display (events : List Event) (screen : Screen) :
    events.foldl display screen =
      ⟨screen.printed, screen.noted ++ (Event.requests events).map PromptRequest.text⟩ := by
  induction events generalizing screen with
  | nil => simp
  | cons event rest ih =>
    rw [List.foldl_cons, ih]
    cases event with
    | read reference => rfl
    | asked request => simp [display, note, Event.requests, Event.request?]

theorem foldl_still (events : List Event) (screen : Screen) :
    events.foldl still screen = screen := by
  induction events with
  | nil => rfl
  | cons event rest ih => exact ih

end Screen

variable {σ : Type}

/-- A terminal whose input is at its end. -/
def Console.unattended : Console (StateT Screen (StateM σ)) where
  print text := modify fun screen => screen.print text
  note text := modify fun screen => screen.note text
  readLine := pure []

/-- Files do not depend on what is on the screen. -/
def FileStore.behind (store : FileStore (StateM σ)) : FileStore (StateT Screen (StateM σ)) where
  read path := StateT.lift (store.read path)
  isFile path := StateT.lift (store.isFile path)
  isDirectory path := StateT.lift (store.isDirectory path)
  names? path := StateT.lift (store.names? path)

def Reader.behind (reader : Reader (StateM σ)) : Reader (StateT Screen (StateM σ)) where
  name := reader.name
  read reference := StateT.lift (reader.read reference)

def Surroundings.unattended (store : FileStore (StateM σ)) (environment : Environment)
    (web : Reader (StateM σ)) : Surroundings (StateT Screen (StateM σ)) where
  store := store.behind
  environment
  console := .unattended
  web := web.behind

theorem PromptRequest.chosen_nil (r : PromptRequest) : r.chosen [] = none := by
  have empty : Text.decode? [] = some "" := by simp [Text.decode?, Text.decodeChars]
  have pieces : Answer.pieces "" = [] := by decide
  simp [chosen, empty, Answer.read?, pieces]

/-- Programs that leave the same on the screen, but for requests. -/
abbrev showing : Correspondence (StateT Screen (StateM σ)) (StateT Screen (StateM σ)) :=
  loggingApart Screen.display Screen.still

/-- At the end of its input a terminal leaves every choice to the procedure. -/
theorem Prompter.terminal_neutral :
    showing.Neutral (Prompter.terminal (Console.unattended (σ := σ))) := by
  intro request
  refine ⟨none, .inl rfl, fun w => ⟨none, [.asked request], w, fun screen => ?_, fun _ => rfl⟩⟩
  have answered : (((Prompter.terminal Console.unattended).choose request).run screen).run w =
      ((request.chosen [], screen.note request.text), w) := rfl
  rw [answered, request.chosen_nil]
  rfl

namespace LogsApart

variable {L α : Type} {log log' : L → Event → L}

theorem lift (x : StateM σ α) : LogsApart log log' (StateT.lift x) (StateT.lift x) :=
  fun w => ⟨(x.run w).1, [], (x.run w).2, fun _ => rfl, fun _ => rfl⟩

end LogsApart

namespace Reader

theorem files_apart (store : FileStore (StateM σ)) (root : Option String) (reference : String) :
    showing.Related ((files store.behind root).read reference)
      ((files store.behind root).read reference) := by
  simp only [files]
  cases (Reference.ofText reference).path? root with
  | none => exact showing.related_pure _
  | some path =>
    refine showing.related_bind (LogsApart.lift (store.read path)) fun content => ?_
    cases content with
    | ok content => exact showing.related_pure _
    | error fault => exact showing.related_pure _

theorem ofSettings_apart {store : FileStore (StateM σ)} {web : Reader (StateM σ)}
    {settings : Settings} {reader : Reader (StateT Screen (StateM σ))}
    (built : ofSettings store.behind web.behind settings = .ok reader) (reference : String) :
    showing.Related (reader.read reference) (reader.read reference) := by
  unfold ofSettings at built
  split at built
  · split at built
    · cases built
    · cases built
      simp only [dispatch]
      split
      · exact LogsApart.lift (web.read reference)
      · exact files_apart store settings.root reference
  · cases built
    simp only [dispatch]
    split
    · exact showing.related_pure _
    · exact files_apart store settings.root reference

end Reader

namespace Command

section Neutral

variable {m : Type → Type} {scrapers : List (Scraper m)}

theorem mem_of_select {name : Option String} {selected : List (Scraper m)}
    (chosen : select name scrapers = .ok selected) {s : Scraper m} (mem : s ∈ selected) :
    s ∈ scrapers := by
  unfold select at chosen
  split at chosen
  · cases chosen
    exact mem
  · split at chosen
    · cases chosen
    · next named =>
      split at chosen
      · cases chosen
        exact (List.mem_filter.1 (named ▸ mem)).1
      · cases chosen

theorem mem_prepareAll [Monad m] {catalog : Catalog} {reader : Reader m} {prompter : Prompter m}
    {s : Scraper m} (mem : s ∈ prepareAll catalog reader prompter) :
    s.reader = reader ∧ s.prompter = some prompter := by
  obtain ⟨definition, -, rfl⟩ := List.mem_map.1 mem
  rw [prepared, Scraper.prepare_scraper]
  exact ⟨rfl, rfl⟩

/-- Where the settings ask, it makes no difference whether a command does. -/
theorem scrapeItem_asked [Monad m] {settings : Settings} (asks : settings.askUser = true)
    (scrapers : List (Scraper m)) (what : ScrapeCommand) :
    scrapeItem settings { what with askUser := true } scrapers =
      scrapeItem settings { what with askUser := false } scrapers := by
  simp [scrapeItem, optionsOf, baseOptions, asks]

variable [Monad m] [LawfulMonad m] {c : Correspondence m m}

/-- What is done after a scraper was tried, before the others. -/
def afterTry (options : ScrapeOptions) (location : String) (others : List (Scraper m)) :
    Except EngineError Report × Record → m (Except CommandError ScrapedItem)
  | (.ok report, record) =>
      if report.isMatch then pure (.ok ⟨record, report⟩) else firstMatch options location others
  | (.error _, _) => firstMatch options location others

theorem firstMatch_cons (options : ScrapeOptions) (location : String) (s : Scraper m)
    (others : List (Scraper m)) :
    firstMatch options location (s :: others) =
      if s.isValid then s.seen options { location } >>= afterTry options location others
      else firstMatch options location others := by
  rw [firstMatch, Scraper.seen, bind_assoc]
  split
  · refine bind_congr fun scraped => Eq.trans ?_ (pure_bind (scraped.1, scraped.2.1) _).symm
    obtain ⟨answer, record, after⟩ := scraped
    cases answer <;> rfl
  · rfl

theorem firstMatch_neutral (neutral : ∀ s ∈ scrapers, s.Neutral c) (options : ScrapeOptions)
    (location : String) :
    c.Related (firstMatch options.asking location scrapers)
      (firstMatch options.silent location scrapers) := by
  induction scrapers with
  | nil => exact c.related_pure _
  | cons s others ih =>
    obtain ⟨here, after⟩ := List.forall_mem_cons.1 neutral
    rw [firstMatch_cons, firstMatch_cons]
    split
    · refine c.related_bind (here.seen options { location }) fun ⟨answer, record⟩ => ?_
      cases answer with
      | error e => exact ih after
      | ok report =>
        simp only [afterTry]
        split
        · exact c.related_pure _
        · exact ih after
    · exact ih after

theorem parentOf_neutral (neutral : ∀ s ∈ scrapers, s.Neutral c) (options : ScrapeOptions)
    (parent : Option String) :
    c.Related (parentOf options.asking scrapers parent)
      (parentOf options.silent scrapers parent) := by
  cases parent with
  | none => exact c.related_pure _
  | some location =>
    refine c.related_bind (firstMatch_neutral neutral options location) fun found => ?_
    cases found with
    | ok item => exact c.related_pure _
    | error e => exact c.related_pure _

/-- Unless the settings ask anyway, a command that asks comes to the same as one that does not. -/
theorem scrapeItem_neutral {settings : Settings} (silent : settings.askUser = false)
    (neutral : ∀ s ∈ scrapers, s.Neutral c) (what : ScrapeCommand) :
    c.Related (scrapeItem settings { what with askUser := true } scrapers)
      (scrapeItem settings { what with askUser := false } scrapers) := by
  have base : baseOptions settings { what with askUser := false } =
      (baseOptions settings what).silent := by
    simp [baseOptions, ScrapeOptions.silent, silent]
  have options : ∀ parent, optionsOf settings { what with askUser := false } parent =
      (optionsOf settings what parent).silent := by
    intro parent
    simp [optionsOf, baseOptions, ScrapeOptions.silent, silent]
  unfold scrapeItem
  cases chosen : select what.scraper scrapers with
  | error e => exact c.related_pure _
  | ok selected =>
    have within : ∀ s ∈ selected, s.Neutral c := fun s mem =>
      neutral s (mem_of_select chosen mem)
    rw [base]
    have parents := parentOf_neutral within (baseOptions settings what) what.parent
    refine c.related_bind parents fun found => ?_
    cases found with
    | error e => exact c.related_pure _
    | ok parent =>
      have scraped := firstMatch_neutral within (optionsOf settings what parent) what.location
      rwa [← options] at scraped

end Neutral

/-- The scrapers that a command works with at an unattended terminal. -/
theorem scrapersOf_neutral {store : FileStore (StateM σ)} {environment : Environment}
    {web : Reader (StateM σ)} {settings : Settings} {catalog : Catalog}
    {scrapers : List (Scraper (StateT Screen (StateM σ)))}
    (built : scrapersOf (.unattended store environment web) settings catalog = .ok scrapers) :
    ∀ s ∈ scrapers, s.Neutral showing := by
  unfold scrapersOf at built
  split at built
  · next reader read =>
    cases built
    intro s mem
    obtain ⟨reads, asks⟩ := mem_prepareAll mem
    refine ⟨fun reference => ?_, fun prompter there => ?_⟩
    · rw [reads]
      exact Reader.ofSettings_apart read reference
    · cases asks.symm.trans there
      exact Prompter.terminal_neutral
  · cases built

end Command

/-- Two runs come to the same and put out the same, but for requests that the first shows. -/
structure SameOutput {α : Type} (asking silent : (α × Screen) × σ) : Prop where
  result : asking.1.1 = silent.1.1
  outside : asking.2 = silent.2
  printed : asking.1.2.printed = silent.1.2.printed
  noted : ∃ before after, ∃ requests : List PromptRequest,
    asking.1.2.noted = before ++ requests.map PromptRequest.text ++ after ∧
      silent.1.2.noted = before ++ after

namespace SameOutput

variable {α β : Type}

theorem refl (run : (α × Screen) × σ) : SameOutput run run :=
  ⟨rfl, rfl, rfl, run.1.2.noted, [], [], by simp, by simp⟩

/-- What comes before does not matter, as long as it is the same. -/
theorem bind (first : StateT Screen (StateM σ) α) {f g : α → StateT Screen (StateM σ) β}
    (next : ∀ a screen w, SameOutput (((f a).run screen).run w) (((g a).run screen).run w))
    (screen : Screen) (w : σ) :
    SameOutput (((first >>= f).run screen).run w) (((first >>= g).run screen).run w) := by
  rw [run_run_bind, run_run_bind]
  exact next _ _ _

end SameOutput

/-- A program that puts out what it puts out, whatever is on the screen. -/
def PutsOut {α : Type} (x : StateT Screen (StateM σ) α) : Prop :=
  ∀ w, ∃ (a : α) (printed noted : List String) (w' : σ), ∀ screen : Screen,
    (x.run screen).run w = ((a, ⟨screen.printed ++ printed, screen.noted ++ noted⟩), w')

namespace PutsOut

variable {α β : Type}

theorem pure (a : α) : PutsOut (Pure.pure a : StateT Screen (StateM σ) α) :=
  fun w => ⟨a, [], [], w, fun screen => by simp only [List.append_nil]; rfl⟩

theorem bind {x : StateT Screen (StateM σ) α} {f : α → StateT Screen (StateM σ) β}
    (first : PutsOut x) (next : ∀ a, PutsOut (f a)) : PutsOut (x >>= f) := by
  intro w
  obtain ⟨a, printed, noted, w₁, runX⟩ := first w
  obtain ⟨b, printed', noted', w₂, runF⟩ := next a w₁
  refine ⟨b, printed ++ printed', noted ++ noted', w₂, fun screen => ?_⟩
  rw [run_run_bind, runX, runF, List.append_assoc, List.append_assoc]

theorem print (text : String) : PutsOut ((Console.unattended (σ := σ)).print text) :=
  fun w => ⟨(), [text], [], w, fun screen => by simp only [List.append_nil]; rfl⟩

theorem note (text : String) : PutsOut ((Console.unattended (σ := σ)).note text) :=
  fun w => ⟨(), [], [text], w, fun screen => by simp only [List.append_nil]; rfl⟩

end PutsOut

/-- What is put out in the end comes after the requests. -/
theorem LogsApart.sameOutput {α β : Type} {x y : StateT Screen (StateM σ) α}
    (apart : showing.Related x y) {next : α → StateT Screen (StateM σ) β}
    (putsOut : ∀ a, PutsOut (next a)) (screen : Screen) (w : σ) :
    SameOutput (((x >>= next).run screen).run w) (((y >>= next).run screen).run w) := by
  obtain ⟨a, events, w₁, runX, runY⟩ := apart w
  obtain ⟨b, printed, noted, w₂, run⟩ := putsOut a w₁
  rw [run_run_bind, run_run_bind, runX, runY, Screen.foldl_display, Screen.foldl_still, run, run]
  exact {
    result := rfl
    outside := rfl
    printed := rfl
    noted := ⟨screen.noted, noted, Event.requests events, rfl, rfl⟩ }

namespace Command

theorem showItem_putsOut (item : ScrapedItem) :
    PutsOut (showItem (Console.unattended (σ := σ)) item) :=
  .bind (.print _) fun _ => .bind (.note _) fun _ => .pure _

/-- Whether a command asks shows in the requests alone, whatever is put out when it is over. -/
theorem perform_sameOutput (store : FileStore (StateM σ)) (environment : Environment)
    (web : Reader (StateM σ)) (settings : Settings) (catalog : Catalog) (what : ScrapeCommand)
    {next : Except CommandError ExitCode → StateT Screen (StateM σ) ExitCode}
    (putsOut : ∀ done, PutsOut (next done)) (screen : Screen) (w : σ) :
    let s := Surroundings.unattended store environment web
    let run askUser := ((perform s settings catalog (.scrape { what with askUser }) >>= next).run
      screen).run w
    SameOutput (run true) (run false) := by
  intro s run
  simp only [run, perform]
  cases built : scrapersOf s settings catalog with
  | error e => exact .refl _
  | ok scrapers =>
    simp only [scrapeAndShow, bind_assoc]
    cases asks : settings.askUser with
    | true =>
      rw [scrapeItem_asked asks]
      exact .refl _
    | false =>
      refine LogsApart.sameOutput (scrapeItem_neutral asks (scrapersOf_neutral built) what)
        (fun scraped => ?_) screen w
      cases scraped with
      | ok item => exact .bind (.bind (showItem_putsOut item) fun _ => .pure _) putsOut
      | error e => exact .bind (.pure _) putsOut

end Command

/-- At a terminal where nothing is typed, the program prints the same and ends alike with the flag
that lets it ask and without it. -/
theorem CommandLine.perform_sameOutput (store : FileStore (StateM σ)) (environment : Environment)
    (web : Reader (StateM σ)) (settings : Option String) (what : ScrapeCommand)
    (screen : Screen) (w : σ) :
    let s := Surroundings.unattended store environment web
    let run askUser := ((CommandLine.perform s (.run settings (.scrape { what with askUser }))).run
      screen).run w
    SameOutput (run true) (run false) := by
  intro s run
  simp only [run, CommandLine.perform, Command.run, bind_assoc]
  refine SameOutput.bind _ (fun loaded screen w => ?_) screen w
  cases loaded with
  | error e => exact .refl _
  | ok settings =>
    simp only [bind_assoc]
    refine SameOutput.bind _ (fun loaded screen w => ?_) screen w
    cases loaded with
    | error e => exact .refl _
    | ok catalog =>
      refine Command.perform_sameOutput store environment web settings catalog what
        (fun done => ?_) screen w
      cases done with
      | ok code => exact .pure code
      | error e => exact .bind (.note e.text) fun _ => .pure ExitCode.failure

/-- Asking is not noticed where the operator leaves every choice to the procedure, or makes that
very choice: the report, the record and the reads are those of a scrape that does not ask. Such a
scrape makes no requests, whoever is there. At a terminal where nothing is typed the program
therefore prints the same, and ends alike, whether it is told to ask or not. -/
theorem asking_unnoticed (definition : Definition) (reader : Reader (StateM σ))
    (preparation : Preparation) (held : SourceCache) (options : ScrapeOptions) (record : Record)
    (w : σ) {answers : PromptRequest → Option (List Captures)}
    (neutral : ∀ request : PromptRequest, request.Neutral (answers request)) :
    let s prompter := { Scraper.logging definition reader prompter with preparation, cache := held }
    let asking := (s (some (.answering answers))).observe options.asking record w
    let silent prompter := (s prompter).observe options.silent record w
    (∀ prompter, asking.SameSeen (silent prompter) ∧ (silent prompter).requests = []) ∧
      ∀ (store : FileStore (StateM σ)) (environment : Environment) (web : Reader (StateM σ))
        (settings : Option String) (what : ScrapeCommand) (screen : Screen),
        let terminal := Surroundings.unattended store environment web
        let run askUser := ((CommandLine.perform terminal
          (.run settings (.scrape { what with askUser }))).run screen).run w
        SameOutput (run true) (run false) := by
  intro s asking silent
  refine ⟨fun prompter => ?_, fun store environment web settings what screen =>
    CommandLine.perform_sameOutput store environment web settings what screen w⟩
  have declines : (s (some (.answering answers))).Neutral
      (loggingApart Event.log Event.logRead) := by
    refine Scraper.neutral_logged rfl fun prompter there => ?_
    cases there
    exact fun request => ⟨answers request, neutral request,
      fun w => ⟨answers request, [.asked request], w, fun _ => rfl, fun _ => rfl⟩⟩
  obtain ⟨unasked, unnoticed⟩ := Scraper.observe_silent (s := s prompter) rfl options record w
  have same : silent (some (.answering answers)) = silent prompter :=
    unnoticed ((some (Prompter.answering answers)).map Prompter.logged)
  exact ⟨same ▸ (declines.observe options record w).1, unasked⟩

/-- An operator is asked for one of two albums and for one of its tracks, and takes what is taken
without him. -/
theorem asking_unnoticed_albums :
    let answers : PromptRequest → Option (List Captures) := fun request => some request.default
    let s prompter : Scraper (Logged World) :=
      { Scraper.logging choosyAlbums World.reader prompter with
        preparation := .ready albumName albumDetails, cache := {} }
    let asking := (s (some (.answering answers))).observe
      (ScrapeOptions.asking {}) { location := "one two" } shelf
    let silent := (s none).observe (ScrapeOptions.silent {}) { location := "one two" } shelf
    asking.requests.map (·.source) = ["one two", "one.txt"] ∧
      asking.record.name = some "dawn" ∧ asking.SameSeen silent ∧ silent.requests = [] := by
  intro answers s asking silent
  have requests : asking.requests.map (·.source) = ["one two", "one.txt"] := by decide +kernel
  have name : asking.record.name = some "dawn" := by decide +kernel
  have neutral : ∀ request : PromptRequest, request.Neutral (answers request) :=
    fun request => .inr rfl
  obtain ⟨unnoticed, -⟩ := asking_unnoticed choosyAlbums World.reader
    (.ready albumName albumDetails) {} {} { location := "one two" } shelf neutral
  exact ⟨requests, name, unnoticed none⟩

end Gleaner
