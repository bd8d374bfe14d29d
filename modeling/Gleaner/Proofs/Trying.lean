import Gleaner.Proofs.ByteOrder
import Gleaner.Proofs.Choosing
import Gleaner.Proofs.Showing

set_option autoImplicit false

/-!
Scraping an item from the command line where nobody is asked. The scraper that is chosen for the
location is the only one that shows: what is printed and noted is what it comes to alone, and with no
such scraper nothing is printed. Main statement: `scrape_chooses`.
-/
namespace Gleaner

section Alone

variable {m : Type → Type}

/-- The scraper of a definition by itself, prepared. -/
def Definition.scraper (d : Definition) (reader : Reader m)
    (defaultsOf : String → Option Details) : Scraper m :=
  (Scraper.prepare { definition := d, reader } defaultsOf).2

theorem Definition.scraper_eq (d : Definition) (reader : Reader m)
    (defaultsOf : String → Option Details) :
    d.scraper reader defaultsOf =
      { definition := d, reader, preparation := .settledBy d (some defaultsOf) } := by
  cases examined : Scraper.examine d defaultsOf <;>
    simp only [scraper, Scraper.prepare, Preparation.settledBy, examined]

/-- In a catalog a scraper also has an operator to ask. -/
theorem Command.prepared_eq (c : Catalog) (reader : Reader m) (prompter : Prompter m)
    (d : Definition) :
    prepared c reader prompter d =
      { d.scraper reader c.defaults? with prompter := some prompter } := by
  cases examined : Scraper.examine d c.defaults? <;>
    simp only [prepared, Definition.scraper, Scraper.prepare, examined]

/-- Whether one item is expected or several, the first match is the first seed. -/
theorem Scraper.head?_seeds (d : Definition) (fileName : Regex) (location : String) :
    (seeds d fileName location).head? = fileName.first? location := by
  unfold seeds
  split
  · exact fileName.head?_all location
  · cases fileName.first? location <;> rfl

variable [Monad m] [LawfulMonad m] {d : Definition} {c : Catalog} {reader : Reader m}
  {location : String} {fileName : Regex} {defaults : Details} {seed : Captures}

open Scraper (answerFrom itemFrom)

/-- What a scraper comes to follows from its evaluations for the first match of the location, if
there is one. -/
theorem Scraper.seen_of_accepted (accepted : d.Accepted c.defaults? fileName defaults)
    (options : ScrapeOptions) :
    (d.scraper reader c.defaults?).seen options { location } =
      answerFrom d options defaults { location } <$>
        match fileName.first? location with
        | none => pure none
        | some seed => some <$> (d.scraper reader c.defaults?).evaluate options seed := by
  have alone := d.scraper_eq reader c.defaults?
  rw [Preparation.settledBy_of_accepted accepted] at alone
  have listed : (d.scraper reader c.defaults?).definition = d := by
    rw [alone]
  have ready : (d.scraper reader c.defaults?).ready = .ok (fileName, defaults) := by
    rw [alone]
    rfl
  have first : (d.scraper reader c.defaults?).chooseSeed options location
      (seeds d fileName location) = pure (fileName.first? location) := by
    rw [alone, ← head?_seeds d]
    simp only [chooseSeed, ite_self]
  rw [seen_eq ready, evaluations, ready, listed]
  simp only [first, pure_bind]
  cases fileName.first? location with
  | none => rfl
  | some seed => simp only [map_eq_pure_bind]

/-- A scraper that recognises a location comes to an item there. -/
theorem Scraper.seen_of_matched (accepted : d.Accepted c.defaults? fileName defaults)
    (matched : fileName.first? location = some seed) (options : ScrapeOptions) :
    (d.scraper reader c.defaults?).seen options { location } =
      (fun found => answerFrom d options defaults { location } (some found)) <$>
        (d.scraper reader c.defaults?).evaluate options seed := by
  rw [seen_of_accepted accepted, matched, ← comp_map]
  rfl

namespace Command

variable (options : ScrapeOptions) (prompter : Prompter m) (others : List (Scraper m))

/-- A scraper that can be prepared is tried as if it were alone. -/
theorem firstMatch_of_accepted (accepted : d.Accepted c.defaults? fileName defaults) :
    firstMatch options.silent location (prepared c reader prompter d :: others) =
      (d.scraper reader c.defaults?).seen options.silent { location } >>=
        afterTry options.silent location others := by
  have valid : (prepared c reader prompter d).isValid = true := by
    rw [prepared_eq, Definition.scraper_eq, Preparation.settledBy_of_accepted accepted]
    rfl
  rw [firstMatch_cons, if_pos valid, prepared_eq, Scraper.seen_silent]

/-- The first scraper that recognises a location is the one that is taken. -/
theorem firstMatch_of_matched (accepted : d.Accepted c.defaults? fileName defaults)
    (matched : fileName.first? location = some seed) :
    firstMatch options.silent location (prepared c reader prompter d :: others) =
      (fun found => .ok (itemFrom d options.silent defaults { location } found)) <$>
        (d.scraper reader c.defaults?).evaluate options.silent seed := by
  rw [firstMatch_of_accepted _ _ _ accepted, Scraper.seen_of_matched accepted matched]
  simp only [map_eq_pure_bind, bind_assoc, pure_bind]
  refine bind_congr fun found => if_pos ?_
  exact bne_iff_ne.2 (Scraper.itemOf_outcome_ne _ _ _ _)

/-- A scraper that does not recognise a location leaves no trace. -/
theorem firstMatch_of_not_recognises (refuses : ¬d.Recognises c.defaults? location) :
    firstMatch options.silent location (prepared c reader prompter d :: others) =
      firstMatch options.silent location others := by
  by_cases accepted : ∃ fileName defaults, d.Accepted c.defaults? fileName defaults
  · obtain ⟨fileName, defaults, accepted⟩ := accepted
    have missed : fileName.first? location = none := by
      refine Option.not_isSome_iff_eq_none.1 fun matched => ?_
      exact refuses ⟨fileName, defaults, accepted, matched⟩
    rw [firstMatch_of_accepted _ _ _ accepted, Scraper.seen_of_accepted accepted, missed]
    simp only [map_pure, pure_bind]
    rfl
  · rw [firstMatch_cons, prepared_eq, Definition.scraper_eq,
      Preparation.settledBy_of_not_accepted accepted]
    exact if_neg Bool.false_ne_true

theorem firstMatch_append_of_refusing {ds : List Definition}
    (refuse : ∀ d ∈ ds, ¬d.Recognises c.defaults? location) :
    firstMatch options.silent location (ds.map (prepared c reader prompter) ++ others) =
      firstMatch options.silent location others := by
  induction ds with
  | nil => rfl
  | cons d ds ih =>
    obtain ⟨first, refuse⟩ := List.forall_mem_cons.1 refuse
    rw [List.map_cons, List.cons_append, firstMatch_of_not_recognises _ _ _ first, ih refuse]

/-- Of all scrapers of a catalog the one that is chosen is taken. -/
theorem firstMatch_of_chosen (named : c.Named) (chosen : c.Chosen location d)
    (accepted : d.Accepted c.defaults? fileName defaults)
    (matched : fileName.first? location = some seed) :
    firstMatch options.silent location (prepareAll c reader prompter) =
      (fun found => .ok (itemFrom d options.silent defaults { location } found)) <$>
        (d.scraper reader c.defaults?).evaluate options.silent seed := by
  obtain ⟨before, after, parts, refuse⟩ := chosen.split named
  rw [prepareAll, parts, List.map_append, List.map_cons, firstMatch_append_of_refusing _ _ _ refuse,
    firstMatch_of_matched _ _ _ accepted matched]

theorem firstMatch_of_refuses (refuses : c.Refuses location) :
    firstMatch options.silent location (prepareAll c reader prompter) =
      pure (.error (.noMatch location)) := by
  rw [prepareAll, ← List.append_nil (c.definitions.map _),
    firstMatch_append_of_refusing _ _ _ refuses]
  rfl

/-- Catalogs that choose the same scraper come to the same. -/
theorem firstMatch_sameChoice {c' : Catalog} (named : c.Named) (named' : c'.Named)
    (same : Catalog.SameChoice location c c') :
    firstMatch options.silent location (prepareAll c reader prompter) =
      firstMatch options.silent location (prepareAll c' reader prompter) := by
  have known : c'.defaults? = c.defaults? := Catalog.defaults?_congr same.types
  cases same.choice with
  | inl both =>
    obtain ⟨d, chosen, chosen'⟩ := both
    obtain ⟨fileName, defaults, accepted, matched⟩ := chosen.recognises
    obtain ⟨seed, matched⟩ := Option.isSome_iff_exists.1 matched
    rw [firstMatch_of_chosen _ _ named chosen accepted matched,
      firstMatch_of_chosen _ _ named' chosen' (known ▸ accepted) matched, known]
  | inr neither =>
    rw [firstMatch_of_refuses _ _ neither.1, firstMatch_of_refuses _ _ neither.2]

/-- Where the settings do not ask, a command that does not either asks nobody. -/
theorem optionsOf_silent {settings : Settings} (silent : settings.askUser = false)
    (location : String) (importing : Bool) :
    (optionsOf settings { location, importing } none).silent =
      optionsOf settings { location, importing } none := by
  simp only [ScrapeOptions.silent, optionsOf, baseOptions, silent, Bool.or_self]

/-- Without a name or a parent that is given, all scrapers are tried for the location. -/
theorem scrapeItem_of_location (settings : Settings) (importing : Bool)
    (scrapers : List (Scraper m)) :
    scrapeItem settings { location, importing } scrapers =
      firstMatch (optionsOf settings { location, importing } none) location scrapers := by
  simp only [scrapeItem, select, parentOf, pure_bind]

end Command

end Alone

/-- What becomes of a scraped item, or of the error that there is instead, with the number that the
program ends with. -/
def Command.conclude {m : Type → Type} [Monad m] (console : Console m) :
    Except CommandError ScrapedItem → m Nat
  | .ok item => do
      console.print (Json.writeIndented item.record.toTree ++ "\n")
      console.note (String.join (item.report.warnings.map warningLine))
      pure (exitCode item.report.outcome).number
  | .error e => do
      console.note e.text
      pure ExitCode.failure.number

theorem Command.number_scrapeAndShow {m : Type → Type} [Monad m] [LawfulMonad m]
    (console : Console m) (settings : Settings) (location : String) (importing : Bool)
    (scrapers : List (Scraper m)) :
    ExitCode.number <$> (scrapeAndShow console settings { location, importing } scrapers >>=
        CommandLine.finish console) =
      firstMatch (optionsOf settings { location, importing } none) location scrapers >>=
        conclude console := by
  rw [scrapeAndShow, scrapeItem_of_location, map_eq_pure_bind, bind_assoc, bind_assoc]
  refine bind_congr fun tried => ?_
  cases tried with
  | ok item =>
    simp only [showItem, CommandLine.finish, conclude, map_eq_pure_bind, bind_assoc, pure_bind]
  | error e => simp only [CommandLine.finish, conclude, bind_assoc, pure_bind]

variable {σ : Type}

theorem run_run_map {L α β : Type} (f : α → β) (x : StateT L (StateM σ) α) (l : L) (w : σ) :
    ((f <$> x).run l).run w =
      ((f ((x.run l).run w).1.1, ((x.run l).run w).1.2), ((x.run l).run w).2) := rfl

/-- A scraper by itself leaves the screen as it is. -/
theorem Scraper.run_evaluate_alone {reader : Reader (StateT Screen (StateM σ))}
    (apart : ∀ reference, showing.Related (reader.read reference) (reader.read reference))
    {d : Definition} {c : Catalog} {fileName : Regex} {defaults : Details}
    (accepted : d.Accepted c.defaults? fileName defaults) {location : String} {seed : Captures}
    (matched : fileName.first? location = some seed) (options : ScrapeOptions) (screen : Screen)
    (w : σ) :
    ∃ found w', (((d.scraper reader c.defaults?).evaluate options.silent seed).run screen).run w =
      ((found, screen), w') := by
  have neutral : (d.scraper reader c.defaults?).Neutral showing := by
    rw [Definition.scraper_eq]
    exact ⟨apart, fun prompter there => nomatch there⟩
  obtain ⟨answer, events, w', -, silent⟩ := neutral.seen options { location } w
  have seen := silent screen
  rw [seen_of_matched accepted matched, Screen.foldl_still, run_run_map] at seen
  obtain ⟨shown, outside⟩ := Prod.mk.inj seen
  exact ⟨_, w', Prod.ext (Prod.ext rfl (Prod.mk.inj shown).2) outside⟩

section Leaves

variable {store : FileStore (StateM σ)} {environment : Environment} {web : Reader (StateM σ)}
  {readLine : StateT Screen (StateM σ) (List UInt8)} {settings : Settings} {catalog : Catalog}
  (location : String) (importing : Bool) (w : σ)

namespace Command

theorem leaves_of_error {e : LoadError}
    (failed : Reader.ofSettings store.behind web.behind settings = .error e) :
    leaves (.attended store environment web readLine) settings catalog { location, importing } w =
      ((1, .ofError (.unloadable e)), w) := by
  have none : scrapersOf (.attended store environment web readLine) settings catalog =
      .error (.unloadable e) := by
    simp only [scrapersOf, Surroundings.attended, Surroundings.unattended, failed]
  simp only [leaves, Screen.after, perform, none]
  rfl

variable {reader : Reader (StateT Screen (StateM σ))}
  (built : Reader.ofSettings store.behind web.behind settings = .ok reader)

include built

theorem leaves_of_ok :
    leaves (.attended store environment web readLine) settings catalog { location, importing } w =
      ((firstMatch (optionsOf settings { location, importing } none) location
          (prepareAll catalog reader (.terminal { Console.unattended with readLine })) >>=
        conclude { Console.unattended with readLine }).run {}).run w := by
  have scrapers : scrapersOf (.attended store environment web readLine) settings catalog =
      .ok (prepareAll catalog reader (.terminal { Console.unattended with readLine })) := by
    simp only [scrapersOf, Surroundings.attended, Surroundings.unattended, built]
  rw [leaves, Screen.after, ← number_scrapeAndShow]
  simp only [perform, scrapers]
  rfl

variable (silent : settings.askUser = false)

include silent

theorem leaves_of_refuses (refuses : catalog.Refuses location) :
    leaves (.attended store environment web readLine) settings catalog { location, importing } w =
      ((1, .ofError (.noMatch location)), w) := by
  rw [leaves_of_ok _ _ _ built, ← optionsOf_silent silent, firstMatch_of_refuses _ _ refuses]
  rfl

theorem leaves_of_chosen (named : catalog.Named) {d : Definition}
    (chosen : catalog.Chosen location d) :
    let options := optionsOf settings { location, importing } none
    ∃ report record lines ended w',
      (((d.scraper reader catalog.defaults?).seen options { location }).run {}).run w =
          (((.ok report, record), {}), w') ∧
        leaves (.attended store environment web readLine) settings catalog { location, importing } w =
          (ended, w') ∧
        Shows record report lines ended := by
  intro options
  have same : options.silent = options := optionsOf_silent silent location importing
  obtain ⟨fileName, defaults, accepted, matched⟩ := chosen.recognises
  obtain ⟨seed, matched⟩ := Option.isSome_iff_exists.1 matched
  obtain ⟨found, w', evaluated⟩ := Scraper.run_evaluate_alone (Reader.ofSettings_apart built)
    accepted matched options {} w
  rw [same] at evaluated
  have taken : firstMatch options.silent location
      (prepareAll catalog reader (.terminal { Console.unattended with readLine })) = _ :=
    firstMatch_of_chosen options _ named chosen accepted matched
  rw [same] at taken
  let item := Scraper.itemFrom d options defaults { location } found
  have accounts : item.report.Accounts found :=
    Scraper.itemFrom_accounts d options defaults { location } found
  obtain ⟨lines, shows⟩ := accounts.shows item.record
  refine ⟨item.report, item.record, lines, _, w', ?_, ?_, shows⟩
  · rw [Scraper.seen_of_matched accepted matched, run_run_map, evaluated]
    rfl
  · rw [leaves_of_ok _ _ _ built, taken, run_run_bind, run_run_map, evaluated]
    rfl

end Command

/-- Catalogs that choose the same scraper leave the same. -/
theorem Command.leaves_sameChoice {catalog' : Catalog} (silent : settings.askUser = false)
    (named : catalog.Named) (named' : catalog'.Named)
    (same : Catalog.SameChoice location catalog catalog') :
    leaves (.attended store environment web readLine) settings catalog' { location, importing } w =
      leaves (.attended store environment web readLine) settings catalog { location, importing }
        w := by
  cases built : Reader.ofSettings store.behind web.behind settings with
  | error e => rw [leaves_of_error _ _ _ built, leaves_of_error _ _ _ built]
  | ok reader =>
    rw [leaves_of_ok _ _ _ built, leaves_of_ok _ _ _ built, ← optionsOf_silent silent,
      firstMatch_sameChoice _ _ named named' same]

end Leaves

/-- Albums whose tracks have a picture each, listed beside what is none. -/
def picturedAlbums : Definition :=
  { albums with
    procedures := [
      .node "$0.txt" "Track: ([a-z]+)" true false true
        [⟨.icon, .array [.string "$1.png", .boolean true]⟩, ⟨.name, .string "$1"⟩] [],
      .node "$0.nfo" "Lyrics" false false false [] []] }

/-- A catalog of albums only. -/
def albumCatalog : Catalog where
  types := Dict.empty.insert "album" albumDetails
  scrapers := Dict.empty.insert "albums" picturedAlbums

/-- Zines are recognised like albums, and come after them. -/
def zines : Definition := { picturedAlbums with name := "zines" }

/-- The tracks of one album, and directories without any documents. -/
def albumStore : FileStore (StateM Unit) where
  read path := pure (if path = "one.txt" then .ok (Text.bytes "Track: dawn") else .error .missing)
  isFile path := pure (path = "one.txt")
  isDirectory path := pure (path = "types" ∨ path = "scrapers")
  names? _ := pure (some [])

theorem albumCatalog_built : albumCatalog.Built := by
  have typed : Catalog.addType {} ⟨"album", albumDetails⟩ =
      .ok { types := Dict.empty.insert "album" albumDetails } := rfl
  have listed : Catalog.addScraper { types := Dict.empty.insert "album" albumDetails }
      picturedAlbums = .ok albumCatalog := rfl
  exact .addScraper (.addType .empty typed) listed

/-- Directories without documents come to a catalog without scrapers. -/
theorem load_albumStore (types scrapers : String) :
    Catalog.load albumStore.behind types scrapers = pure (.ok {}) := by
  have listed (directory : String) : Document.list albumStore.behind directory = pure (.ok []) := by
    have sorted : Document.list albumStore.behind directory =
        pure (.ok ([].mergeSort fun a b => !Path.less b a)) := rfl
    rw [sorted, List.mergeSort_nil]
  simp only [Catalog.load, Catalog.addFrom, listed, pure_bind, Catalog.addAll]

/-- What is put out of an album with one track and without lyrics. -/
def albumScreen : Screen where
  printed := [
    "\x7b\n  \"location\": \"one\",\n  \"name\": \"dawn\",\n" ++
    "  \"details\": \x7b\n    \"tracks\": []\n  \x7d,\n  \"icons\": [\n    \x7b\n" ++
    "      \"reference\": \"dawn.png\",\n      \"import\": true\n    \x7d\n  ],\n" ++
    "  \"fanart\": []\n\x7d\n"]
  noted := [
    "warning: cannot set icon: expected string, found boolean\n" ++
    "failed: could not read one.nfo: source not found: one.nfo\n"]

end Gleaner
