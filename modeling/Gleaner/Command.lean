import Gleaner.Catalog
import Gleaner.Command.Error
import Gleaner.Command.Line
import Gleaner.Json.Writer
import Gleaner.Prompt.Terminal
import Gleaner.Scraper
import Gleaner.Settings.Load
import Gleaner.Source.Build

set_option autoImplicit false

/-! Running a command: checking the scrapers, listing them, or scraping an item with them. -/
namespace Gleaner

/-- How the program ends. -/
inductive ExitCode where
  | success
  | failure
  /-- An item was scraped in part. -/
  | incomplete
  /-- The command line was not understood. -/
  | misuse
  deriving DecidableEq

def ExitCode.number : ExitCode → Nat
  | .success => 0
  | .failure => 1
  | .incomplete => 2
  | .misuse => 2

/-- What the program works with. -/
structure Surroundings (m : Type → Type) where
  store : FileStore m
  environment : Environment
  console : Console m
  /-- Reads sources in the web. -/
  web : Reader m

namespace Command

variable {m : Type → Type} [Monad m]

/-- The scraper of a definition, prepared; it need not be valid. -/
def prepared (catalog : Catalog) (reader : Reader m) (prompter : Prompter m)
    (definition : Definition) : Scraper m :=
  let scraper : Scraper m := { definition, reader, prompter := some prompter }
  (scraper.prepare catalog.defaults?).2

/-- All scrapers of a catalog, in name order. -/
def prepareAll (catalog : Catalog) (reader : Reader m) (prompter : Prompter m) :
    List (Scraper m) :=
  catalog.definitions.map (prepared catalog reader prompter)

/-- The scrapers that a command works with. -/
def scrapersOf (s : Surroundings m) (settings : Settings) (catalog : Catalog) :
    Except CommandError (List (Scraper m)) :=
  match Reader.ofSettings s.store s.web settings with
  | .ok reader => .ok (prepareAll catalog reader (Prompter.terminal s.console))
  | .error e => .error (.unloadable e)

/-- The line on whether a scraper may be used. -/
def statusLine (scraper : Scraper m) : String :=
  let status := if scraper.isValid then "ok      " else "invalid "
  status ++ scraper.definition.name ++ " (" ++ scraper.definition.targetType ++ ")\n"

/-- Tells of every scraper whether it may be used. -/
def showStatus (console : Console m) (scrapers : List (Scraper m)) : m ExitCode := do
  console.print (String.join (scrapers.map statusLine))
  pure (if scrapers.all Scraper.isValid then .success else .failure)

def listLine (d : Definition) : String :=
  d.name ++ "\t" ++ d.targetType ++ "\t" ++ d.fileName ++ "\n"

/-- Tells what scrapers there are. -/
def showCatalog (console : Console m) (catalog : Catalog) : m ExitCode := do
  console.print (String.join (catalog.definitions.map listLine))
  pure .success

/-- The scrapers to try: all, or the one that is asked for, which has to be a valid one. -/
def select (name : Option String) (scrapers : List (Scraper m)) :
    Except CommandError (List (Scraper m)) :=
  match name with
  | none => .ok scrapers
  | some name =>
      match scrapers.filter fun scraper => scraper.definition.name == name with
      | [] => .error (.unknownScraper name)
      | scraper :: others =>
          if scraper.isValid then .ok (scraper :: others) else .error (.invalidScraper name)

/-- Tries the valid scrapers one after the other, until one recognises the location. A scraper that
has been tried holds nothing of it. -/
def firstMatch (options : ScrapeOptions) (location : String) :
    List (Scraper m) → m (Except CommandError ScrapedItem)
  | [] => pure (.error (.noMatch location))
  | scraper :: scrapers =>
      if scraper.isValid then do
        let (answer, record, _) ← scraper.scrape options { location }
        match answer with
        | .ok report =>
            if report.isMatch then pure (.ok ⟨record, report⟩)
            else firstMatch options location scrapers
        | .error _ => firstMatch options location scrapers
      else firstMatch options location scrapers

/-- The record of the item that contains the one to scrape, if there is such. -/
def parentOf (options : ScrapeOptions) (scrapers : List (Scraper m)) :
    Option String → m (Except CommandError (Option Record))
  | none => pure (.ok none)
  | some location => do
      match ← firstMatch options location scrapers with
      | .ok item => pure (.ok (some item.record))
      | .error e => pure (.error e)

/-- The options of a scrape whose item is in no other one. -/
def baseOptions (settings : Settings) (what : ScrapeCommand) : ScrapeOptions :=
  { askUser := what.askUser || settings.askUser, importing := what.importing || settings.importing }

/-- The options of a scrape. A parent is inherited from, whatever the settings say. -/
def optionsOf (settings : Settings) (what : ScrapeCommand) (parent : Option Record) :
    ScrapeOptions :=
  { baseOptions settings what with inherit := settings.inherit || parent.isSome, parent }

/-- The line of a warning; failed procedures are told from the rest. -/
def warningLine (w : Warning) : String :=
  (if w.isFailure then "failed: " else "warning: ") ++ w.message ++ "\n"

def exitCode : Outcome → ExitCode
  | .complete => .success
  | .incomplete => .incomplete
  | .mismatch => .failure

def showItem (console : Console m) (item : ScrapedItem) : m ExitCode := do
  console.print (Json.writeIndented item.record.toTree ++ "\n")
  console.note (String.join (item.report.warnings.map warningLine))
  pure (exitCode item.report.outcome)

/-- Scrapes the item that contains the one to scrape, and then that one. -/
def scrapeItem (settings : Settings) (what : ScrapeCommand) (scrapers : List (Scraper m)) :
    m (Except CommandError ScrapedItem) := do
  match select what.scraper scrapers with
  | .error e => pure (.error e)
  | .ok scrapers => do
      match ← parentOf (baseOptions settings what) scrapers what.parent with
      | .error e => pure (.error e)
      | .ok parent => firstMatch (optionsOf settings what parent) what.location scrapers

/-- Scrapes an item and shows what became of it. -/
def scrapeAndShow (console : Console m) (settings : Settings) (what : ScrapeCommand)
    (scrapers : List (Scraper m)) : m (Except CommandError ExitCode) := do
  match ← scrapeItem settings what scrapers with
  | .ok item => .ok <$> showItem console item
  | .error e => pure (.error e)

/-- Runs a command with settings and a catalog. -/
def perform (s : Surroundings m) (settings : Settings) (catalog : Catalog) (command : Command) :
    m (Except CommandError ExitCode) :=
  match command with
  | .list => .ok <$> showCatalog s.console catalog
  | .check =>
      match scrapersOf s settings catalog with
      | .ok scrapers => .ok <$> showStatus s.console scrapers
      | .error e => pure (.error e)
  | .scrape what =>
      match scrapersOf s settings catalog with
      | .ok scrapers => scrapeAndShow s.console settings what scrapers
      | .error e => pure (.error e)

/-- Loads settings and catalog, and runs a command. -/
def run (s : Surroundings m) (explicit : Option String) (command : Command) :
    m (Except CommandError ExitCode) := do
  match ← Settings.load s.store s.environment explicit with
  | .error e => pure (.error (.unloadable e))
  | .ok settings => do
      match ← Catalog.load s.store settings.types settings.scrapers with
      | .error e => pure (.error (.unloadable e))
      | .ok catalog => perform s settings catalog command

end Command

namespace CommandLine

variable {m : Type → Type} [Monad m]

def versionLine : String := "sift 0.1.0-beta\n"

def usageText : String :=
  "usage: sift [-c FILE] [-v] check\n" ++
  "       sift [-c FILE] [-v] list\n" ++
  "       sift [-c FILE] [-v] scrape LOCATION [--scraper NAME] [--import] [--ask-user]\n" ++
  "                                           [--parent LOCATION]\n"

/-- Does what a command line asks for. -/
def perform (s : Surroundings m) : CommandLine → m ExitCode
  | .version => do
      s.console.print versionLine
      pure .success
  | .help => do
      s.console.print usageText
      pure .success
  | .misuse => do
      s.console.note usageText
      pure .misuse
  | .run settings command => do
      match ← command.run s settings with
      | .ok code => pure code
      | .error e => do
          s.console.note e.text
          pure .failure

end CommandLine

end Gleaner
