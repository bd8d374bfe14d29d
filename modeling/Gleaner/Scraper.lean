import Gleaner.Definition.Validation
import Gleaner.Procedure.Walk

set_option autoImplicit false

/-!
Scrapers: a definition bound to a reader. A scraper is prepared once, and the outcome of that is
final; after it, items are scraped one at a time, each with a cache of its own.
-/
namespace Gleaner

/-- Whether a scraper may be used. -/
inductive Preparation where
  | pending
  | refused
  | ready (fileName : Regex) (defaults : Details)

/-- What the caller wants of one scrape. -/
structure ScrapeOptions where
  /-- Lets the operator choose, where there is a choice. -/
  askUser : Bool := false
  /-- Imports images instead of linking them. -/
  importing : Bool := false
  /-- Copies the inherited details from the parent. -/
  inherit : Bool := false
  /-- The record of the item that contains this one. -/
  parent : Option Record := none

structure Scraper (m : Type → Type) where
  definition : Definition
  reader : Reader m
  prompter : Option (Prompter m) := none
  preparation : Preparation := .pending
  cache : SourceCache := {}

/-- A record, and how filling it in went. -/
structure ScrapedItem where
  record : Record
  report : Report

namespace Scraper

variable {m : Type → Type} [Monad m]

def isValid (s : Scraper m) : Bool :=
  match s.preparation with
  | .ready _ _ => true
  | _ => false

/-- How many sources are held for the last item. -/
def cachedSources (s : Scraper m) : Nat := s.cache.size

/-- Lets go of the sources of the last item. -/
def deactivate (s : Scraper m) : Scraper m :=
  { s with cache := s.cache.clear }

/-- The name pattern and defaults of a definition whose media type is known. -/
def examine (definition : Definition) (defaultsOf : String → Option Details) :
    Except EngineError (Regex × Details) := do
  let fileName ← definition.validate
  match defaultsOf definition.targetType with
  | some defaults => .ok (fileName, defaults)
  | none => .error (.unknownType definition.targetType)

/-- Checks the definition and looks up the defaults of its media type. Only the first call does
so: what it found holds from then on. -/
def prepare (s : Scraper m) (defaultsOf : String → Option Details) :
    Except EngineError Unit × Scraper m :=
  match s.preparation with
  | .ready _ _ => (.ok (), s)
  | .refused => (.error (.failedValidation s.definition.name), s)
  | .pending =>
      match examine s.definition defaultsOf with
      | .ok (fileName, defaults) => (.ok (), { s with preparation := .ready fileName defaults })
      | .error e => (.error e, { s with preparation := .refused })

/-- The name pattern and defaults of a scraper that is ready. -/
def ready (s : Scraper m) : Except EngineError (Regex × Details) :=
  match s.preparation with
  | .ready fileName defaults => .ok (fileName, defaults)
  | .pending => .error (.notPrepared s.definition.name)
  | .refused => .error (.failedValidation s.definition.name)

/-- What the name pattern captures in a location, once for each item there. -/
def seeds (definition : Definition) (fileName : Regex) (location : String) : List Captures :=
  if definition.multipleItems then fileName.all location else (fileName.first? location).toList

/-- The seed of a single item: the first, unless an operator picks another. -/
def chooseSeed (s : Scraper m) (options : ScrapeOptions) (location : String)
    (candidates : List Captures) : m (Option Captures) :=
  match if options.askUser ∧ 1 < candidates.length then s.prompter else none with
  | none => pure candidates.head?
  | some prompter => do
      let answer ← prompter.choose
        ⟨s.definition.name, location, s.definition.fileName, candidates, false⟩
      pure (answer.getD candidates).head?

/-- What is inherited in a scrape, if anything is. -/
def inheritance (definition : Definition) (options : ScrapeOptions) : Option Inheritance :=
  if options.inherit && !definition.inherited.isEmpty then
    options.parent.map fun parent => ⟨definition.inherited, parent.details⟩
  else none

def writePolicy (definition : Definition) (options : ScrapeOptions) : WritePolicy :=
  ⟨options.importing, inheritance definition options⟩

/-- The access of a scrape; the operator is asked only if the options say so. -/
def access (s : Scraper m) (options : ScrapeOptions) : Access (StateT SourceCache m) :=
  Access.cached s.definition.name s.reader (if options.askUser then s.prompter else none)

/-- The report and the record that a walk leads to. -/
def itemOf (definition : Definition) (options : ScrapeOptions) (record : Record) (walk : Walk) :
    ScrapedItem :=
  let written := Step.writeAll (writePolicy definition options) walk.steps record
  ⟨written.1, Report.ofRun walk.succeeded written.2⟩

/-- Runs the rules for one item, with an empty cache. -/
def execute (s : Scraper m) (options : ScrapeOptions) (seed : Captures) (record : Record) :
    m (ScrapedItem × Scraper m) := do
  let (walk, cache) ← (Procedure.walkAll (s.access options) seed s.definition.procedures).run {}
  pure (itemOf s.definition options record walk, { s with cache })

/-- Scrapes one item. A record whose location does not match keeps the location alone and gets its
type's defaults; that is no error. -/
def scrape (s : Scraper m) (options : ScrapeOptions) (record : Record) :
    m (Except EngineError Report × Record × Scraper m) := do
  match s.ready with
  | .error e => pure (.error e, record, s)
  | .ok (fileName, defaults) => do
      let record := record.reset defaults
      let seed ← s.chooseSeed options record.location
        (seeds s.definition fileName record.location)
      match seed with
      | none => pure (.ok Report.mismatch, record, s)
      | some seed => do
          let (item, s) ← s.execute options seed record
          pure (.ok item.report, item.record, s)

/-- Scrapes items one after the other, each from a seed of its own. -/
def executeEach (options : ScrapeOptions) (defaults : Details) (create : Captures → Record) :
    List Captures → Scraper m → m (List ScrapedItem × Scraper m)
  | [], s => pure ([], s)
  | seed :: seeds, s => do
      let (item, s) ← s.execute options seed ((create seed).reset defaults)
      let (items, s) ← executeEach options defaults create seeds s
      pure (item :: items, s)

/-- Scrapes every item of a location; `create` makes the record of an item from its seed. -/
def scrapeEach (s : Scraper m) (options : ScrapeOptions) (location : String)
    (create : Captures → Record) : m (Except EngineError (List ScrapedItem) × Scraper m) := do
  match s.ready with
  | .error e => pure (.error e, s)
  | .ok (fileName, defaults) => do
      let (items, s) ← executeEach options defaults create (seeds s.definition fileName location) s
      pure (.ok items, s)

end Scraper

end Gleaner
