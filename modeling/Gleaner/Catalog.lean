import Gleaner.Definition.Document
import Gleaner.Document
import Gleaner.MediaType

set_option autoImplicit false

/-! The media types and scraper definitions that there are to choose from, by name. -/
namespace Gleaner

structure Catalog where
  types : Dict Details := Dict.empty
  scrapers : Dict Definition := Dict.empty

namespace Catalog

/-- Adds a media type of a new name. -/
def addType (c : Catalog) (t : MediaType) : Except LoadError Catalog :=
  if c.types.contains t.name then .error (.duplicateType t.name)
  else .ok { c with types := c.types.insert t.name t.defaults }

/-- Adds a scraper of a new name. Its definition need not be a valid one. -/
def addScraper (c : Catalog) (d : Definition) : Except LoadError Catalog :=
  if c.scrapers.contains d.name then .error (.duplicateScraper d.name)
  else .ok { c with scrapers := c.scrapers.insert d.name d }

def scraper? (c : Catalog) (name : String) : Option Definition :=
  c.scrapers.find? name

/-- The defaults of a media type. -/
def defaults? (c : Catalog) (typeName : String) : Option Details :=
  c.types.find? typeName

/-- All definitions, in name order. -/
def definitions (c : Catalog) : List Definition :=
  c.scrapers.values

def typeNames (c : Catalog) : List String :=
  c.types.keys

variable {m : Type → Type} [Monad m]

/-- Reads documents one after the other and adds what they describe. -/
def addAll {α : Type} (store : FileStore m) (decode? : Tree → Option α)
    (add : Catalog → α → Except LoadError Catalog) :
    List String → Catalog → m (Except LoadError Catalog)
  | [], c => pure (.ok c)
  | path :: paths, c => do
      match (← Document.load store decode? path).bind (add c) with
      | .ok c => addAll store decode? add paths c
      | .error e => pure (.error e)

/-- Adds what the documents in a directory describe. -/
def addFrom {α : Type} (store : FileStore m) (decode? : Tree → Option α)
    (add : Catalog → α → Except LoadError Catalog) (directory : String) (c : Catalog) :
    m (Except LoadError Catalog) := do
  match ← Document.list store directory with
  | .ok paths => addAll store decode? add paths c
  | .error e => pure (.error e)

/-- Reads the documents of two directories, the media types first. -/
def load (store : FileStore m) (types scrapers : String) : m (Except LoadError Catalog) := do
  match ← addFrom store (MediaType.ofTree? .ignored) addType types {} with
  | .ok c => addFrom store (Definition.ofTree? .ignored) addScraper scrapers c
  | .error e => pure (.error e)

end Catalog

end Gleaner
