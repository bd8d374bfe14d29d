import Gleaner.Proofs.Calls
import Gleaner.Proofs.World

set_option autoImplicit false

/-!
Scraping where nothing is known of the outside: the reader and the operator are any programs with
a state of their own, so that a text may change from one read to the next. What is asked of them
is logged.
-/
namespace Gleaner

variable {σ : Type}

/-- Programs with an outside in a state of its own, beside a log of what is asked of it. -/
abbrev Logged (σ : Type) := StateT (List Event) (StateM σ)

/-- Logs each read. -/
def Reader.logged (reader : Reader (StateM σ)) : Reader (Logged σ) where
  name := reader.name
  read reference := do
    modify fun events => events ++ [.read reference]
    StateT.lift (reader.read reference)

/-- Logs each request. -/
def Prompter.logged (prompter : Prompter (StateM σ)) : Prompter (Logged σ) where
  choose request := do
    modify fun events => events ++ [.asked request]
    StateT.lift (prompter.choose request)

/-- What is seen of scraping an item. -/
structure Observation (σ : Type) where
  answer : Except EngineError Report
  record : Record
  /-- What was asked of the outside, in order. -/
  events : List Event
  /-- What the outside became. -/
  outside : σ

namespace Observation

def reads (o : Observation σ) : List String := Event.reads o.events

def requests (o : Observation σ) : List PromptRequest := Event.requests o.events

end Observation

namespace Scraper

/-- A scraper that logs what it asks, and is not prepared yet. -/
def logging (definition : Definition) (reader : Reader (StateM σ))
    (prompter : Option (Prompter (StateM σ))) : Scraper (Logged σ) where
  definition
  reader := reader.logged
  prompter := prompter.map Prompter.logged

/-- Scrapes an item when the outside is in the state `w`. -/
def observe (s : Scraper (Logged σ)) (options : ScrapeOptions) (record : Record) (w : σ) :
    Observation σ :=
  let ran := ((s.seen options record).run []).run w
  ⟨ran.1.1.1, ran.1.1.2, ran.1.2, ran.2⟩

end Scraper

end Gleaner
