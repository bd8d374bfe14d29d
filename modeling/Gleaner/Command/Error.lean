import Gleaner.LoadError
import Gleaner.Text.Parts

set_option autoImplicit false

/-! Why a command fails. -/
namespace Gleaner

inductive CommandError where
  /-- Settings, documents or the reader could not be had. -/
  | unloadable (cause : LoadError)
  | unknownScraper (name : String)
  /-- The scraper that is asked for cannot be used. -/
  | invalidScraper (name : String)
  /-- No scraper recognises a location. -/
  | noMatch (location : String)
  deriving DecidableEq

namespace CommandError

def message : CommandError → String
  | .unloadable _ => "could not load configuration"
  | .unknownScraper name => "unknown scraper: " ++ name
  | .invalidScraper name => "scraper " ++ name ++ " is invalid"
  | .noMatch location => "no scraper matches " ++ location

/-- The message of what caused the error, if anything did. -/
def cause? : CommandError → Option String
  | .unloadable cause => some cause.message
  | _ => none

/-- The first line of a text. -/
def firstLine (text : String) : String :=
  (Text.split (· == '\n') text).headD ""

/-- What an operator is told: the first line of the message, and of that of the cause. -/
def text (e : CommandError) : String :=
  String.join (("error: " ++ firstLine e.message ++ "\n") ::
    e.cause?.toList.map fun cause => firstLine cause ++ "\n")

end CommandError

end Gleaner
