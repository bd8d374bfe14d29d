import Gleaner.Text.Quoted

set_option autoImplicit false

/-! What can go wrong when settings and documents are loaded. -/
namespace Gleaner

inductive LoadErrorKind where
  | invalidConfig
  | invalidDocument
  | directory
  | reader
  deriving DecidableEq

def LoadErrorKind.message (kind : LoadErrorKind) (detail : String) : String :=
  match kind with
  | .invalidConfig => "invalid configuration: " ++ detail
  | .invalidDocument => "invalid document: " ++ detail
  | .directory => "could not read directory: " ++ detail
  | .reader => "could not build source reader"

/-- Trying again may help. -/
def LoadErrorKind.isRetryable : LoadErrorKind → Bool
  | .directory => true
  | _ => false

inductive LoadError where
  /-- The settings file is not a file. -/
  | notAFile (path : String)
  /-- The settings file has no known format. -/
  | settingsFormat (path : String)
  /-- The settings of all layers together are not readable. -/
  | unreadableSettings
  | zeroTimeout
  /-- A setting that is to name a directory does not. -/
  | notADirectory (key path : String)
  /-- A document has no known format. -/
  | documentFormat (path : String)
  /-- A document is missing, malformed or of the wrong shape. -/
  | documentContent (path : String)
  | duplicateType (name : String)
  | duplicateScraper (name : String)
  /-- A directory cannot be listed. -/
  | directory (path : String)
  /-- No reader can be built from the settings. -/
  | reader
  deriving DecidableEq

namespace LoadError

def kind : LoadError → LoadErrorKind
  | .notAFile _ => .invalidConfig
  | .settingsFormat _ => .invalidConfig
  | .unreadableSettings => .invalidConfig
  | .zeroTimeout => .invalidConfig
  | .notADirectory _ _ => .invalidConfig
  | .documentFormat _ => .invalidDocument
  | .documentContent _ => .invalidDocument
  | .duplicateType _ => .invalidDocument
  | .duplicateScraper _ => .invalidDocument
  | .directory _ => .directory
  | .reader => .reader

def detail : LoadError → String
  | .notAFile path => path ++ " is not a file"
  | .settingsFormat path => path ++ " has an unsupported extension"
  | .unreadableSettings => "could not extract settings"
  | .zeroTimeout => "http.timeout_seconds must be greater than zero"
  | .notADirectory key path => key ++ ": " ++ path ++ " is not a directory"
  | .documentFormat path => path ++ ": unsupported extension"
  | .documentContent path => path
  | .duplicateType name => "duplicate media type " ++ Text.quoted name
  | .duplicateScraper name => "duplicate scraper " ++ Text.quoted name
  | .directory path => path
  | .reader => ""

def message (e : LoadError) : String :=
  e.kind.message e.detail

end LoadError

end Gleaner
