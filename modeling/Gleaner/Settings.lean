import Gleaner.Files.Path
import Gleaner.Number.Power
import Gleaner.Tree.Parts

set_option autoImplicit false

/-! What a user may set. -/
namespace Gleaner

/-- How sources are fetched from the web. -/
structure WebSettings where
  /-- Web addresses may be fetched at all. -/
  enabled : Bool := true
  timeoutSeconds : Nat := 30
  userAgent : String := "sift/0.1.0-beta"
  deriving DecidableEq

structure Settings where
  /-- The directory of the scraper definitions. -/
  scrapers : String
  /-- The directory of the media types. -/
  types : String
  /-- The directory that relative local references start from. -/
  root : Option String := none
  importing : Bool := false
  askUser : Bool := false
  inherit : Bool := false
  web : WebSettings := {}
  deriving DecidableEq

/-- Reads a part of a structure; one that is not given has a default. -/
def Tree.partOr? {α : Type} (default : α) (decode? : Tree → Option α) : Option Tree → Option α
  | none => some default
  | some tree => decode? tree

namespace Settings

def text? : Tree → Option String
  | .text s => some s
  | _ => none

def flag? : Tree → Option Bool
  | .boolean b => some b
  | _ => none

/-- A text, or nothing. -/
def optionalText? : Tree → Option (Option String)
  | .null => some none
  | .text s => some (some s)
  | _ => none

/-- A whole number of 64 bits without a sign. -/
def count? : Tree → Option Nat
  | .integer n => if fitsUnsigned 64 n then some n.toNat else none
  | _ => none

def webKeys : List String := ["enabled", "timeout_seconds", "user_agent"]

def webOfParts? (defaults : WebSettings) : List (Option Tree) → Option WebSettings
  | [enabled, timeoutSeconds, userAgent] => do
      let enabled ← Tree.partOr? defaults.enabled flag? enabled
      let timeoutSeconds ← Tree.partOr? defaults.timeoutSeconds count? timeoutSeconds
      let userAgent ← Tree.partOr? defaults.userAgent text? userAgent
      some { enabled, timeoutSeconds, userAgent }
  | _ => none

def webOfTree? (surplus : Surplus) (defaults : WebSettings) (tree : Tree) : Option WebSettings := do
  webOfParts? defaults (← tree.parts? surplus webKeys)

/-- The keys of the settings, in the order in which a list gives their values. -/
def keys : List String :=
  ["scrapers", "types", "root", "import", "ask_user", "inherit", "http"]

def ofParts? (surplus : Surplus) (defaults : Settings) : List (Option Tree) → Option Settings
  | [scrapers, types, root, importing, askUser, inherit, web] => do
      let scrapers ← Tree.partOr? defaults.scrapers text? scrapers
      let types ← Tree.partOr? defaults.types text? types
      let root ← Tree.partOr? defaults.root optionalText? root
      let importing ← Tree.partOr? defaults.importing flag? importing
      let askUser ← Tree.partOr? defaults.askUser flag? askUser
      let inherit ← Tree.partOr? defaults.inherit flag? inherit
      let web ← Tree.partOr? defaults.web (webOfTree? surplus defaults.web) web
      some { scrapers, types, root, importing, askUser, inherit, web }
  | _ => none

/-- The settings that a document gives; what it does not give is as in the defaults. -/
def ofTree? (surplus : Surplus) (defaults : Settings) (tree : Tree) : Option Settings := do
  ofParts? surplus defaults (← tree.parts? surplus keys)

/-- The settings of a user who has set nothing, with the directory of settings, if there is one. -/
def standard (directory : Option String) : Settings :=
  let base := directory.getD ""
  { scrapers := Path.join base "scrapers", types := Path.join base "types" }

end Settings

end Gleaner
