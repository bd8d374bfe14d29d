import Gleaner.Value

set_option autoImplicit false

/-! The record that a scrape fills in. -/
namespace Gleaner

/-- Values by key. -/
abbrev Details := Dict Value

/-- A reference to an image; `importing` asks for a copy instead of a link. -/
structure Image where
  reference : String
  importing : Bool
  deriving DecidableEq

/-- What is known about one media item. -/
structure Record where
  location : String
  name : Option String := none
  description : Option String := none
  details : Details := Dict.empty
  icons : List Image := []
  fanart : List Image := []

namespace Record

/-- The record of a location, with a media type's defaults and nothing else. -/
def fresh (location : String) (defaults : Details) : Record :=
  { location, details := defaults }

/-- Forgets everything but the location. -/
def reset (r : Record) (defaults : Details) : Record :=
  fresh r.location defaults

def setDetail (r : Record) (key : String) (value : Value) : Record :=
  { r with details := r.details.insert key value }

def detail? (r : Record) (key : String) : Option Value :=
  r.details.find? key

def addIcon (r : Record) (image : Image) : Record :=
  { r with icons := r.icons ++ [image] }

def addFanart (r : Record) (image : Image) : Record :=
  { r with fanart := r.fanart ++ [image] }

def imageTree (image : Image) : Tree :=
  .table [("reference", .text image.reference), ("import", .boolean image.importing)]

def optionalText (key : String) : Option String → List (String × Tree)
  | some s => [(key, .text s)]
  | none => []

/-- The document of a record; a name or description that is not set is left out. -/
def toTree (r : Record) : Tree :=
  .table
    ([("location", .text r.location)] ++ optionalText "name" r.name ++
      optionalText "description" r.description ++
      [("details", .table (Value.toEntries r.details.entries)),
        ("icons", .list (r.icons.map imageTree)),
        ("fanart", .list (r.fanart.map imageTree))])

end Record

end Gleaner
