import Gleaner.Scraper

set_option autoImplicit false

/-!
A world to scrape in: texts that stay what they are, an operator, and a log of what was asked of
either. The operator is any function of the requests made so far, so that no answers are excluded.
-/
namespace Gleaner

/-- What a scrape asks of the outside. -/
inductive Event where
  | read (reference : String)
  | asked (request : PromptRequest)

namespace Event

def reference? : Event → Option String
  | .read reference => some reference
  | .asked _ => none

def request? : Event → Option PromptRequest
  | .read _ => none
  | .asked request => some request

/-- The references that were read, in order. -/
def reads (events : List Event) : List String :=
  events.filterMap reference?

/-- The requests that were made, in order. -/
def requests (events : List Event) : List PromptRequest :=
  events.filterMap request?

@[simp] theorem reads_nil : reads [] = [] := rfl

@[simp] theorem requests_nil : requests [] = [] := rfl

@[simp] theorem reads_read (reference : String) : reads [.read reference] = [reference] := rfl

@[simp] theorem requests_read (reference : String) : requests [.read reference] = [] := rfl

@[simp] theorem reads_asked (request : PromptRequest) : reads [.asked request] = [] := rfl

@[simp] theorem requests_asked (request : PromptRequest) :
    requests [.asked request] = [request] := rfl

@[simp] theorem reads_append (first second : List Event) :
    reads (first ++ second) = reads first ++ reads second :=
  List.filterMap_append

@[simp] theorem requests_append (first second : List Event) :
    requests (first ++ second) = requests first ++ requests second :=
  List.filterMap_append

end Event

structure World where
  /-- The text behind a reference, or why it cannot be read. -/
  files : String → Except SourceError String
  /-- The answer to the last of the requests made so far. -/
  operator : List PromptRequest → Option (List Captures)
  events : List Event := []

namespace World

def reads (w : World) : List String := Event.reads w.events

def requests (w : World) : List PromptRequest := Event.requests w.events

/-- The world after more was asked of it. -/
def logged (w : World) (new : List Event) : World :=
  { w with events := w.events ++ new }

/-- Reads the texts of the world. -/
def reader : Reader (StateM World) where
  name := "world"
  read reference w := (w.files reference, w.logged [.read reference])

/-- Asks the operator of the world. -/
def prompter : Prompter (StateM World) where
  choose request w := (w.operator (w.requests ++ [request]), w.logged [.asked request])

/-- A scraper for the world that is not prepared yet. -/
def scraper (definition : Definition) (prompted : Bool) : Scraper (StateM World) where
  definition
  reader := World.reader
  prompter := if prompted then some World.prompter else none

@[simp] theorem reads_logged (w : World) (new : List Event) :
    (w.logged new).reads = w.reads ++ Event.reads new :=
  Event.reads_append w.events new

@[simp] theorem requests_logged (w : World) (new : List Event) :
    (w.logged new).requests = w.requests ++ Event.requests new :=
  Event.requests_append w.events new

@[simp] theorem logged_nil (w : World) : w.logged [] = w := by
  simp only [logged, List.append_nil]

theorem logged_logged (w : World) (first second : List Event) :
    (w.logged first).logged second = w.logged (first ++ second) := by
  simp only [logged, List.append_assoc]

end World

/-- Lists of tracks with a cover; the lyrics are never there. -/
def shelf : World where
  files reference :=
    if reference = "one.txt" then .ok "Track: dawn, Track: dusk, Cover: sky"
    else if reference = "two.txt" then .ok "Track: rain"
    else .error ⟨.notFound, reference⟩
  operator _ := none

/-- Albums with their tracks, each with an icon, and their lyrics. -/
def albums : Definition where
  name := "albums"
  targetType := "album"
  fileName := "[a-z]+"
  procedures := [
    .node "$0.txt" "Track: ([a-z]+)" true false true
      [⟨.name, .string "$1"⟩, ⟨.detail "tracks", .string "$1"⟩, ⟨.icon, .string "$1.png"⟩] [],
    .node "$0.nfo" "Lyrics" false false false [] []]

/-- Albums that share a location; of the tracks of each the operator may choose one. -/
def choosyAlbums : Definition where
  name := albums.name
  targetType := albums.targetType
  fileName := albums.fileName
  multipleItems := true
  procedures := [.node "$0.txt" "Track: ([a-z]+)" false true false [⟨.name, .string "$1"⟩] []]

/-- An album has a list of tracks. -/
def albumDetails : Details :=
  Dict.empty.insert "tracks" (.array [])

def albumTypes (name : String) : Option Details :=
  if name = "album" then some albumDetails else none

def albumName : Regex :=
  (Regex.compile? albums.fileName).get (by decide +kernel)

/-- The scraper of albums as it is when it was prepared. -/
def readyAlbums : Scraper (StateM World) :=
  { World.scraper albums true with preparation := .ready albumName albumDetails }

end Gleaner
