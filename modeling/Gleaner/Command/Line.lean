set_option autoImplicit false

/-!
The command line. Options may stand before the command or after it; an option with a value takes it
from the same argument or from the next one, and two dashes end all options.
-/
namespace Gleaner

/-- What to scrape, and how. -/
structure ScrapeCommand where
  location : String
  /-- Only this scraper is tried. -/
  scraper : Option String := none
  importing : Bool := false
  askUser : Bool := false
  /-- The location of the item that contains this one, which is scraped first. -/
  parent : Option String := none
  deriving DecidableEq

inductive Command where
  | check
  | list
  | scrape (what : ScrapeCommand)
  deriving DecidableEq

/-- What a command line asks for. -/
inductive CommandLine where
  | run (settings : Option String) (command : Command)
  | version
  | help
  /-- The command line is not understood. -/
  | misuse
  deriving DecidableEq

namespace CommandLine

/-- An option with a value. -/
inductive Slot where
  | settings
  | scraper
  | parent
  deriving DecidableEq

/-- What a name after dashes stands for. -/
inductive Switch where
  | takes (slot : Slot)
  | verbose
  | importing
  | askUser
  | version
  | help

/-- Where on the command line an argument stands. -/
inductive Stage where
  | start
  | check
  | list
  | scrape
  deriving DecidableEq

/-- The options with long names that are known at a stage. -/
def longSwitch? (stage : Stage) (name : String) : Option Switch :=
  match name with
  | "config" => some (.takes .settings)
  | "verbose" => some .verbose
  | "help" => some .help
  | "version" => if stage = .start then some .version else none
  | "scraper" => if stage = .scrape then some (.takes .scraper) else none
  | "parent" => if stage = .scrape then some (.takes .parent) else none
  | "import" => if stage = .scrape then some .importing else none
  | "ask-user" => if stage = .scrape then some .askUser else none
  | _ => none

/-- The options of one letter that are known at a stage. -/
def shortSwitch? (stage : Stage) : Char → Option Switch
  | 'c' => some (.takes .settings)
  | 'v' => some .verbose
  | 'h' => some .help
  | 'V' => if stage = .start then some .version else none
  | _ => none

/-- What has been read. -/
structure Draft where
  stage : Stage := .start
  settings : Option String := none
  /-- The settings that were named before the command. -/
  settingsBefore : Option String := none
  scraper : Option String := none
  parent : Option String := none
  importing : Bool := false
  askUser : Bool := false
  location : Option String := none
  deriving DecidableEq

/-- Why reading ends early. -/
inductive Stop where
  | version
  | help
  | misuse

def Stop.line : Stop → CommandLine
  | .version => .version
  | .help => .help
  | .misuse => .misuse

/-- Fills a place that is still free. -/
def fill (current : Option String) (value : String) : Except Stop (Option String) :=
  if current.isSome then .error .misuse else .ok (some value)

/-- Gives an option its value. The name of a file may not be empty. -/
def Draft.give (d : Draft) (value : String) : Slot → Except Stop Draft
  | .settings => do
      let settings ← fill d.settings value
      if value.isEmpty then .error .misuse else .ok { d with settings }
  | .scraper => do
      let scraper ← fill d.scraper value
      .ok { d with scraper }
  | .parent => do
      let parent ← fill d.parent value
      .ok { d with parent }

/-- Sets an option without a value, which may be set once. -/
def Draft.set (d : Draft) : Switch → Except Stop Draft
  | .takes _ => .error .misuse
  | .verbose => .ok d
  | .importing => if d.importing then .error .misuse else .ok { d with importing := true }
  | .askUser => if d.askUser then .error .misuse else .ok { d with askUser := true }
  | .version => .error .version
  | .help => .error .help

/-- The command of a name. -/
def stage? : String → Option Stage
  | "check" => some .check
  | "list" => some .list
  | "scrape" => some .scrape
  | _ => none

/-- Takes an argument that is no option: the command, or the location to scrape. -/
def Draft.place (d : Draft) (argument : String) : Except Stop Draft :=
  if d.stage = .scrape then do
    let location ← fill d.location argument
    .ok { d with location }
  else .error .misuse

/-- The name and the value of a long option. -/
def splitValue (cs : List Char) : String × Option String :=
  let (name, rest) := cs.span (· != '=')
  (String.ofList name, if rest.isEmpty then none else some (String.ofList (rest.drop 1)))

/-- Reads letters behind a dash: options without values, and perhaps one with a value at the end,
which follows as the rest of the argument or is still to come. -/
def readLetters (d : Draft) : List Char → Except Stop (Draft × Option Slot)
  | [] => .ok (d, none)
  | c :: cs =>
      match shortSwitch? d.stage c with
      | none => .error .misuse
      | some (.takes slot) =>
          match cs with
          | [] => .ok (d, some slot)
          | '=' :: value => do .ok (← d.give (String.ofList value) slot, none)
          | value => do .ok (← d.give (String.ofList value) slot, none)
      | some other => do readLetters (← d.set other) cs

/-- Reads an option by its long name. -/
def readLong (d : Draft) (cs : List Char) : Except Stop (Draft × Option Slot) :=
  let (name, value) := splitValue cs
  match longSwitch? d.stage name, value with
  | none, _ => .error .misuse
  | some (.takes slot), some value => do .ok (← d.give value slot, none)
  | some (.takes slot), none => .ok (d, some slot)
  | some _, some _ => .error .misuse
  | some other, none => do .ok (← d.set other, none)

/-- Reads the arguments after two dashes. -/
def readPlaces (d : Draft) (arguments : List String) : Except Stop Draft :=
  arguments.foldlM Draft.place d

/-- Help on a command, or on help itself. -/
def helpOn (arguments : List String) : Stop :=
  match arguments with
  | [] => .help
  | [name] => if (stage? name).isSome ∨ name = "help" then .help else .misuse
  | _ => .misuse

/-- Opens a command: its options are read apart from those before it. -/
def Draft.enter (d : Draft) (stage : Stage) : Draft :=
  { d with stage, settings := none, settingsBefore := d.settings }

/-- Reads arguments one after the other; `pending` is an option that still waits for its value. -/
def readAll (d : Draft) (pending : Option Slot) : List String → Except Stop Draft
  | [] => if pending.isSome then .error .misuse else .ok d
  | argument :: arguments =>
      match pending, argument.toList with
      | some _, ['-', '-'] => .error .misuse
      | none, ['-', '-'] => readPlaces d arguments
      | pending, '-' :: '-' :: cs =>
          if pending.isSome then .error .misuse
          else do
            let (d, pending) ← readLong d cs
            readAll d pending arguments
      | pending, '-' :: c :: cs =>
          if pending.isSome then .error .misuse
          else do
            let (d, pending) ← readLetters d (c :: cs)
            readAll d pending arguments
      | some slot, _ => do readAll (← d.give argument slot) none arguments
      | none, _ =>
          if d.stage = .start then
            match stage? argument with
            | some stage => readAll (d.enter stage) none arguments
            | none => .error (if argument = "help" then helpOn arguments else .misuse)
          else do readAll (← d.place argument) none arguments

/-- What has been read as a command; settings named after the command count over those before. -/
def Draft.line (d : Draft) : CommandLine :=
  let settings := d.settings.or d.settingsBefore
  match d.stage, d.location with
  | .start, _ => .misuse
  | .check, _ => .run settings .check
  | .list, _ => .run settings .list
  | .scrape, none => .misuse
  | .scrape, some location =>
      .run settings (.scrape
        { location, scraper := d.scraper, importing := d.importing, askUser := d.askUser
          parent := d.parent })

/-- Reads the arguments of a command line. -/
def read (arguments : List String) : CommandLine :=
  match readAll {} none arguments with
  | .ok d => d.line
  | .error stop => stop.line

end CommandLine

end Gleaner
