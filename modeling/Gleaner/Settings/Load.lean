import Gleaner.Document
import Gleaner.Settings
import Gleaner.Settings.Environment

set_option autoImplicit false

/-!
Settings from several layers, each of which counts over the one before: the standard ones, three files
in the directory of settings, a file that the user names, and environment variables.
-/
namespace Gleaner.Settings

variable {m : Type → Type} [Monad m]

/-- The files in the directory of settings, in the order in which they count. -/
def fileNames : List (DocumentFormat × String) :=
  [(.toml, "config.toml"), (.yaml, "config.yaml"), (.json, "config.json")]

/-- What a file sets: nothing, if there is no such file. -/
def ofFile? (store : FileStore m) (format : DocumentFormat) (path : String) : m (Option Tree) := do
  if ← store.isFile path then Document.content? store format path else pure (some (.table []))

/-- What the files in a directory of settings set. -/
def ofDirectory? (store : FileStore m) (directory : String) :
    List (DocumentFormat × String) → m (Option (List Tree))
  | [] => pure (some [])
  | (format, name) :: files => do
      let first ← ofFile? store format (Path.join directory name)
      let others ← ofDirectory? store directory files
      pure (do some ((← first) :: (← others)))

/-- The format of a file that the user names. -/
def formatOf (store : FileStore m) (path : String) : m (Except LoadError DocumentFormat) := do
  if ← store.isFile path then
    match DocumentFormat.ofPath? path with
    | some format => pure (.ok format)
    | none => pure (.error (.settingsFormat path))
  else pure (.error (.notAFile path))

/-- What a file sets that the user names, if one is named. -/
def ofExplicit? (store : FileStore m) : Option String → m (Except LoadError (Option Tree))
  | none => pure (.ok (some (.table [])))
  | some path => do
      match ← formatOf store path with
      | .ok format => pure (.ok (← Document.content? store format path))
      | .error e => pure (.error e)

/-- A setting that is to name a directory. -/
def checkDirectory (store : FileStore m) (key path : String) : m (Except LoadError Unit) := do
  if ← store.isDirectory path then pure (.ok ()) else pure (.error (.notADirectory key path))

/-- The settings that name directories, in the order in which they are checked. -/
def directories (s : Settings) : List (String × String) :=
  [("scrapers", s.scrapers), ("types", s.types)] ++ s.root.toList.map fun root => ("root", root)

def checkDirectories (store : FileStore m) : List (String × String) → m (Except LoadError Unit)
  | [] => pure (.ok ())
  | (key, path) :: rest => do
      match ← checkDirectory store key path with
      | .ok _ => checkDirectories store rest
      | .error e => pure (.error e)

/-- Refuses settings that cannot work. -/
def validate (store : FileStore m) (s : Settings) : m (Except LoadError Unit) :=
  if s.web.timeoutSeconds = 0 then pure (.error .zeroTimeout)
  else checkDirectories store s.directories

/-- The settings of all layers, which need not work. -/
def gather (store : FileStore m) (environment : Environment) (explicit : Option String) :
    m (Except LoadError Settings) := do
  let directory := environment.settingsDirectory?
  let files ← match directory with
    | some directory => ofDirectory? store directory fileNames
    | none => pure (some [])
  match ← ofExplicit? store explicit with
  | .error e => pure (.error e)
  | .ok named =>
      let settings := do
        let layers := (← files) ++ [← named, environment.settings]
        ofTree? .ignored (standard directory) (Tree.mergeAll layers)
      match settings with
      | some settings => pure (.ok settings)
      | none => pure (.error .unreadableSettings)

/-- The settings of all layers, if they can work. -/
def load (store : FileStore m) (environment : Environment) (explicit : Option String) :
    m (Except LoadError Settings) := do
  match ← gather store environment explicit with
  | .error e => pure (.error e)
  | .ok settings => do
      match ← settings.validate store with
      | .ok _ => pure (.ok settings)
      | .error e => pure (.error e)

end Gleaner.Settings
