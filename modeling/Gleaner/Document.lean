import Gleaner.Document.Format
import Gleaner.Files.Path
import Gleaner.Files.Store
import Gleaner.Json.Reader
import Gleaner.LoadError
import Gleaner.Text.Utf8
import Gleaner.Toml.Reader
import Gleaner.Yaml.Reader

set_option autoImplicit false

/-! Documents in files. -/
namespace Gleaner

namespace Document

/-- The tables that a text of the given format holds. -/
def parse? (format : DocumentFormat) (text : String) : Option Tree := do
  match ← (match format with
    | .json => Json.read? text
    | .toml => Toml.read? text
    | .yaml => Yaml.read? text : Option Tree) with
  | .table entries => some (.table entries)
  | _ => none

variable {m : Type → Type} [Monad m]

/-- The document in a file, if it can be read and is well-formed. -/
def content? (store : FileStore m) (format : DocumentFormat) (path : String) : m (Option Tree) := do
  match ← store.read path with
  | .ok bytes => pure ((Text.decode? bytes).bind (parse? format))
  | .error _ => pure none

/-- Reads a document, and what `decode?` makes of it. -/
def load {α : Type} (store : FileStore m) (decode? : Tree → Option α) (path : String) :
    m (Except LoadError α) := do
  match DocumentFormat.ofPath? path with
  | none => pure (.error (.documentFormat path))
  | some format => do
      match (← content? store format path).bind decode? with
      | some a => pure (.ok a)
      | none => pure (.error (.documentContent path))

/-- The paths of the files among the given ones that have a format. -/
def documents (store : FileStore m) : List String → m (List String)
  | [] => pure []
  | path :: paths => do
      let isFile ← store.isFile path
      let others ← documents store paths
      pure (if isFile && (DocumentFormat.ofPath? path).isSome then path :: others else others)

/-- The paths of the documents in a directory, in order. -/
def list (store : FileStore m) (directory : String) : m (Except LoadError (List String)) := do
  match ← store.names? directory with
  | none => pure (.error (.directory directory))
  | some names => do
      let found ← documents store (names.map (Path.join directory))
      pure (.ok (found.mergeSort fun a b => !Path.less b a))

end Document

end Gleaner
