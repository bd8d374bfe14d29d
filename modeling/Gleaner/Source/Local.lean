import Gleaner.Compression
import Gleaner.Files.Store
import Gleaner.Source.Reader
import Gleaner.Source.Reference
import Gleaner.Text.Utf8

set_option autoImplicit false

/-! Reading sources from files and, where there is a way to, from the web. -/
namespace Gleaner

variable {m : Type → Type} [Monad m]

namespace Reader

/-- The error of a reference whose file cannot be read. -/
def faultOf (reference : String) : FileFault → SourceError
  | .missing => ⟨.notFound, reference⟩
  | .denied => ⟨.permissionDenied, reference⟩
  | .failed => ⟨.failed, reference⟩

/-- The text of a file: decompressed if the path says so, and with bytes replaced that are no
text. -/
def textOf (path : String) (content : List UInt8) : Except SourceError String :=
  let format := CompressionFormat.ofPath path
  match format.decompress? content with
  | some bytes => .ok (Text.decodeLossy bytes)
  | none => .error ⟨.decompression, format.name⟩

/-- Reads files; a root, if there is one, stands before relative paths. -/
def files (store : FileStore m) (root : Option String) : Reader m where
  name := "local"
  read reference :=
    match (Reference.ofText reference).path? root with
    | none => pure (.error ⟨.unsupported, reference⟩)
    | some path => do
        match ← store.read path with
        | .ok content => pure (textOf path content)
        | .error fault => pure (.error (faultOf reference fault))

/-- Reads web addresses with one reader, if there is one, and all else with the other. -/
def dispatch (near : Reader m) (remote : Option (Reader m)) : Reader m where
  name := "dispatch"
  read reference :=
    if Reference.isRemote reference then
      match remote with
      | some reader => reader.read reference
      | none => pure (.error ⟨.unsupported, reference⟩)
    else near.read reference

end Reader

end Gleaner
