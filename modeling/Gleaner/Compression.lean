import Gleaner.Compression.Bzip2
import Gleaner.Compression.Gzip
import Gleaner.Files.Path
import Gleaner.Text.Blank

set_option autoImplicit false

/-! The compression of a file, which the extension of its path tells. -/
namespace Gleaner

inductive CompressionFormat where
  | none
  | gzip
  | bzip2
  deriving DecidableEq

namespace CompressionFormat

def ofPath (path : String) : CompressionFormat :=
  match (Path.extension? path).map Text.lowerAscii with
  | some "gz" => .gzip
  | some "bz2" => .bzip2
  | _ => .none

def name : CompressionFormat → String
  | .none => "none"
  | .gzip => "gzip"
  | .bzip2 => "bzip2"

/-- The content of a file, if it can be restored. -/
def decompress? : CompressionFormat → List UInt8 → Option (List UInt8)
  | .none, bytes => some bytes
  | .gzip, bytes => Compression.Gzip.decompress? bytes
  | .bzip2, bytes => Compression.Bzip2.decompress? bytes

end CompressionFormat

end Gleaner
