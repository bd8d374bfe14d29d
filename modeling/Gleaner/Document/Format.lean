import Gleaner.Files.Path
import Gleaner.Text.Blank

set_option autoImplicit false

/-! The format of a document, which the extension of its path tells. -/
namespace Gleaner

inductive DocumentFormat where
  | json
  | toml
  | yaml
  deriving DecidableEq

namespace DocumentFormat

def ofExtension? : String → Option DocumentFormat
  | "json" => some .json
  | "toml" => some .toml
  | "yaml" => some .yaml
  | "yml" => some .yaml
  | _ => none

def ofPath? (path : String) : Option DocumentFormat := do
  ofExtension? (Text.lowerAscii (← Path.extension? path))

end DocumentFormat

end Gleaner
