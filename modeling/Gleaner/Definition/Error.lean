import Gleaner.Procedure
import Gleaner.Text.Quoted

set_option autoImplicit false

/-! What can be wrong with a scraper definition. -/
namespace Gleaner

inductive EngineErrorKind where
  | invalidDefinition
  | invalidPattern
  | unknownType
  deriving DecidableEq

def EngineErrorKind.message (kind : EngineErrorKind) (detail : String) : String :=
  match kind with
  | .invalidDefinition => "invalid scraper definition: " ++ detail
  | .invalidPattern => "invalid regular expression: " ++ detail
  | .unknownType => "unknown media type: " ++ detail

/-- No fault of a definition goes away by trying again. -/
def EngineErrorKind.isRetryable (_ : EngineErrorKind) : Bool := false

/-- The templates of a procedure. -/
inductive TemplatePart where
  | source
  | searchFor
  | assignment (field : Field)
  deriving DecidableEq

def TemplatePart.name : TemplatePart → String
  | .source => "source"
  | .searchFor => "searchFor"
  | .assignment field => field.key

/-- Where a procedure stands: its index among the roots, then among the children of each. -/
abbrev ProcedurePath := List Nat

def ProcedurePath.text (path : ProcedurePath) : String :=
  ".".intercalate (path.map fun i => "procedures[" ++ toString i ++ "]")

inductive EngineError where
  | emptyTemplate (path : ProcedurePath) (part : TemplatePart)
  | missingGroup (path : ProcedurePath) (part : TemplatePart) (group available : Nat)
  | notPrepared (scraper : String)
  | failedValidation (scraper : String)
  | invalidPattern (pattern : String)
  | unknownType (name : String)
  deriving DecidableEq

namespace EngineError

def kind : EngineError → EngineErrorKind
  | .invalidPattern _ => .invalidPattern
  | .unknownType _ => .unknownType
  | _ => .invalidDefinition

def detail : EngineError → String
  | .emptyTemplate path part => path.text ++ ": empty " ++ part.name
  | .missingGroup path part group available =>
      path.text ++ ": " ++ part.name ++ " references $" ++ toString group ++ " but only " ++
        toString available ++ " capture group(s) are available"
  | .notPrepared scraper => "scraper " ++ Text.quoted scraper ++ " has not been prepared"
  | .failedValidation scraper => "scraper " ++ Text.quoted scraper ++ " failed validation"
  | .invalidPattern pattern => pattern
  | .unknownType name => name

def message (e : EngineError) : String :=
  e.kind.message e.detail

end EngineError

end Gleaner
