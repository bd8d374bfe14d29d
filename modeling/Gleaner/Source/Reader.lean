import Gleaner.Source.Error

set_option autoImplicit false

/-! Reading the text behind a reference. -/
namespace Gleaner

/-- A way to read sources: the whole text behind a reference, or why there is none. -/
structure Reader (m : Type → Type) where
  name : String
  read : String → m (Except SourceError String)

end Gleaner
