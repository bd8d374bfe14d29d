import Gleaner.Captures

set_option autoImplicit false

/-! Asking an operator to choose between matches. -/
namespace Gleaner

/-- What the operator is asked. -/
structure PromptRequest where
  scraper : String
  /-- The reference of the text that was searched, or the location of the item. -/
  source : String
  pattern : String
  candidates : List Captures
  /-- Several candidates may be chosen. -/
  repeated : Bool
  deriving DecidableEq

/-- An operator: answers with the chosen matches, or declines. -/
structure Prompter (m : Type → Type) where
  choose : PromptRequest → m (Option (List Captures))

end Gleaner
