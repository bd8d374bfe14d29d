import Gleaner.Dict
import Gleaner.Procedure

set_option autoImplicit false

/-! Scraper definitions: a rule tree for the items of one media type. -/
namespace Gleaner

structure Definition where
  name : String
  /-- The media type whose records the scraper fills in. -/
  targetType : String
  /-- Searched in an item's location; its captures start the rules. -/
  fileName : String
  /-- Every match in the location is an item of its own. -/
  multipleItems : Bool := false
  /-- Keys of details that are copied from a parent record, with the parent's keys. -/
  inherited : Dict String := Dict.empty
  procedures : List Procedure := []

end Gleaner
