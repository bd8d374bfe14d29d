import Gleaner.Record
import Gleaner.Tree.Parts

set_option autoImplicit false

/-! Media types: what the records of a kind of item start with. -/
namespace Gleaner

structure MediaType where
  name : String
  defaults : Details

namespace MediaType

/-- The media type of the given parts. -/
def ofParts? : List (Option Tree) → Option MediaType
  | [name, defaults] => do
      let name ← Tree.text? name
      let defaults ← Tree.details? defaults
      some { name, defaults }
  | _ => none

/-- The media type that a document describes. -/
def ofTree? (surplus : Surplus) (tree : Tree) : Option MediaType := do
  ofParts? (← tree.parts? surplus ["name", "defaults"])

end MediaType

end Gleaner
