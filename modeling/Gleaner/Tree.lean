import Gleaner.Dict
import Gleaner.Number.Binary64

set_option autoImplicit false

/-! Plain data as documents hold it: scalars, lists and tables. -/
namespace Gleaner

/-- A piece of a document. Whole numbers stay apart from floating point ones. -/
inductive Tree where
  | null
  | boolean (value : Bool)
  | integer (value : Int)
  | float (value : Binary64)
  | text (value : String)
  | list (items : List Tree)
  | table (entries : List (String × Tree))

namespace Tree

instance : Inhabited Tree := ⟨.null⟩

/-- A table of the entries in key order, the last of those with one key. -/
def tableOf (entries : List (String × Tree)) : Tree :=
  .table (Entries.ofList entries)

/-- The entry of a table. -/
def get? (key : String) : Tree → Option Tree
  | .table entries => Entries.find? key entries
  | _ => none

end Tree

end Gleaner
