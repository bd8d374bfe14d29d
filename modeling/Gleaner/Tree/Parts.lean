import Gleaner.Value

set_option autoImplicit false

/-!
Structures in documents. A structure is written as a table with a known set of keys, or as a list of
its parts in their order; other keys of a table are ignored.
-/
namespace Gleaner

/-- Whether a list that stands for a structure may have more items than the structure has parts. -/
inductive Surplus where
  | refused
  | ignored
  deriving DecidableEq

namespace Tree

/-- Each part of a structure, absent where it is not given. -/
def parts? (surplus : Surplus) (keys : List String) : Tree → Option (List (Option Tree))
  | .table entries => some (keys.map fun key => Entries.find? key entries)
  | .list items =>
      if surplus = .refused ∧ keys.length < items.length then none
      else some ((List.range keys.length).map fun i => items[i]?)
  | _ => none

/-- A text that has to be given. -/
def text? : Option Tree → Option String
  | some (.text s) => some s
  | _ => none

/-- A truth value, false when it is not given. -/
def flag? : Option Tree → Option Bool
  | none => some false
  | some (.boolean b) => some b
  | _ => none

/-- The values in a table, none when it is not given. -/
def details? : Option Tree → Option (Dict Value)
  | none => some Dict.empty
  | some (.table entries) => some (Dict.ofList (Value.ofEntries entries))
  | _ => none

/-- An entry whose value is a text. -/
def textEntry? (entry : String × Tree) : Option (String × String) :=
  (text? (some entry.2)).map fun s => (entry.1, s)

/-- The texts in a table, none when it is not given. -/
def texts? : Option Tree → Option (Dict String)
  | none => some Dict.empty
  | some (.table entries) => (entries.mapM textEntry?).map Dict.ofList
  | _ => none

end Tree

end Gleaner
