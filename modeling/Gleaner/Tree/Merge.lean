import Gleaner.Tree

set_option autoImplicit false

/-! Laying one document over another. -/
namespace Gleaner.Tree

mutual

/-- What a document becomes under another: tables merge entry by entry, and of anything else the
upper one stays. -/
def merge : (lower upper : Tree) → Tree
  | .table lower, .table upper => .table (mergeEntries upper lower)
  | _, upper => upper

/-- Lays entries over those of a table, one after the other. -/
def mergeEntries : (upper lower : List (String × Tree)) → List (String × Tree)
  | [], lower => lower
  | (key, tree) :: upper, lower =>
      let merged := match Entries.find? key lower with
        | some below => merge below tree
        | none => tree
      mergeEntries upper (Entries.insert key merged lower)

end

/-- All layers in one, the first of them at the bottom. -/
def mergeAll (layers : List Tree) : Tree :=
  layers.foldl merge (.table [])

end Gleaner.Tree
