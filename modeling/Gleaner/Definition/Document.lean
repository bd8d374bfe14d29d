import Gleaner.Definition
import Gleaner.Tree.Parts

set_option autoImplicit false

/-! Scraper definitions as documents. -/
namespace Gleaner

namespace Procedure

/-- The keys of a procedure, in the order in which a list gives their values. -/
def keys : List String :=
  ["source", "searchFor", "repeat", "askUser", "import", "set", "procedures"]

/-- The assignments of a procedure, in key order. -/
def assignments? (part : Option Tree) : Option (List Assignment) :=
  (Tree.details? part).map fun set =>
    set.entries.map fun entry => ⟨Field.ofKey entry.1, entry.2⟩

/-- A procedure of the given parts, but for its children. -/
def ofParts? (children : List Procedure) : List (Option Tree) → Option Procedure
  | [source, searchFor, repeats, askUser, importing, set, _] => do
      let source ← Tree.text? source
      let searchFor ← Tree.text? searchFor
      let repeats ← Tree.flag? repeats
      let askUser ← Tree.flag? askUser
      let importing ← Tree.flag? importing
      let assignments ← assignments? set
      some (.node source searchFor repeats askUser importing assignments children)
  | _ => none

mutual

/-- The procedure that a document describes. -/
def ofTree? (surplus : Surplus) : Tree → Option Procedure
  | .table entries => do
      let children ← childrenIn? surplus entries
      ofParts? children (← Tree.parts? surplus keys (.table entries))
  | .list items => do
      let children ← childrenAt? surplus 6 items
      ofParts? children (← Tree.parts? surplus keys (.list items))
  | _ => none

/-- The children of a procedure that is written as a table. -/
def childrenIn? (surplus : Surplus) : List (String × Tree) → Option (List Procedure)
  | [] => some []
  | (key, tree) :: rest =>
      if key = "procedures" then listOf? surplus tree else childrenIn? surplus rest

/-- The children of a procedure that is written as a list, where they come after `skipped` more
items. -/
def childrenAt? (surplus : Surplus) (skipped : Nat) : List Tree → Option (List Procedure)
  | [] => some []
  | tree :: rest =>
      match skipped with
      | 0 => listOf? surplus tree
      | skipped + 1 => childrenAt? surplus skipped rest

def listOf? (surplus : Surplus) : Tree → Option (List Procedure)
  | .list items => allOf? surplus items
  | _ => none

def allOf? (surplus : Surplus) : List Tree → Option (List Procedure)
  | [] => some []
  | tree :: rest => do
      let first ← ofTree? surplus tree
      let others ← allOf? surplus rest
      some (first :: others)

end

/-- The procedures of a definition, none when they are not given. -/
def list? (surplus : Surplus) : Option Tree → Option (List Procedure)
  | none => some []
  | some tree => listOf? surplus tree

end Procedure

namespace Definition

/-- The keys of a definition, in the order in which a list gives their values. -/
def keys : List String :=
  ["name", "type", "filename", "multipleItemsPerFile", "inheritedMetadata", "procedures"]

/-- The definition of the given parts. -/
def ofParts? (surplus : Surplus) : List (Option Tree) → Option Definition
  | [name, targetType, fileName, multipleItems, inherited, procedures] => do
      let name ← Tree.text? name
      let targetType ← Tree.text? targetType
      let fileName ← Tree.text? fileName
      let multipleItems ← Tree.flag? multipleItems
      let inherited ← Tree.texts? inherited
      let procedures ← Procedure.list? surplus procedures
      some { name, targetType, fileName, multipleItems, inherited, procedures }
  | _ => none

/-- The definition that a document describes. -/
def ofTree? (surplus : Surplus) (tree : Tree) : Option Definition := do
  ofParts? surplus (← tree.parts? surplus keys)

end Definition

end Gleaner
