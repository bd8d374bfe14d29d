import Gleaner.Tree

set_option autoImplicit false

/-!
Tables while they are defined. Where a table comes from decides what may be added to it: a table
under its own header is closed to dotted keys from elsewhere, and one that dotted keys made has no
header.
-/
namespace Gleaner.Toml

/-- What made a table. -/
inductive Origin where
  /-- A longer header that names it on its way. -/
  | implied
  | dottedKey
  /-- Its own header. -/
  | header
  deriving DecidableEq

inductive Node where
  | value (tree : Tree)
  | table (origin : Origin) (entries : List (String × Node))
  /-- The tables under headers in double brackets, the last of them first. -/
  | tables (reversed : List (List (String × Node)))

namespace Node

instance : Inhabited Node := ⟨.value .null⟩

/-- The entries of a table under definition. -/
abbrev Entries := List (String × Node)

/-- Puts an entry in place of the one with its key, or behind all. -/
def put (key : String) (node : Node) : Entries → Entries
  | [] => [(key, node)]
  | e :: es => if e.1 = key then (key, node) :: es else e :: put key node es

/-- Changes the table at the end of a way of keys. Tables that are missing on the way are made; `made`
is what they come from. Nothing is added to a value, and by dotted keys nothing to a table under its
own header. -/
def descend (made : Origin) (change : Origin → Entries → Option Entries) :
    List String → Origin → Entries → Option Entries
  | [], origin, entries => change origin entries
  | key :: path, _, entries => do
      match entries.lookup key with
      | none =>
          let child ← descend made change path made []
          some (put key (.table made child) entries)
      | some (.value _) => none
      | some (.tables []) => none
      | some (.tables (last :: before)) =>
          let child ← descend made change path .header last
          some (put key (.tables (child :: before)) entries)
      | some (.table origin child) =>
          if made = .dottedKey ∧ origin = .header then none
          else
            let child ← descend made change path origin child
            some (put key (.table origin child) entries)

/-- Adds a value to the table it is given in. A key that is dotted adds to tables that dotted keys
made, and other keys to tables of other origins. -/
def addValue (dotted : Bool) (key : String) (tree : Tree) (origin : Origin) (entries : Entries) :
    Option Entries :=
  if decide (origin = .dottedKey) != dotted || (entries.lookup key).isSome then none
  else some (entries ++ [(key, .value tree)])

/-- Adds a value at a way of keys, of which the last is `key`. -/
def addAt (path : List String) (key : String) (tree : Tree) : Origin → Entries → Option Entries :=
  descend .dottedKey (addValue (!path.isEmpty) key tree) path

/-- Opens the table of a header; one that longer headers implied is taken over. -/
def openTable (key : String) (_ : Origin) (entries : Entries) : Option Entries :=
  match entries.lookup key with
  | none => some (entries ++ [(key, .table .header [])])
  | some (.table .implied child) => some (put key (.table .header child) entries)
  | some _ => none

/-- Opens one more table of a header in double brackets. -/
def openNext (key : String) (_ : Origin) (entries : Entries) : Option Entries :=
  match entries.lookup key with
  | none => some (entries ++ [(key, .tables [[]])])
  | some (.tables before) => some (put key (.tables ([] :: before)) entries)
  | some _ => none

mutual

/-- What a finished table holds. -/
def toTree : Node → Tree
  | .value tree => tree
  | .table _ entries => Tree.tableOf (toEntries entries)
  | .tables reversed => .list (toTables reversed).reverse

def toEntries : List (String × Node) → List (String × Tree)
  | [] => []
  | (key, node) :: rest => (key, toTree node) :: toEntries rest

def toTables : List (List (String × Node)) → List Tree
  | [] => []
  | entries :: rest => Tree.tableOf (toEntries entries) :: toTables rest

end

end Node

end Gleaner.Toml
