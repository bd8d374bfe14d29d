import Gleaner.Toml.Moment
import Gleaner.Toml.Number
import Gleaner.Toml.Table
import Gleaner.Toml.Words

set_option autoImplicit false

/-! Reading TOML. -/
namespace Gleaner.Toml

open Text Text.Scan

/-- The key of the only entry of a table that stands for a date or a time. -/
def momentKey : String := "$__toml_private_datetime"

def momentTree (m : Moment) : Tree := .table [(momentKey, .text m.text)]

/-- The start of a date or a time: four digits and a dash, or two digits and a colon. -/
def looksLikeMoment : Scan Bool := fun cs =>
  let starts (width : Nat) (mark : Char) : Bool :=
    (cs.take width).length == width && (cs.take width).all isDigit && cs[width]? == some mark
  some (starts 4 '-' || starts 2 ':', cs)

/-- A value that has no parts. -/
def scalar : Scan Tree := do
  match ← peek? with
  | some '"' => Tree.text <$> string
  | some '\'' => Tree.text <$> string
  | some 't' => do word ['t', 'r', 'u', 'e']; pure (.boolean true)
  | some 'f' => do word ['f', 'a', 'l', 's', 'e']; pure (.boolean false)
  | _ => if ← looksLikeMoment then momentTree <$> moment else number

/-- The last of some keys, and those before it. -/
def splitLast : List String → Option (List String × String)
  | [] => none
  | [key] => some ([], key)
  | key :: keys => (splitLast keys).map fun (path, last) => (key :: path, last)

/-- The table of pairs in braces. -/
def inlineTable (pairs : List (List String × Tree)) : Option Tree := do
  let entries ← pairs.foldlM (fun entries pair => do
    let (path, key) ← splitLast pair.1
    Node.addAt path key pair.2 .header entries) ([] : Node.Entries)
  some (Tree.tableOf (Node.toEntries entries))

mutual

/-- A value in which `depth` more levels may open. -/
def value : Nat → Nat → Scan Tree
  | 0, _ => failure
  | fuel + 1, depth => do
      match ← peek? with
      | some '[' =>
          match depth with
          | 0 => failure
          | depth + 1 => do
              exactly '['
              Tree.list <$> items fuel depth
      | some '\x7b' =>
          match depth with
          | 0 => failure
          | depth + 1 => do
              exactly '\x7b'
              spaces
              let pairs ← (do exactly '\x7d'; pure []) <|> pairs fuel depth
              match inlineTable pairs with
              | some tree => pure tree
              | none => failure
      | _ => scalar

/-- The items of a list after its bracket; a comma may follow the last. -/
def items : Nat → Nat → Scan (List Tree)
  | 0, _ => failure
  | fuel + 1, depth => do
      gap (← left)
      if ← skip ']' then pure []
      else do
        let first ← value fuel depth
        gap (← left)
        if ← skip ',' then (first :: ·) <$> items fuel depth
        else do
          exactly ']'
          pure [first]

/-- One or more pairs in braces, up to the closing one. -/
def pairs : Nat → Nat → Scan (List (List String × Tree))
  | 0, _ => failure
  | fuel + 1, depth => do
      let path ← key
      exactly '='
      spaces
      let tree ← value fuel depth
      spaces
      if ← skip ',' then ((path, tree) :: ·) <$> pairs fuel depth
      else do
        exactly '\x7d'
        pure [(path, tree)]

end

/-- A line of a document. -/
inductive Line where
  | pair (path : List String) (value : Tree)
  | header (path : List String)
  | listHeader (path : List String)

/-- A line that says something, its end included. -/
def line : Scan Line := do
  (do
    word ['[', '[']
    let path ← key
    word [']', ']']
    lineEnd
    pure (.listHeader path)) <|>
  (do
    exactly '['
    let path ← key
    exactly ']'
    lineEnd
    pure (.header path)) <|>
  (do
    let path ← key
    exactly '='
    spaces
    let tree ← value ((← left) + 1) nestingLimit
    lineEnd
    pure (.pair path tree))

/-- The lines of a document that say something. -/
def lines : Nat → Scan (List Line)
  | 0 => failure
  | fuel + 1 => do
      spaces
      match ← peek? with
      | none => pure []
      | some c =>
          if c == '#' || c == '\n' || c == '\r' then
            lineEnd
            lines fuel
          else do
            let first ← line
            (first :: ·) <$> lines fuel

/-- A document while it is read: all tables, and the way to the one that the last header opened. -/
structure Draft where
  entries : Node.Entries := []
  current : List String := []

/-- Applies a change to the table that a header names. -/
def openHeader (opens : String → Origin → Node.Entries → Option Node.Entries)
    (draft : Draft) (path : List String) : Option Draft := do
  let (above, key) ← splitLast path
  let entries ← Node.descend .implied (opens key) above .header draft.entries
  some ⟨entries, path⟩

def Draft.add (draft : Draft) : Line → Option Draft
  | .header path => openHeader Node.openTable draft path
  | .listHeader path => openHeader Node.openNext draft path
  | .pair path tree => do
      let (above, key) ← splitLast path
      let entries ←
        Node.descend .implied (fun origin entries => Node.addAt above key tree origin entries)
          draft.current .header draft.entries
      some { draft with entries }

/-- Drops the mark that a text may start with. -/
def withoutMark : List Char → List Char
  | '\ufeff' :: cs => cs
  | cs => cs

/-- Reads a whole document. -/
def read? (text : String) : Option Tree := do
  let cs := withoutMark text.toList
  let (found, _) ← lines (cs.length + 1) cs
  let draft ← found.foldlM Draft.add {}
  some (Tree.tableOf (Node.toEntries draft.entries))

end Gleaner.Toml
