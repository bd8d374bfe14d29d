import Gleaner.Yaml.Token

set_option autoImplicit false

/-!
The nodes of a YAML document. Anchors are numbered: a name gets as its number how many names are
known before, so that a name given twice may share its number with the name after it.
-/
namespace Gleaner.Yaml

/-- What may stand before a node. -/
structure NodeMarks where
  anchor : Option Nat := none
  tag : Option (List UInt8) := none

inductive Node where
  | scalar (marks : NodeMarks) (isPlain : Bool) (text : String)
  | list (marks : NodeMarks) (items : List Node)
  | table (marks : NodeMarks) (entries : List (Node × Node))
  | alias (anchor : Nat)

namespace Node

instance : Inhabited Node := ⟨.alias 0⟩

def empty : Node := .scalar {} true ""

/-- What is left to read, and the names and tag handles that are known. -/
structure Source where
  tokens : List Token
  handles : List TagHandle := standardHandles
  /-- The names of anchors with their numbers. -/
  names : List (String × Nat) := []

abbrev Read := StateT Source Option

/-- The next token, which stays. -/
def peek? : Read (Option Token) := fun s => some (s.tokens.head?, s)

def skip : Read Unit := modify fun s => { s with tokens := s.tokens.drop 1 }

/-- Takes a token off, if there is one and it satisfies `p`, and tells so. -/
def skipIf (p : Token → Bool) : Read Bool := do
  match ← peek? with
  | some t => if p t then skip; pure true else pure false
  | none => pure false

/-- Whether the next token, if there is one, satisfies `p`. -/
def isNext (p : Token → Bool) : Read Bool := do
  pure (((← peek?).map p).getD false)

/-- Gives the anchor its number. -/
def number (name : String) : Read Nat := do
  let names := (← get).names
  let n := names.length
  modify fun s => { s with names := (name, n) :: names.filter fun e => e.1 != name }
  pure n

def anchor? : Read (Option Nat) := do
  match ← peek? with
  | some (.anchor name) => skip; some <$> number name
  | _ => pure none

def tag? : Read (Option (List UInt8)) := do
  match ← peek? with
  | some (.tag t) => do
      skip
      match t.resolve? (← get).handles with
      | some tag => pure (some tag)
      | none => failure
  | _ => pure none

/-- An anchor and a tag, in either order. -/
def marks : Read NodeMarks := do
  match ← anchor? with
  | some anchor => pure ⟨some anchor, ← tag?⟩
  | none => do
      let tag ← tag?
      if tag.isSome then pure ⟨← anchor?, tag⟩ else pure {}

def NodeMarks.isEmpty (m : NodeMarks) : Bool := m.anchor.isNone && m.tag.isNone

def isBlockEntry : Token → Bool
  | .blockEntry => true
  | _ => false

def isBlockEnd : Token → Bool
  | .blockEnd => true
  | _ => false

def isKey : Token → Bool
  | .key => true
  | _ => false

def isValue : Token → Bool
  | .value => true
  | _ => false

def isFlowEntry : Token → Bool
  | .flowEntry => true
  | _ => false

def isFlowListEnd : Token → Bool
  | .flowListEnd => true
  | _ => false

def isFlowTableEnd : Token → Bool
  | .flowTableEnd => true
  | _ => false

/-- A scalar that is only an exclamation mark's is plain, without a tag. -/
def scalarOf (marks : NodeMarks) (isPlain : Bool) (text : String) : Node :=
  if marks.tag = some (bytesOf "!") then .scalar { marks with tag := none } isPlain text
  else .scalar marks isPlain text

/-- The comma between two items in brackets. -/
def requireFlowEntry : Read Unit := do
  if !(← skipIf isFlowEntry) then failure

/-- Where a node stands. -/
inductive Place where
  /-- Where collections have to be in brackets. -/
  | flow
  | block
  /-- In a table without brackets, where the items of a list need no indentation. -/
  | entry
  deriving DecidableEq

/-- A node, or an empty scalar where what follows shows that there is none. -/
def orEmpty (isAbsent : Token → Bool) (node : Read Node) : Read Node := do
  if ← isNext isAbsent then pure empty else node

mutual

def node : Nat → Place → Read Node
  | 0, _ => failure
  | fuel + 1, place => do
      match ← peek? with
      | some (.alias name) => do
          skip
          match (← get).names.lookup name with
          | some anchor => pure (.alias anchor)
          | none => failure
      | _ => do
          let marks ← marks
          match ← peek? with
          | some (.scalar isPlain text) => skip; pure (scalarOf marks isPlain text)
          | some .flowList => skip; .list marks <$> flowItems fuel true
          | some .flowTable => skip; .table marks <$> flowEntries fuel true
          | some .blockEntry =>
              if place = .entry then .list marks <$> plainItems fuel
              else if NodeMarks.isEmpty marks then failure
              else pure (.scalar marks true "")
          | some .blockList =>
              if place ≠ .flow then skip; .list marks <$> blockItems fuel
              else if NodeMarks.isEmpty marks then failure
              else pure (.scalar marks true "")
          | some .blockTable =>
              if place ≠ .flow then skip; .table marks <$> blockEntries fuel
              else if NodeMarks.isEmpty marks then failure
              else pure (.scalar marks true "")
          | _ =>
              if NodeMarks.isEmpty marks then failure
              else pure (.scalar marks true "")

/-- The items of an indented list, up to its end. -/
def blockItems : Nat → Read (List Node)
  | 0 => failure
  | fuel + 1 => do
      if ← skipIf isBlockEntry then
        let item ← orEmpty (fun t => isBlockEntry t || isBlockEnd t) (node fuel .block)
        (item :: ·) <$> blockItems fuel
      else if ← skipIf isBlockEnd then pure []
      else failure

/-- The items of a list that is not indented, up to something else. -/
def plainItems : Nat → Read (List Node)
  | 0 => failure
  | fuel + 1 => do
      if ← skipIf isBlockEntry then
        let item ← orEmpty (fun t => isBlockEntry t || isKey t || isValue t || isBlockEnd t)
          (node fuel .block)
        (item :: ·) <$> plainItems fuel
      else pure []

/-- The entries of an indented table, up to its end. -/
def blockEntries : Nat → Read (List (Node × Node))
  | 0 => failure
  | fuel + 1 => do
      let isAbsent (t : Token) : Bool := isKey t || isValue t || isBlockEnd t
      if ← skipIf isKey then
        let key ← orEmpty isAbsent (node fuel .entry)
        let value ←
          if ← skipIf isValue then orEmpty isAbsent (node fuel .entry) else pure empty
        ((key, value) :: ·) <$> blockEntries fuel
      else if ← skipIf isBlockEnd then pure []
      else failure

/-- The items of a list in brackets, up to the closing one. A key makes a table of one entry. -/
def flowItems : Nat → Bool → Read (List Node)
  | 0, _ => failure
  | fuel + 1, isFirst => do
      if ← skipIf isFlowListEnd then pure []
      else
        unless isFirst do requireFlowEntry
        if ← skipIf isKey then
          let item ← flowPair fuel
          (item :: ·) <$> flowItems fuel false
        else if ← skipIf isFlowListEnd then pure []
        else
          let item ← node fuel .flow
          (item :: ·) <$> flowItems fuel false

/-- The table of a single entry in a list in brackets. A token in the place of its key is dropped
where there is none. -/
def flowPair : Nat → Read Node
  | 0 => failure
  | fuel + 1 => do
      let isAbsent (t : Token) : Bool := isFlowEntry t || isFlowListEnd t
      let key ←
        if ← isNext fun t => isValue t || isAbsent t then do
          skip
          pure empty
        else node fuel .flow
      let value ←
        if ← skipIf isValue then orEmpty isAbsent (node fuel .flow) else pure empty
      pure (.table {} [(key, value)])

/-- The entries of a table in brackets, up to the closing one. -/
def flowEntries : Nat → Bool → Read (List (Node × Node))
  | 0, _ => failure
  | fuel + 1, isFirst => do
      if ← skipIf isFlowTableEnd then pure []
      else
        unless isFirst do requireFlowEntry
        let isAbsent (t : Token) : Bool := isFlowEntry t || isFlowTableEnd t
        if ← skipIf isKey then
          let key ← orEmpty (fun t => isValue t || isAbsent t) (node fuel .flow)
          let value ←
            if ← skipIf isValue then orEmpty isAbsent (node fuel .flow) else pure empty
          ((key, value) :: ·) <$> flowEntries fuel false
        else if ← skipIf isFlowTableEnd then pure []
        else
          let key ← node fuel .flow
          ((key, empty) :: ·) <$> flowEntries fuel false

end

/-- The directives before a document: at most one version, and handles that differ. -/
def directives : Nat → Option (Nat × Nat) → List TagHandle → Read (List TagHandle)
  | 0, _, handles => pure handles
  | fuel + 1, version, handles => do
      match ← peek? with
      | some (.version major minor) =>
          if version.isSome || major ≠ 1 || (minor ≠ 1 && minor ≠ 2) then failure
          skip
          directives fuel (some (major, minor)) handles
      | some (.handle h) =>
          if handles.any fun k => k.handle == h.handle then failure
          skip
          directives fuel version (handles ++ [h])
      | _ => pure handles

def isDocumentStart : Token → Bool
  | .documentStart => true
  | _ => false

def isDocumentEnd : Token → Bool
  | .documentEnd => true
  | _ => false

/-- What may stand where a document that has been started holds nothing. -/
def isBeyondDocument : Token → Bool
  | .version _ _ => true
  | .handle _ => true
  | .documentStart => true
  | .documentEnd => true
  | _ => false

/-- Marks for the end of a document, and nothing after them. -/
def ended : Read Unit := do
  modify fun s => { s with tokens := s.tokens.dropWhile isDocumentEnd }
  if !(← get).tokens.isEmpty then failure

/-- The node of the only document, if there is a document. -/
def document : Read (Option Node) := do
  let tokens := (← get).tokens
  let fuel := 2 * tokens.length + 2
  if tokens.isEmpty then pure none
  else
    let handles ← directives tokens.length none []
    modify fun s => { s with
      handles := handles ++ standardHandles }
    let isExplicit ← skipIf isDocumentStart
    if !isExplicit && !((← get).tokens.length == tokens.length) then failure
    let isEmpty := isExplicit && ((← peek?).map isBeyondDocument).getD true
    let root ← if isEmpty then pure empty else node fuel .block
    ended
    pure (some root)

/-- The node of a text, none where it holds no document. -/
def ofText? (text : String) : Option (Option Node) := do
  let tokens ← tokens? text
  let (root, _) ← document { tokens }
  some root

/-! Looking for what an alias stands for. -/

mutual

/-- The nodes with anchors, outer ones before those inside. -/
def anchored : Node → List (Nat × Node)
  | .scalar marks isPlain text => marks.anchor.toList.map fun n => (n, .scalar marks isPlain text)
  | .list marks items => (marks.anchor.toList.map fun n => (n, .list marks items)) ++ anchoredItems items
  | .table marks entries =>
      (marks.anchor.toList.map fun n => (n, .table marks entries)) ++ anchoredEntries entries
  | .alias _ => []

def anchoredItems : List Node → List (Nat × Node)
  | [] => []
  | item :: items => anchored item ++ anchoredItems items

def anchoredEntries : List (Node × Node) → List (Nat × Node)
  | [] => []
  | (key, value) :: entries => anchored key ++ anchored value ++ anchoredEntries entries

end

mutual

/-- How many events tell of a node: two for a collection, one for anything else. -/
def eventCount : Node → Nat
  | .scalar _ _ _ => 1
  | .list _ items => 2 + eventCountItems items
  | .table _ entries => 2 + eventCountEntries entries
  | .alias _ => 1

def eventCountItems : List Node → Nat
  | [] => 0
  | item :: items => eventCount item + eventCountItems items

def eventCountEntries : List (Node × Node) → Nat
  | [] => 0
  | (key, value) :: entries => eventCount key + eventCount value + eventCountEntries entries

end

end Node

end Gleaner.Yaml
