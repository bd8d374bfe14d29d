import Gleaner.Yaml.Block
import Gleaner.Yaml.Plain
import Gleaner.Yaml.Quoted
import Gleaner.Yaml.Tag

set_option autoImplicit false

/-!
The tokens of a YAML text. Collections without brackets are told by indentation, so tokens that no
character stands for open and close them. A key before a colon is known as a key only at the colon:
the tokens that open it are then put in before it.
-/
namespace Gleaner.Yaml

inductive Token where
  | version (major minor : Nat)
  | handle (h : TagHandle)
  | documentStart
  | documentEnd
  | blockList
  | blockTable
  | blockEnd
  | flowList
  | flowListEnd
  | flowTable
  | flowTableEnd
  | blockEntry
  | flowEntry
  | key
  | value
  | alias (name : String)
  | anchor (name : String)
  | tag (t : TagText)
  | scalar (isPlain : Bool) (text : String)

/-- A place where a key may have started. -/
structure KeyStart where
  /-- How many tokens stand before it. -/
  position : Nat
  index : Nat
  line : Nat
  column : Nat
  /-- Nothing else than a key may stand there. -/
  isRequired : Bool

structure Lexer where
  cursor : Cursor
  /-- The tokens so far, the last first. -/
  tokens : List Token := []
  /-- How many tokens there are so far. -/
  count : Nat := 0
  /-- The column of the innermost collection without brackets, -1 outside all. -/
  indent : Int := -1
  /-- The columns of the collections around it. -/
  indents : List Int := []
  /-- Where a key may have started, in the innermost brackets first and outside all of them last. -/
  keys : List (Option KeyStart) := [none]
  keyAllowed : Bool := true
  isDone : Bool := false

abbrev Lex := StateT Lexer Option

namespace Lex

def scan {α : Type} (reader : Scan α) : Lex α := fun s => do
  let (a, cursor) ← reader s.cursor
  some (a, { s with cursor })

def push (t : Token) : Lex Unit :=
  modify fun s => { s with tokens := t :: s.tokens, count := s.count + 1 }

/-- Puts a token in behind the given number of them. -/
def insert (position : Nat) (t : Token) : Lex Unit :=
  modify fun s =>
    let later := s.count - position
    { s with tokens := s.tokens.take later ++ t :: s.tokens.drop later, count := s.count + 1 }

def isInFlow : Lex Bool := do
  pure (decide (1 < (← get).keys.length))

def allowKey (allowed : Bool) : Lex Unit :=
  modify fun s => { s with keyAllowed := allowed }

/-- A key that has to be there and is not is an error. -/
def refuseRequired (key : Option KeyStart) : Lex Unit := do
  if (key.map (·.isRequired)).getD false then failure

def setKey (key : Option KeyStart) : Lex Unit :=
  modify fun s => { s with keys := key :: s.keys.drop 1 }

/-- Gives up on a key that may have started. -/
def dropKey : Lex Unit := do
  refuseRequired ((← get).keys.head?.join)
  setKey none

/-- How long a key may be. -/
def longestKey : Nat := 1024

def isStale (cursor : Cursor) (key : KeyStart) : Bool :=
  decide (key.line < cursor.line) || decide (key.index + longestKey < cursor.index)

/-- Gives up on keys that are too long, or did not end on their line. -/
def dropStaleKeys : Lex Unit := do
  let s ← get
  let stale (key : Option KeyStart) : Bool := (key.map (isStale s.cursor)).getD false
  for key in s.keys do
    if stale key then refuseRequired key
  modify fun s => { s with keys := s.keys.map fun key => if stale key then none else key }

/-- Notes that a key may start here. -/
def markKey : Lex Unit := do
  let s ← get
  if s.keyAllowed then
    let isRequired := !(← isInFlow) && s.indent == s.cursor.column
    dropKey
    setKey (some ⟨s.count, s.cursor.index, s.cursor.line, s.cursor.column, isRequired⟩)

/-- Opens a collection without brackets, if the column is deeper than the one around. -/
def indentTo (column : Nat) (position : Option Nat) (t : Token) : Lex Unit := do
  let s ← get
  if !(← isInFlow) && decide (s.indent < column) then
    modify fun s => { s with indents := s.indent :: s.indents, indent := column }
    insert (position.getD s.count) t

/-- Closes the collections without brackets that are deeper than a column. -/
def dedentTo (column : Int) : Lex Unit := do
  let s ← get
  if !(← isInFlow) then
    let columns := (s.indent :: s.indents).takeWhile fun c => decide (column < c)
    for _ in columns do push .blockEnd
    match (s.indent :: s.indents).drop columns.length with
    | [] => modify fun s => { s with indent := -1, indents := [] }
    | indent :: indents => modify fun s => { s with indent, indents }

/-- Takes a character off that is a token of its own. -/
def single (t : Token) : Lex Unit := do
  scan (Scan.skip 1)
  push t

/-- Goes past blanks, comments and line ends. Tabs are blanks only where no key may start. -/
def skipToToken : Nat → Lex Unit
  | 0 => pure ()
  | fuel + 1 => do
      let s ← get
      if s.cursor.index = 0 ∧ startsWith (· == '\ufeff') s.cursor.rest then scan (Scan.skip 1)
      let tabs := (← isInFlow) || !s.keyAllowed
      scan (Scan.skipWhile fun c => c == ' ' || (tabs && c == '\t'))
      if ← scan (Scan.isNext (· == '#')) then scan (Scan.skipWhile fun c => !isBreak c)
      if ← scan (Scan.isNext isBreak) then
        let _ ← scan Scan.lineBreak
        if !(← isInFlow) then allowKey true
        skipToToken fuel

/-- A number in a version, of at most nine digits. -/
def versionNumber : Scan Nat := do
  let digits ← Scan.takeWhile Text.isDigit
  if digits.isEmpty || 9 < digits.length then failure
  pure (Text.ofDigits digits)

def versionDirective : Scan Token := do
  Scan.skipWhile isBlank
  let major ← versionNumber
  Scan.exactly '.'
  let minor ← versionNumber
  pure (.version major minor)

/-- A line that starts with a percent sign. -/
def directive : Scan Token := do
  Scan.skip 1
  let name ← Scan.takeWhile isNameChar
  if name.isEmpty || !(← Scan.test (endsOr isSpace)) then failure
  let t ←
    if name = "YAML".toList then versionDirective
    else if name = "TAG".toList then Token.handle <$> tagDirective
    else failure
  Scan.lineEnd
  pure t

/-- The name of an anchor, after its mark. -/
def anchorName : Scan String := do
  Scan.skip 1
  let name ← Scan.takeWhile isNameChar
  let ends (c : Char) : Bool :=
    isSpace c || c == '?' || c == ':' || c == ',' || c == ']' || c == '\x7d' || c == '%' ||
      c == '@' || c == '\x60'
  if name.isEmpty || !(← Scan.test (endsOr ends)) then failure
  pure (String.ofList name)

/-- Leaves all collections without brackets before something that concerns the document. -/
def leaveAll : Lex Unit := do
  dedentTo (-1)
  dropKey
  allowKey false

def documentMark (t : Token) : Lex Unit := do
  leaveAll
  scan (Scan.skip 3)
  push t

def openFlow (t : Token) : Lex Unit := do
  markKey
  modify fun s => { s with keys := none :: s.keys }
  allowKey true
  single t

def closeFlow (t : Token) : Lex Unit := do
  dropKey
  modify fun s => { s with keys := match s.keys with
    | _ :: key :: keys => key :: keys
    | keys => keys }
  allowKey false
  single t

def flowEntry : Lex Unit := do
  dropKey
  allowKey true
  single .flowEntry

def blockEntry : Lex Unit := do
  if !(← isInFlow) then
    if !(← get).keyAllowed then failure
    indentTo (← get).cursor.column none .blockList
  dropKey
  allowKey true
  single .blockEntry

def key : Lex Unit := do
  let inFlow ← isInFlow
  if !inFlow then
    if !(← get).keyAllowed then failure
    indentTo (← get).cursor.column none .blockTable
  dropKey
  allowKey (!inFlow)
  single .key

def value : Lex Unit := do
  match (← get).keys.head?.join with
  | some start => do
      insert start.position .key
      indentTo start.column (some start.position) .blockTable
      setKey none
      allowKey false
  | none => do
      let inFlow ← isInFlow
      if !inFlow then
        if !(← get).keyAllowed then failure
        indentTo (← get).cursor.column none .blockTable
      allowKey (!inFlow)
  single .value

/-- A token that may start a key. -/
def keyToken (reader : Scan Token) : Lex Unit := do
  markKey
  allowKey false
  push (← scan reader)

def blockScalar (literal : Bool) : Lex Unit := do
  dropKey
  allowKey true
  let text ← scan (Yaml.blockScalar literal (← get).indent)
  push (.scalar false text)

def plainScalar : Lex Unit := do
  markKey
  allowKey false
  let (text, isBroken) ← scan (Yaml.plainScalar (← isInFlow) (← get).indent)
  push (.scalar true text)
  if isBroken then allowKey true

/-- Characters that no scalar without quotes starts with. -/
def isIndicator (c : Char) : Bool :=
  isFlowIndicator c || c == '-' || c == '?' || c == ':' || c == '#' || c == '&' || c == '*' ||
    c == '!' || c == '|' || c == '>' || c == '\'' || c == '"' || c == '%' || c == '@' || c == '\x60'

/-- A dash before anything but a blank starts a scalar, and so do outside brackets a question mark
and a colon before anything but a space. -/
def startsPlain (inFlow : Bool) (c : Char) (rest : List Char) : Bool :=
  !(isSpace c || isIndicator c) || (c == '-' && !startsWith isBlank rest) ||
    (!inFlow && (c == '?' || c == ':') && !endsOr isSpace rest)

/-- The token whose first character is given. -/
def tokenAt (c : Char) (rest : List Char) : Lex Unit := do
  let inFlow ← isInFlow
  let column := (← get).cursor.column
  let alone := endsOr isSpace rest
  if column = 0 ∧ c = '%' then
    leaveAll
    push (← scan directive)
  else if column = 0 ∧ isMark '-' (c :: rest) then documentMark .documentStart
  else if column = 0 ∧ isMark '.' (c :: rest) then documentMark .documentEnd
  else if c = '[' then openFlow .flowList
  else if c = '\x7b' then openFlow .flowTable
  else if c = ']' then closeFlow .flowListEnd
  else if c = '\x7d' then closeFlow .flowTableEnd
  else if c = ',' then flowEntry
  else if c = '-' ∧ alone then blockEntry
  else if c = '?' ∧ (inFlow ∨ alone) then key
  else if c = ':' ∧ (inFlow ∨ alone) then value
  else if c = '*' then keyToken (Token.alias <$> anchorName)
  else if c = '&' then keyToken (Token.anchor <$> anchorName)
  else if c = '!' then keyToken (Token.tag <$> Yaml.tag inFlow)
  else if c = '|' ∧ !inFlow then blockScalar true
  else if c = '>' ∧ !inFlow then blockScalar false
  else if c = '\'' ∨ c = '"' then keyToken (Token.scalar false <$> quotedScalar c)
  else if startsPlain inFlow c rest then plainScalar
  else failure

/-- The next token, or the end of the text. -/
def next : Lex Unit := do
  skipToToken (← scan Scan.fuel)
  dropStaleKeys
  dedentTo (← get).cursor.column
  match (← get).cursor.rest with
  | [] => do
      dedentTo (-1)
      dropKey
      modify fun s => { s with isDone := true }
  | c :: rest => tokenAt c rest

/-- All tokens up to the end. -/
def all : Nat → Lex Unit
  | 0 => failure
  | fuel + 1 => do
      if !(← get).isDone then
        next
        all fuel

end Lex

/-- Drops the mark that a text may start with. -/
def withoutMark : List Char → List Char
  | '\ufeff' :: cs => cs
  | cs => cs

/-- The tokens of a text, if it has none but allowed characters and tokens. -/
def tokens? (text : String) : Option (List Token) := do
  let cs := withoutMark text.toList
  if cs.all isAllowed then
    let (_, s) ← (Lex.all (cs.length + 2)) { cursor := ⟨cs, 0, 0, 0⟩ }
    some s.tokens.reverse
  else none

end Gleaner.Yaml
