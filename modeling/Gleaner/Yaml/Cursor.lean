set_option autoImplicit false

/-!
A place in a text, and the classes of characters that tell the parts of a YAML text apart. Line ends
are those of Unicode; a carriage return and the line feed after it are one.
-/
namespace Gleaner.Yaml

structure Cursor where
  rest : List Char
  /-- How many characters are behind. -/
  index : Nat := 0
  line : Nat := 0
  column : Nat := 0

def isBlank (c : Char) : Bool := c == ' ' || c == '\t'

def isBreak (c : Char) : Bool :=
  c == '\n' || c == '\r' || c == '\u0085' || c == '\u2028' || c == '\u2029'

def isSpace (c : Char) : Bool := isBlank c || isBreak c

/-- Characters of names: ASCII letters and digits, dashes and underscores. -/
def isNameChar (c : Char) : Bool := c.isAlphanum || c == '_' || c == '-'

/-- The brackets and the comma of lists and tables in brackets. -/
def isFlowIndicator (c : Char) : Bool :=
  c == ',' || c == '[' || c == ']' || c == '\x7b' || c == '\x7d'

/-- Characters that a text may hold: no controls but tabs and line ends. -/
def isAllowed (c : Char) : Bool :=
  let n := c.toNat
  n == 0x09 || n == 0x0a || n == 0x0d || (0x20 ≤ n && n ≤ 0x7e) || n == 0x85 ||
    (0xa0 ≤ n && n ≤ 0xd7ff) || (0xe000 ≤ n && n ≤ 0xfffd) || 0x10000 ≤ n

/-- The text ends here, or a character that satisfies `p` stands at its start. -/
def endsOr (p : Char → Bool) : List Char → Bool
  | [] => true
  | c :: _ => p c

/-- A character that satisfies `p` stands at the start. -/
def startsWith (p : Char → Bool) : List Char → Bool
  | [] => false
  | c :: _ => p c

/-- Reading a text from a cursor on: each reader moves it on, or fails. -/
abbrev Scan := StateT Cursor Option

namespace Scan

/-- Whether `p` holds of what is left. -/
def test (p : List Char → Bool) : Scan Bool := fun c => some (p c.rest, c)

def isNext (p : Char → Bool) : Scan Bool := test (startsWith p)

def next? : Scan (Option Char) := fun c => some (c.rest.head?, c)

def column : Scan Nat := fun c => some (c.column, c)

/-- How many steps suffice to read what is left. -/
def fuel : Scan Nat := fun c => some (c.rest.length + 1, c)

/-- Moves on by characters of one line. -/
def skip (n : Nat) : Scan Unit := fun c =>
  some ((), { c with
    rest := c.rest.drop n, index := c.index + n, column := c.column + n })

/-- The characters up to the first that does not satisfy `p`, all of one line. -/
def takeWhile (p : Char → Bool) : Scan (List Char) := fun c =>
  let (found, rest) := c.rest.span p
  let n := found.length
  some (found, { c with rest, index := c.index + n, column := c.column + n })

def skipWhile (p : Char → Bool) : Scan Unit := do
  let _ ← takeWhile p

/-- Takes the character off. -/
def exactly (char : Char) : Scan Unit := do
  if ← isNext (· == char) then skip 1 else failure

/-- Goes to the start of the next line. -/
def nextLine (n : Nat) : Scan Unit := fun c =>
  some ((), ⟨c.rest.drop n, c.index + n, c.line + 1, 0⟩)

/-- The line end here as it counts in a scalar, nothing where there is none. -/
def lineBreak : Scan (List Char) := do
  match ← (fun c => some (c.rest.take 2, c) : Scan (List Char)) with
  | ['\r', '\n'] => nextLine 2; pure ['\n']
  | c :: _ =>
      if c == '\u2028' || c == '\u2029' then nextLine 1; pure [c]
      else if isBreak c then nextLine 1; pure ['\n']
      else pure []
  | [] => pure []

/-- Blanks and a comment, up to the end of the line, and that. -/
def lineEnd : Scan Unit := do
  skipWhile isBlank
  if ← isNext (· == '#') then skipWhile fun c => !isBreak c
  if ← test (endsOr isBreak) then
    let _ ← lineBreak
  else failure

end Scan

/-- Three dashes or three dots, and then a space or the end. -/
def isMark (char : Char) : List Char → Bool
  | a :: b :: c :: rest => a == char && b == char && c == char && endsOr isSpace rest
  | _ => false

/-- A mark between documents stands at the start of a line. -/
def atMark : Scan Bool := fun c =>
  some (c.column == 0 && (isMark '-' c.rest || isMark '.' c.rest), c)

end Gleaner.Yaml
