import Gleaner.Text.Digits
import Gleaner.Text.Scan

set_option autoImplicit false

/-! The small parts of TOML: blanks, comments, line ends, strings and keys. -/
namespace Gleaner.Toml

open Text Text.Scan

def isSpace (c : Char) : Bool := c == ' ' || c == '\t'

/-- Characters that comments and strings may hold: no controls but the tab. -/
def isPlain (c : Char) : Bool := c == '\t' || (' ' ≤ c && c ≠ '\x7f')

def spaces : Scan Unit := do
  let _ ← takeWhile isSpace

/-- The end of a line; a carriage return counts only before a line feed. -/
def newline : Scan Unit := exactly '\n' <|> word ['\r', '\n']

/-- A comment, if there is one. -/
def comment : Scan Unit := do
  if ← skip '#' then
    let _ ← takeWhile isPlain

/-- Blanks and a comment, up to the end of the line or of the text. -/
def lineEnd : Scan Unit := do
  spaces
  comment
  newline <|> ended

/-- Blanks, comments and line ends, as many as there are. -/
def gap : Nat → Scan Unit
  | 0 => pure ()
  | fuel + 1 => do
      spaces
      if ← isNext (fun c => c == '#' || c == '\n' || c == '\r') then
        comment
        newline
        gap fuel

/-- The character of a code point that is written in the given number of digits. -/
def codePoint (digits : Nat) : Scan Char := do
  let cs ← count (fun c => (hexValue? c).isSome) digits
  match charOf? (ofDigitValues 16 (cs.filterMap hexValue?)) with
  | some c => pure c
  | none => failure

/-- The character that an escape stands for, after its backslash. -/
def escape : Scan Char := do
  match ← char with
  | 'b' => pure '\x08'
  | 't' => pure '\t'
  | 'n' => pure '\n'
  | 'f' => pure '\x0c'
  | 'r' => pure '\r'
  | '"' => pure '"'
  | '\\' => pure '\\'
  | 'u' => codePoint 4
  | 'U' => codePoint 8
  | _ => failure

/-- A string in double quotes, after the first of them. -/
def basic : Nat → Scan (List Char)
  | 0 => failure
  | fuel + 1 => do
      match ← char with
      | '"' => pure []
      | '\\' => do
          let c ← escape
          (c :: ·) <$> basic fuel
      | c => if isPlain c then (c :: ·) <$> basic fuel else failure

/-- A string in single quotes, after the first of them. -/
def literal : Scan (List Char) := do
  let cs ← takeWhile fun c => isPlain c && c ≠ '\''
  exactly '\''
  pure cs

/-- Blanks and line ends after a backslash that ends a line; the first line end has to be there. -/
def joinedLines : Scan Unit := do
  spaces
  newline
  let _ ← takeWhile fun c => isSpace c || c == '\n' || c == '\r'

/-- Up to `limit` quotes, and how many there were. -/
def quotes (quote : Char) : Nat → Scan Nat
  | 0 => pure 0
  | limit + 1 => do
      if ← skip quote then (· + 1) <$> quotes quote limit else pure 0

/-- A string over several lines, after its three opening quotes. Three quotes end it, and up to two
more before those belong to it. -/
def multiline (quote : Char) (escapes : Bool) : Nat → Scan (List Char)
  | 0 => failure
  | fuel + 1 => do
      let found ← quotes quote 5
      if 3 ≤ found then pure (List.replicate (found - 3) quote)
      else if 0 < found then (List.replicate found quote ++ ·) <$> multiline quote escapes fuel
      else (do newline; ('\n' :: ·) <$> multiline quote escapes fuel) <|> (do
        let c ← char
        if escapes && c == '\\' then
          (do joinedLines; multiline quote escapes fuel) <|>
            (do let c ← escape; (c :: ·) <$> multiline quote escapes fuel)
        else if isPlain c then (c :: ·) <$> multiline quote escapes fuel
        else failure)

/-- A line end right after the opening quotes does not count. -/
def firstNewline : Scan Unit := newline <|> pure ()

/-- A string of any of the four kinds. -/
def string : Scan String := do
  let fuel := (← left) + 1
  String.ofList <$> (
    (do word ['"', '"', '"']; firstNewline; multiline '"' true fuel) <|>
    (do word ['\'', '\'', '\'']; firstNewline; multiline '\'' false fuel) <|>
    (do exactly '"'; basic fuel) <|>
    (do exactly '\''; literal))

def isBareKeyChar (c : Char) : Bool := c.isAlphanum || c == '_' || c == '-'

/-- A single key. -/
def simpleKey : Scan String := do
  let fuel := (← left) + 1
  String.ofList <$> (
    (do exactly '"'; basic fuel) <|> (do exactly '\''; literal) <|> takeSome isBareKeyChar)

/-- The most parts of a key, and the most levels of lists and tables in a value. -/
def nestingLimit : Nat := 79

/-- Keys with dots between them. -/
def keyPath : Nat → Scan (List String)
  | 0 => failure
  | limit + 1 => do
      spaces
      let key ← simpleKey
      spaces
      if ← skip '.' then (key :: ·) <$> keyPath limit else pure [key]

def key : Scan (List String) := keyPath nestingLimit

end Gleaner.Toml
