import Gleaner.Number.Positional
import Gleaner.Number.Power
import Gleaner.Text.Blank
import Gleaner.Text.Parts
import Gleaner.Text.Scan
import Gleaner.Tree

set_option autoImplicit false

/-!
The values of environment variables. A value may be a truth value, a number, a text in quotes, a list
or a table; one that does not read as such is a text as it stands.
-/
namespace Gleaner.Variable

open Text Text.Scan

/-- The white space of ASCII, without the vertical tab. -/
def isSpace (c : Char) : Bool :=
  c == ' ' || c == '\t' || c == '\n' || c == '\x0c' || c == '\r'

def isSeparator (c : Char) : Bool :=
  c == ',' || c == '\x7b' || c == '\x7d' || c == '[' || c == ']'

def isKeyChar (c : Char) : Bool := c.isAlphanum || c == '_' || c == '-'

def spaces : Scan Unit := do
  let _ ← takeWhile isSpace

/-- The character of a code point that is written in the given number of digits. -/
def codePoint (digits : Nat) : Scan Char := do
  let cs ← count (fun c => (hexValue? c).isSome) digits
  match charOf? (ofDigitValues 16 (cs.filterMap hexValue?)) with
  | some c => pure c
  | none => failure

/-- The character that an escape stands for, after its backslash. -/
def escape : Scan Char := do
  match ← char with
  | 'b' => pure '\x08'
  | 'f' => pure '\x0c'
  | 'n' => pure '\n'
  | 'r' => pure '\r'
  | 't' => pure '\t'
  | '"' => pure '"'
  | '\\' => pure '\\'
  | 'u' => codePoint 4
  | 'U' => codePoint 8
  | _ => failure

/-- A text in double quotes, after the first of them. -/
def quoted : Nat → Scan (List Char)
  | 0 => failure
  | fuel + 1 => do
      match ← char with
      | '"' => pure []
      | '\\' => do
          let c ← escape
          (c :: ·) <$> quoted fuel
      | c => (c :: ·) <$> quoted fuel

def quotedText : Scan String := do
  exactly '"'
  String.ofList <$> quoted ((← left) + 1)

/-- One character in single quotes. -/
def quotedChar : Scan String := do
  exactly '\''
  let c ← char
  exactly '\''
  pure c.toString

/-- A whole number of 64 bits, with or without a sign. -/
def integer? (cs : List Char) : Option Int :=
  let (negative, digits) := match cs with
    | '+' :: digits => (false, digits)
    | '-' :: digits => (true, digits)
    | digits => (false, digits)
  if digits.isEmpty || !digits.all isDigit then none
  else
    let n : Int := if negative then -(ofDigits digits : Int) else ofDigits digits
    if fitsWord 64 n then some n else none

/-- A number with a point among its digits. -/
def float? (cs : List Char) : Option Binary64 :=
  if cs.contains '.' then (Binary64.numeral? cs).map Binary64.Numeral.value else none

/-- What a value without quotes and brackets stands for. -/
def bare (cs : List Char) : Tree :=
  let cs := trimChars cs
  match float? cs with
  | some x => .float x
  | none =>
      match integer? cs with
      | some n => .integer n
      | none => .text (String.ofList cs)

/-- A key before an equals sign. -/
def key : Scan String := do
  spaces
  let key ← if ← isNext (· == '"') then quotedText else String.ofList <$> takeSome isKeyChar
  spaces
  exactly '='
  pure key

mutual

/-- A value with white space around it. -/
def value : Nat → Scan Tree
  | 0 => failure
  | fuel + 1 => do
      spaces
      let tree ← valueHere fuel
      spaces
      pure tree

def valueHere : Nat → Scan Tree
  | 0 => failure
  | fuel + 1 =>
      (do word "true".toList; pure (.boolean true)) <|>
      (do word "false".toList; pure (.boolean false)) <|>
      (do
        match ← peek? with
        | some '\x7b' => exactly '\x7b'; Tree.tableOf <$> entries fuel
        | some '[' => exactly '['; Tree.list <$> items fuel
        | some '"' => Tree.text <$> quotedText
        | some '\'' => Tree.text <$> quotedChar
        | _ => bare <$> takeWhile fun c => !isSeparator c)

/-- The items of a list after its bracket; a comma may follow the last. -/
def items : Nat → Scan (List Tree)
  | 0 => failure
  | fuel + 1 => do
      if ← skip ']' then pure []
      else
        let first ← value fuel
        if ← skip ',' then (first :: ·) <$> items fuel
        else
          exactly ']'
          pure [first]

/-- The entries of a table after its bracket; a comma may follow the last. -/
def entries : Nat → Scan (List (String × Tree))
  | 0 => failure
  | fuel + 1 => do
      if ← skip '\x7d' then pure []
      else
        let key ← key
        spaces
        let tree ← value fuel
        if ← skip ',' then ((key, tree) :: ·) <$> entries fuel
        else
          exactly '\x7d'
          pure [(key, tree)]

end

/-- What the value of a variable stands for. -/
def read (text : String) : Tree :=
  (whole? (value (3 * text.length + 3)) text).getD (.text text)

end Gleaner.Variable
