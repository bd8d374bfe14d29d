import Gleaner.Number.Shortest
import Gleaner.Text.Digits
import Gleaner.Tree

set_option autoImplicit false

/-! Writing JSON text, on one line or indented by two blanks a level. -/
namespace Gleaner.Json

/-- How floating point numbers are written: positionally within these exponents of the leading
digit, always with a fraction, otherwise with a signed exponent. -/
structure FloatFormat where
  lowest : Int
  highest : Int
  tie : Binary64.Tie

def floatFormat : FloatFormat := ⟨-5, 15, .even⟩

def writeMagnitude (f : FloatFormat) (d : Decimal) : List Char :=
  let digits := Text.decimalDigits d.coefficient
  let leading : Int := d.exponent + (digits.length - 1 : Nat)
  if f.lowest ≤ leading ∧ leading ≤ f.highest then
    if 0 ≤ d.exponent then
      digits ++ List.replicate d.exponent.toNat '0' ++ ['.', '0']
    else if 0 ≤ leading then
      let n := leading.toNat + 1
      digits.take n ++ '.' :: digits.drop n
    else '0' :: '.' :: (List.replicate (-leading - 1).toNat '0' ++ digits)
  else
    let mantissa := match digits with
      | [d] => [d]
      | d :: ds => d :: '.' :: ds
      | [] => []
    let sign := if leading < 0 then '-' else '+'
    mantissa ++ 'e' :: sign :: Text.decimalDigits leading.natAbs

/-- Numbers that are not finite have no JSON form and become null. -/
def writeFloat : Binary64 → List Char
  | .finite negative rank =>
      let magnitude := writeMagnitude floatFormat (Binary64.shortest floatFormat.tie rank)
      if negative then '-' :: magnitude else magnitude
  | _ => "null".toList

def writeInteger (n : Int) : List Char :=
  if n < 0 then '-' :: Text.decimalDigits n.natAbs else Text.decimalDigits n.natAbs

/-- Quotes, backslashes and control characters are escaped. -/
def escapeChar (c : Char) : List Char :=
  if c = '"' then ['\\', '"']
  else if c = '\\' then ['\\', '\\']
  else if c = '\n' then ['\\', 'n']
  else if c = '\r' then ['\\', 'r']
  else if c = '\t' then ['\\', 't']
  else if c = '\x08' then ['\\', 'b']
  else if c = '\x0c' then ['\\', 'f']
  else if c.toNat < 0x20 then '\\' :: 'u' :: Text.hexDigits 4 c.toNat
  else [c]

def writeText (s : String) : List Char :=
  '"' :: (s.toList.flatMap escapeChar ++ ['"'])

/-- Puts a separator between texts. -/
def joinWith (separator : List Char) : List (List Char) → List Char
  | [] => []
  | [x] => x
  | x :: xs => x ++ separator ++ joinWith separator xs

/-- The layout: what stands before an item at a level, and after the colon of an entry. -/
structure Layout where
  lineBreak : Nat → List Char
  afterColon : List Char

def compact : Layout := ⟨fun _ => [], []⟩

def indented : Layout := ⟨fun level => '\n' :: List.replicate (2 * level) ' ', [' ']⟩

def bracketed (layout : Layout) (level : Nat) (opening closing : Char) (items : List (List Char)) :
    List Char :=
  if items.isEmpty then [opening, closing]
  else
    opening :: (layout.lineBreak (level + 1) ++
      (joinWith (',' :: layout.lineBreak (level + 1)) items ++
        (layout.lineBreak level ++ [closing])))

mutual

def writeAt (layout : Layout) (level : Nat) : Tree → List Char
  | .null => "null".toList
  | .boolean b => if b then "true".toList else "false".toList
  | .integer n => writeInteger n
  | .float x => writeFloat x
  | .text s => writeText s
  | .list items => bracketed layout level '[' ']' (writeItems layout (level + 1) items)
  | .table entries => bracketed layout level '\x7b' '\x7d' (writeEntries layout (level + 1) entries)

def writeItems (layout : Layout) (level : Nat) : List Tree → List (List Char)
  | [] => []
  | x :: xs => writeAt layout level x :: writeItems layout level xs

def writeEntries (layout : Layout) (level : Nat) : List (String × Tree) → List (List Char)
  | [] => []
  | (key, x) :: es =>
      (writeText key ++ ':' :: (layout.afterColon ++ writeAt layout level x)) ::
        writeEntries layout level es

end

def write (t : Tree) : String :=
  String.ofList (writeAt compact 0 t)

def writeIndented (t : Tree) : String :=
  String.ofList (writeAt indented 0 t)

end Gleaner.Json
