import Gleaner.Number.Positional
import Gleaner.Number.Power
import Gleaner.Text.Parts
import Gleaner.Tree
import Gleaner.Yaml.Tag

set_option autoImplicit false

/-! What a YAML scalar stands for: one without quotes and tag may be more than a text. -/
namespace Gleaner.Yaml

/-- Zeros before digits make a text of what would be a number. -/
def isZeroPadded (cs : List Char) : Bool :=
  match cs with
  | '+' :: '0' :: d :: ds => (d :: ds).all Text.isDigit
  | '-' :: '0' :: d :: ds => (d :: ds).all Text.isDigit
  | '0' :: d :: ds => (d :: ds).all Text.isDigit
  | _ => false

/-- The number that one or more digits of a base spell. -/
def natural? (base : Nat) (cs : List Char) : Option Nat := do
  let digits ← cs.mapM Text.hexValue?
  if digits.isEmpty || !digits.all (fun d => decide (d < base)) then none
  else some (Text.ofDigitValues base digits)

/-- Digits in the base that their mark tells. -/
def magnitude? : List Char → Option Nat
  | '0' :: 'x' :: cs => natural? 16 cs
  | '0' :: 'o' :: cs => natural? 8 cs
  | '0' :: 'b' :: cs => natural? 2 cs
  | cs => natural? 10 cs

/-- A whole number, perhaps with a sign. -/
def integer? (cs : List Char) : Option Int :=
  if isZeroPadded cs then none
  else match cs with
    | '-' :: cs => (magnitude? cs).map fun n => -(n : Int)
    | '+' :: cs => (magnitude? cs).map fun n => (n : Int)
    | cs => (magnitude? cs).map fun n => (n : Int)

/-- Whole numbers of 128 bits are numbers, though only those of 64 bits can be held. -/
def wholeNumber? (cs : List Char) : Option Int := (integer? cs).filter (fitsWord 128)

def infinityNames : List String := [".inf", ".Inf", ".INF"]

def float? (text : String) : Option Binary64 :=
  let magnitude := Text.withoutStart "+" text
  if infinityNames.contains magnitude then some (.infinite false)
  else if infinityNames.any fun name => text == "-" ++ name then some (.infinite true)
  else if [".nan", ".NaN", ".NAN"].contains text then some .nan
  else if magnitude ≠ text ∧ (Text.startsWith "+" magnitude ∨ Text.startsWith "-" magnitude) then none
  else Binary64.parseFinite? magnitude.toList

def boolean? (text : String) : Option Bool :=
  if ["true", "True", "TRUE"].contains text then some true
  else if ["false", "False", "FALSE"].contains text then some false
  else none

def isNull (text : String) : Bool := ["null", "Null", "NULL", "~"].contains text

/-- A whole number as a tree; none when it is too large to be held. -/
def integerTree? (n : Int) : Option Tree :=
  if fitsWord 64 n then some (.integer n) else none

/-- What a scalar without quotes stands for. -/
def plainTree? (text : String) : Option Tree :=
  if text.isEmpty || isNull text then some .null
  else match boolean? text with
    | some b => some (.boolean b)
    | none =>
        match wholeNumber? text.toList with
        | some n => integerTree? n
        | none =>
            if isZeroPadded text.toList then some (.text text)
            else some (((float? text).map Tree.float).getD (.text text))

/-- The tags with a rule of their own. -/
def coreTag (name : String) : List UInt8 := bytesOf ("tag:yaml.org,2002:" ++ name)

/-- What a scalar stands for. A tag for a type asks for a text of that type; other tags, and quotes,
make it a text. -/
def scalarTree? (tag : Option (List UInt8)) (isPlain : Bool) (text : String) : Option Tree :=
  match tag with
  | none => if isPlain then plainTree? text else some (.text text)
  | some tag =>
      if isLocalTag tag then none
      else if tag = coreTag "bool" then (boolean? text).map Tree.boolean
      else if tag = coreTag "int" then (wholeNumber? text.toList).bind integerTree?
      else if tag = coreTag "float" then (float? text).map Tree.float
      else if tag = coreTag "null" then (if isNull text then some .null else none)
      else if tag.head? = some 0x21 ∧ isPlain then plainTree? text
      else some (.text text)

end Gleaner.Yaml
