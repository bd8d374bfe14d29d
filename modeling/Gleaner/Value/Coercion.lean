import Gleaner.Number.Positional
import Gleaner.Text.Blank
import Gleaner.Value

set_option autoImplicit false

/-! Converting a value to the type that is already stored under a key. -/
namespace Gleaner

/-- A value that could not be converted, with the type it was to have. -/
structure Rejection where
  expected : ValueKind
  found : ValueKind
  value : Value

def Rejection.message (r : Rejection) : String :=
  "expected " ++ r.expected.name ++ ", found " ++ r.found.name

namespace Value

/-- The number that a text stands for, blanks around it aside. -/
def parseNumber? (s : String) : Option Binary64 :=
  Binary64.parseFinite? (Text.trimChars s.toList)

/-- Yes and true, no and false, in any case, blanks around them aside. -/
def parseBoolean? (s : String) : Option Bool :=
  let word := Text.lowerAscii (Text.trim s)
  if word = "yes" ∨ word = "true" then some true
  else if word = "no" ∨ word = "false" then some false
  else none

def reject (expected : ValueKind) (value : Value) : Except Rejection Value :=
  .error ⟨expected, value.kind, value⟩

/-- A scalar as text; lists, objects and null have none. -/
def asString : Value → Except Rejection Value
  | .string s => .ok (.string s)
  | .number x => .ok (.string x.display)
  | .boolean b => .ok (.string (if b then "Yes" else "No"))
  | value => reject .string value

def asNumber : Value → Except Rejection Value
  | .string s =>
      match parseNumber? s with
      | some x => .ok (.number x)
      | none => reject .number (.string s)
  | .number x => .ok (.number x)
  | .boolean b => .ok (.number (Binary64.ofNat (if b then 1 else 0)))
  | value => reject .number value

/-- A number counts as true unless it is zero. -/
def asBoolean : Value → Except Rejection Value
  | .string s =>
      match parseBoolean? s with
      | some b => .ok (.boolean b)
      | none => reject .boolean (.string s)
  | .number x => .ok (.boolean (!x.isZero))
  | .boolean b => .ok (.boolean b)
  | value => reject .boolean value

/-- Converts `incoming` to the type of what is stored: scalars keep their type, an array grows at
its end, and whatever else there is, or nothing, is replaced. -/
def coerce (existing : Option Value) (incoming : Value) : Except Rejection Value :=
  match existing with
  | none => .ok incoming
  | some .null => .ok incoming
  | some (.object _) => .ok incoming
  | some (.array items) => .ok (.array (items ++ [incoming]))
  | some (.string _) => asString incoming
  | some (.number _) => asNumber incoming
  | some (.boolean _) => asBoolean incoming

/-- The text of a scalar. -/
def intoText (v : Value) : Except Rejection String :=
  match asString v with
  | .ok (.string s) => .ok s
  | .ok other => .error ⟨.string, other.kind, other⟩
  | .error r => .error r

end Value

end Gleaner
