import Gleaner.Number.Power
import Gleaner.Tree

set_option autoImplicit false

/-! Typed metadata values. -/
namespace Gleaner

/-- A metadata value; the members of an object are in key order. -/
inductive Value where
  | null
  | boolean (b : Bool)
  | number (x : Binary64)
  | string (s : String)
  | array (items : List Value)
  | object (members : List (String × Value))

/-- The type of a value, without its content. -/
inductive ValueKind where
  | null
  | boolean
  | number
  | string
  | array
  | object
  deriving DecidableEq

def ValueKind.name : ValueKind → String
  | .null => "null"
  | .boolean => "boolean"
  | .number => "number"
  | .string => "string"
  | .array => "array"
  | .object => "object"

namespace Value

instance : Inhabited Value := ⟨.null⟩

def kind : Value → ValueKind
  | .null => .null
  | .boolean _ => .boolean
  | .number _ => .number
  | .string _ => .string
  | .array _ => .array
  | .object _ => .object

/-- The text of a string value. -/
def string? : Value → Option String
  | .string s => some s
  | _ => none

mutual

/-- The value that a piece of a document holds. -/
def ofTree : Tree → Value
  | .null => .null
  | .boolean b => .boolean b
  | .integer n => .number (Binary64.ofInt n)
  | .float x => .number x
  | .text s => .string s
  | .list items => .array (ofTrees items)
  | .table entries => .object (ofEntries entries)

def ofTrees : List Tree → List Value
  | [] => []
  | t :: ts => ofTree t :: ofTrees ts

def ofEntries : List (String × Tree) → List (String × Value)
  | [] => []
  | (key, t) :: es => (key, ofTree t) :: ofEntries es

end

/-- Magnitudes from here on are written as floating point numbers even when they are whole. -/
def wholeLimit : Nat := 9 * tenPow 15

/-- Whole numbers below the limit stay whole in a document. -/
def numberTree (x : Binary64) : Tree :=
  match x.toInt? with
  | some n => if n.natAbs < wholeLimit then .integer n else .float x
  | none => .float x

mutual

/-- The piece of a document that holds a value. -/
def toTree : Value → Tree
  | .null => .null
  | .boolean b => .boolean b
  | .number x => numberTree x
  | .string s => .text s
  | .array items => .list (toTrees items)
  | .object members => .table (toEntries members)

def toTrees : List Value → List Tree
  | [] => []
  | v :: vs => toTree v :: toTrees vs

def toEntries : List (String × Value) → List (String × Tree)
  | [] => []
  | (key, v) :: ms => (key, toTree v) :: toEntries ms

end

end Value

end Gleaner
