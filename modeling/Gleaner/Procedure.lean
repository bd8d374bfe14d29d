import Gleaner.Value

set_option autoImplicit false

/-! Procedures: where to look, what to look for, what to write, and what to do in each match. -/
namespace Gleaner

/-- The part of a record that an assignment writes. -/
inductive Field where
  | name
  | description
  | detail (key : String)
  | icon
  | fanart
  deriving DecidableEq

namespace Field

/-- Keys other than the four fixed ones name details. -/
def ofKey : String → Field
  | "name" => .name
  | "description" => .description
  | "icon" => .icon
  | "fanart" => .fanart
  | key => .detail key

def key : Field → String
  | .name => "name"
  | .description => "description"
  | .detail key => key
  | .icon => "icon"
  | .fanart => "fanart"

theorem key_ofKey (key : String) : (ofKey key).key = key := by
  unfold ofKey
  split <;> rfl

end Field

/-- Writes a value to a field; strings are templates. -/
structure Assignment where
  field : Field
  value : Value

/-- One rule of an extraction tree. -/
inductive Procedure where
  | node (source searchFor : String) (repeats askUser importing : Bool)
      (assignments : List Assignment) (children : List Procedure)

namespace Procedure

instance : Inhabited Procedure := ⟨.node "" "" false false false [] []⟩

/-- The template of the reference to search in. -/
def source : Procedure → String
  | .node source _ _ _ _ _ _ => source

/-- The template of the pattern to search for. -/
def searchFor : Procedure → String
  | .node _ searchFor _ _ _ _ _ => searchFor

/-- Keeps all matches instead of the first only. -/
def repeats : Procedure → Bool
  | .node _ _ repeats _ _ _ _ => repeats

/-- Lets an operator choose the matches. -/
def askUser : Procedure → Bool
  | .node _ _ _ askUser _ _ _ => askUser

/-- Imports images whatever the options of the scrape say. -/
def importing : Procedure → Bool
  | .node _ _ _ _ importing _ _ => importing

def assignments : Procedure → List Assignment
  | .node _ _ _ _ _ assignments _ => assignments

/-- The rules to run in each match. -/
def children : Procedure → List Procedure
  | .node _ _ _ _ _ _ children => children

end Procedure

end Gleaner
