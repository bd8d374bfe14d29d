import Gleaner.Text.Parts

set_option autoImplicit false

/-!
Paths with slashes. Repeated slashes and single dots in a path, and a slash at its end, name nothing
of their own.
-/
namespace Gleaner.Path

/-- A step of a path. -/
inductive Component where
  | root
  /-- The dot that a relative path starts with. -/
  | current
  | parent
  | entry (name : String)
  deriving DecidableEq

def isAbsolute (path : String) : Bool := Text.startsWith "/" path

/-- The stretches between slashes. -/
def stretches (path : String) : List String := Text.split (· == '/') path

def component? : String → Option Component
  | "" => none
  | "." => none
  | ".." => some .parent
  | name => some (.entry name)

/-- The steps of a path. -/
def components (path : String) : List Component :=
  let parts := stretches path
  let start := if isAbsolute path then [.root] else if parts.head? = some "." then [.current] else []
  start ++ parts.filterMap component?

/-- The entry that a path ends in. -/
def fileName? (path : String) : Option String :=
  match (components path).getLast? with
  | some (.entry name) => some name
  | _ => none

/-- The part of a name after its last dot, unless that dot starts the name. -/
def extensionOfName? (name : String) : Option String :=
  match Text.split (· == '.') name with
  | [] => none
  | [_] => none
  | ["", _] => none
  | parts => parts.getLast?

def extension? (path : String) : Option String :=
  (fileName? path).bind extensionOfName?

/-- Puts a path behind another; an absolute path stands alone. -/
def join (base path : String) : String :=
  if isAbsolute path then path
  else if base.isEmpty || Text.endsWith "/" base then base ++ path
  else base ++ "/" ++ path

/-- Where a step comes in the order of paths. -/
def rank : Component → Nat
  | .root => 0
  | .current => 1
  | .parent => 2
  | .entry _ => 3

/-- Paths are ordered step by step, entries by their bytes. -/
def lessComponents : List Component → List Component → Bool
  | _, [] => false
  | [], _ :: _ => true
  | .entry a :: as, .entry b :: bs => decide (a < b) || (a == b && lessComponents as bs)
  | a :: as, b :: bs => decide (rank a < rank b) || (a == b && lessComponents as bs)

def less (a b : String) : Bool := lessComponents (components a) (components b)

end Gleaner.Path
