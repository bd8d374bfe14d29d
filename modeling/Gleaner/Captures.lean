import Gleaner.Number.Power
import Gleaner.Pattern.Search
import Gleaner.Pattern.Size

set_option autoImplicit false

/-! Compiled patterns, and what their matches capture. -/
namespace Gleaner

/-- The texts of the groups of one match; group 0 is the whole match, groups that took no part in
it are absent. -/
structure Captures where
  groups : List (Option String)
  deriving DecidableEq

namespace Captures

def empty : Captures := ⟨[]⟩

instance : Inhabited Captures := ⟨empty⟩

/-- The text of a group, if the group is there and took part in the match. -/
def get? (c : Captures) (group : Nat) : Option String :=
  (c.groups[group]?).join

/-- The text of a group, empty when it is absent. -/
def get (c : Captures) (group : Nat) : String :=
  (c.get? group).getD ""

def whole (c : Captures) : String := c.get 0

end Captures

/-- A compiled pattern. -/
structure Regex where
  text : String
  program : Pattern.Program

namespace Regex

/-- The memory that a compiled pattern may take, in bytes. -/
def sizeLimit : Nat := 10 * twoPow 20

/-- Compiles a pattern; texts that are no pattern, or whose program would be too large, have no
compiled form. -/
def compile? (text : String) : Option Regex := do
  let e ← Pattern.Expr.read? text
  if e.size ≤ sizeLimit then some ⟨text, Pattern.Program.ofExpr e⟩ else none

/-- How many groups a match has, the whole match included. -/
def groupCount (r : Regex) : Nat := r.program.groups

/-- The stretch of a text that a group covers. -/
def groupText (text : Array Char) (slots : Pattern.Slots) (group : Nat) : Option String :=
  (Pattern.groupSpan slots group).map fun span =>
    String.ofList (text.extract span.start span.stop).toList

def capturesOf (r : Regex) (text : Array Char) (slots : Pattern.Slots) : Captures :=
  ⟨(List.range r.groupCount).map (groupText text slots)⟩

/-- The slots of all matches, one after the other. -/
def allSlots (r : Regex) (text : Array Char) : List Pattern.Slots :=
  Pattern.searchAll r.program text (text.size + 2) 0 none

/-- What the first match captures. -/
def first? (r : Regex) (text : String) : Option Captures :=
  let chars := text.toList.toArray
  (Pattern.searchFrom r.program chars 0).map (r.capturesOf chars)

/-- What each of the matches captures that do not overlap, in the order of the text. -/
def all (r : Regex) (text : String) : List Captures :=
  let chars := text.toList.toArray
  (r.allSlots chars).map (r.capturesOf chars)

theorem head?_allSlots (r : Regex) (text : Array Char) :
    (r.allSlots text).head? = Pattern.searchFrom r.program text 0 := by
  -- No match came before the first, so that an empty one counts.
  have counts : ∀ span : Pattern.Span, (none == some span.stop) = false := fun _ => rfl
  simp only [allSlots, Pattern.searchAll, counts, Bool.and_false]
  cases found : Pattern.searchFrom r.program text 0 with
  | none => rfl
  | some slots => cases spanned : Pattern.groupSpan slots 0 <;> simp [spanned]

theorem head?_all (r : Regex) (text : String) : (r.all text).head? = r.first? text := by
  rw [all, List.head?_map, head?_allSlots]
  rfl

end Regex

end Gleaner
