import Gleaner.Captures
import Gleaner.Text.Utf8

set_option autoImplicit false

/-!
Templates that refer to captured groups: `$0` to `$9` stand for a group, `$$` for a dollar sign.
Any other dollar sign is malformed and stays as it is.
-/
namespace Gleaner

/-- A piece of a template. -/
inductive Piece where
  | char (c : Char)
  | dollar
  | group (index : Nat)
  | malformed (offset : Nat)
  deriving DecidableEq

/-- What a template becomes, and the byte offsets of its malformed dollar signs. -/
structure Expansion where
  text : String
  malformed : List Nat
  deriving DecidableEq

namespace Template

/-- The pieces of a template, where the first character has the given byte offset. -/
def pieces (offset : Nat) : List Char → List Piece
  | [] => []
  | c :: cs =>
      if c = '$' then
        match cs with
        | [] => [.malformed offset]
        | d :: rest =>
            if d = '$' then .dollar :: pieces (offset + 2) rest
            else if Text.isDigit d then .group (Text.digitValue d) :: pieces (offset + 2) rest
            else .malformed offset :: pieces (offset + 1) (d :: rest)
      else .char c :: pieces (offset + c.utf8Size) cs

theorem pieces_plain (offset : Nat) {c : Char} (other : c ≠ '$') (cs : List Char) :
    pieces offset (c :: cs) = .char c :: pieces (offset + c.utf8Size) cs := by
  rw [pieces.eq_def]
  exact if_neg other

theorem pieces_pair (offset : Nat) (cs : List Char) :
    pieces offset ('$' :: '$' :: cs) = .dollar :: pieces (offset + 2) cs := rfl

theorem pieces_reference (offset : Nat) {d : Char} (digit : Text.isDigit d = true)
    (cs : List Char) :
    pieces offset ('$' :: d :: cs) = .group (Text.digitValue d) :: pieces (offset + 2) cs := by
  have other : d ≠ '$' := by
    rintro rfl
    cases digit
  simp only [pieces, ↓reduceIte, if_neg other, if_pos digit]

/-- A dollar sign is malformed before what is neither a dollar sign nor a digit. -/
theorem pieces_stray (offset : Nat) {d : Char} (other : d ≠ '$') (noDigit : ¬Text.isDigit d = true)
    (cs : List Char) :
    pieces offset ('$' :: d :: cs) = .malformed offset :: pieces (offset + 1) (d :: cs) := by
  rw [pieces.eq_def]
  simp only [↓reduceIte, if_neg other, if_neg noDigit]

/-- The text that a piece becomes. -/
def pieceText (captures : Captures) : Piece → List Char
  | .char c => [c]
  | .dollar => ['$']
  | .group index => (captures.get index).toList
  | .malformed _ => ['$']

def malformedOffset? : Piece → Option Nat
  | .malformed offset => some offset
  | _ => none

def groupIndex? : Piece → Option Nat
  | .group index => some index
  | _ => none

/-- Replaces the references of a template by captured text; absent groups are empty. -/
def expand (template : String) (captures : Captures) : Expansion :=
  let ps := pieces 0 template.toList
  ⟨String.ofList (ps.flatMap (pieceText captures)), ps.filterMap malformedOffset?⟩

/-- The groups that a template refers to, in order. -/
def references (template : String) : List Nat :=
  (pieces 0 template.toList).filterMap groupIndex?

/-- The highest group that a template refers to. -/
def highestReference? (template : String) : Option Nat :=
  (references template).max?

end Template

end Gleaner
