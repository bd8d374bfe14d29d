set_option autoImplicit false

/-! Reading a text from the front: each reader takes something off, or fails. -/
namespace Gleaner.Text

abbrev Scan := StateT (List Char) Option

namespace Scan

/-- The next character, which stays. -/
def peek? : Scan (Option Char) := fun cs => some (cs.head?, cs)

/-- The next character. -/
def char : Scan Char
  | [] => none
  | c :: cs => some (c, cs)

/-- The next character, if it satisfies `p`. -/
def charIf (p : Char → Bool) : Scan Char
  | [] => none
  | c :: cs => if p c then some (c, cs) else none

/-- Takes the given character off. -/
def exactly (c : Char) : Scan Unit := do
  let _ ← charIf (· == c)

/-- Takes the given word off. -/
def word (w : List Char) : Scan Unit := fun cs =>
  if w.isPrefixOf cs then some ((), cs.drop w.length) else none

/-- The characters up to the first that does not satisfy `p`. -/
def takeWhile (p : Char → Bool) : Scan (List Char) := fun cs => some (cs.span p)

/-- One or more characters that satisfy `p`. -/
def takeSome (p : Char → Bool) : Scan (List Char) := do
  match ← takeWhile p with
  | [] => failure
  | found => pure found

/-- The given number of characters, all of which satisfy `p`. -/
def count (p : Char → Bool) : Nat → Scan (List Char)
  | 0 => pure []
  | n + 1 => do
      let c ← charIf p
      let rest ← count p n
      pure (c :: rest)

/-- Whether the next character satisfies `p`. -/
def isNext (p : Char → Bool) : Scan Bool := fun cs => some ((cs.head?.map p).getD false, cs)

/-- Takes the character off if it is next, and tells so. -/
def skip (c : Char) : Scan Bool
  | [] => some (false, [])
  | d :: cs => if d = c then some (true, cs) else some (false, d :: cs)

/-- Succeeds where nothing is left. -/
def ended : Scan Unit
  | [] => some ((), [])
  | _ => none

/-- What a reader finds in the whole of a text. -/
def whole? {α : Type} (reader : Scan α) (text : String) : Option α :=
  match reader text.toList with
  | some (a, []) => some a
  | _ => none

/-- How much is left to read. -/
def left : Scan Nat := fun cs => some (cs.length, cs)

end Scan

end Gleaner.Text
