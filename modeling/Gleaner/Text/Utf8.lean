import Gleaner.Number.Power

set_option autoImplicit false

/-!
Text as UTF-8: how many bytes a character takes, and the reading of bytes that need not be
well formed, where each maximal ill-formed stretch becomes one U+FFFD.
-/
namespace Gleaner.Text

/-- The bytes that the UTF-8 form of the characters takes. -/
def byteLength : List Char → Nat
  | [] => 0
  | c :: cs => c.utf8Size + byteLength cs

@[simp] theorem byteLength_nil : byteLength [] = 0 := rfl

@[simp] theorem byteLength_cons (c : Char) (cs : List Char) :
    byteLength (c :: cs) = c.utf8Size + byteLength cs := rfl

theorem byteLength_append (a b : List Char) :
    byteLength (a ++ b) = byteLength a + byteLength b := by
  induction a with
  | nil => simp
  | cons c a ih => simp [ih, Nat.add_assoc]

def replacement : Char := Char.ofNat 0xfffd

/-- The second bytes that may follow a lead byte, and how many bytes follow it in all. -/
def continuation (lead : Nat) : Option (Nat × Nat × Nat) :=
  if 0xc2 ≤ lead ∧ lead ≤ 0xdf then some (0x80, 0xbf, 1)
  else if lead = 0xe0 then some (0xa0, 0xbf, 2)
  else if lead = 0xed then some (0x80, 0x9f, 2)
  else if 0xe1 ≤ lead ∧ lead ≤ 0xef then some (0x80, 0xbf, 2)
  else if lead = 0xf0 then some (0x90, 0xbf, 3)
  else if lead = 0xf4 then some (0x80, 0x8f, 3)
  else if 0xf1 ≤ lead ∧ lead ≤ 0xf3 then some (0x80, 0xbf, 3)
  else none

/-- The longest run of continuation bytes, at most `n`, the first of them in `[low, high]`. -/
def continuationRun (low high : Nat) : Nat → List UInt8 → List Nat
  | 0, _ => []
  | _, [] => []
  | n + 1, b :: bs =>
      if low ≤ b.toNat ∧ b.toNat ≤ high then b.toNat :: continuationRun 0x80 0xbf n bs else []

/-- The first character of a non-empty byte string, absent where the bytes are ill-formed, and how
many bytes after the first it takes. -/
def decodeFirst (b : UInt8) (bs : List UInt8) : Option Char × Nat :=
  if b.toNat < 0x80 then (some (Char.ofNat b.toNat), 0)
  else match continuation b.toNat with
    | none => (none, 0)
    | some (low, high, n) =>
        let run := continuationRun low high n bs
        if run.length = n then
          let lead := b.toNat % twoPow (6 - n)
          (some (Char.ofNat (run.foldl (fun acc x => acc * 64 + x % 64) lead)), n)
        else (none, run.length)

/-- The characters of a text, absent for ill-formed stretches. -/
def decodeChars : List UInt8 → List (Option Char)
  | [] => []
  | b :: bs =>
      let first := decodeFirst b bs
      first.1 :: decodeChars (bs.drop first.2)
  termination_by bytes => bytes.length
  decreasing_by simp only [List.length_drop, List.length_cons]; omega

/-- Reads bytes as text, ill-formed stretches as U+FFFD. -/
def decodeLossy (bytes : List UInt8) : String :=
  String.ofList ((decodeChars bytes).map fun c => c.getD replacement)

/-- Reads bytes as text, if they are well-formed. -/
def decode? (bytes : List UInt8) : Option String :=
  ((decodeChars bytes).mapM id).map String.ofList

end Gleaner.Text
