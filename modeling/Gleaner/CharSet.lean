set_option autoImplicit false

/-! Sets of code points as disjoint ranges in increasing order. -/
namespace Gleaner

/-- The code points of the ranges, bounds included. -/
structure CharSet where
  ranges : Array (Nat × Nat)

namespace CharSet

def highest : Nat := 0x10ffff

def empty : CharSet := ⟨#[]⟩

def full : CharSet := ⟨#[(0, highest)]⟩

/-- Joins ranges that touch or overlap, in a list sorted by first code point. -/
def merge : List (Nat × Nat) → List (Nat × Nat)
  | [] => []
  | [r] => [r]
  | a :: b :: rest =>
      if b.1 ≤ a.2 + 1 then merge ((a.1, max a.2 b.2) :: rest) else a :: merge (b :: rest)
  termination_by rs => rs.length

/-- The set of the code points in any of the ranges. -/
def ofRanges (rs : List (Nat × Nat)) : CharSet :=
  let proper := rs.filter fun r => r.1 ≤ r.2
  ⟨(merge (proper.mergeSort fun a b => a.1 ≤ b.1)).toArray⟩

def single (c : Char) : CharSet := ⟨#[(c.toNat, c.toNat)]⟩

/-- Looks for a code point in the ranges from `low` on and before `high`. -/
def searchRange (s : CharSet) (n : Nat) : Nat → Nat → Nat → Bool
  | 0, _, _ => false
  | fuel + 1, low, high =>
      if low < high then
        let middle := (low + high) / 2
        match s.ranges[middle]? with
        | none => false
        | some (first, last) =>
            if n < first then searchRange s n fuel low middle
            else if last < n then searchRange s n fuel (middle + 1) high
            else true
      else false

def containsCode (s : CharSet) (n : Nat) : Bool :=
  s.searchRange n (s.ranges.size + 1) 0 s.ranges.size

def contains (s : CharSet) (c : Char) : Bool :=
  s.containsCode c.toNat

def union (a b : CharSet) : CharSet :=
  ofRanges (a.ranges.toList ++ b.ranges.toList)

/-- The gaps between ranges, from `start` on. -/
def gaps (start : Nat) : List (Nat × Nat) → List (Nat × Nat)
  | [] => if start ≤ highest then [(start, highest)] else []
  | r :: rs =>
      if start < r.1 then (start, r.1 - 1) :: gaps (r.2 + 1) rs else gaps (r.2 + 1) rs

def complement (s : CharSet) : CharSet :=
  ⟨(gaps 0 s.ranges.toList).toArray⟩

def intersection (a b : CharSet) : CharSet :=
  (a.complement.union b.complement).complement

def difference (a b : CharSet) : CharSet :=
  a.intersection b.complement

def symmetricDifference (a b : CharSet) : CharSet :=
  (a.union b).difference (a.intersection b)

def isAscii (s : CharSet) : Bool :=
  s.ranges.all fun r => r.2 < 0x80

end CharSet

end Gleaner
