import Gleaner.Template
import Mathlib.Data.List.DropRight
import Mathlib.Data.String.Basic

set_option autoImplicit false

/-!
Templates one after the other. What stands after a template changes nothing in it, unless the
template ends in a dollar sign that is not one of a pair. And a text whose dollar signs are doubled
is a template of that very text. Main statement: `Template.expand_escaped_and_append`.
-/
namespace Gleaner

theorem Text.utf8ByteSize_eq (text : String) : text.utf8ByteSize = byteLength text.toList := by
  have lists : ∀ cs, String.utf8Len cs = byteLength cs := by
    intro cs
    induction cs with
    | nil => rfl
    | cons c cs ih => rw [String.utf8Len_cons, byteLength_cons, ih, Nat.add_comm]
  rw [← lists, ← String.utf8ByteSize_ofList, String.ofList_toList]

/-- The piece as it is when its template starts so many bytes later. -/
def Piece.shift (bytes : Nat) : Piece → Piece
  | .malformed offset => .malformed (bytes + offset)
  | piece => piece

namespace Template

theorem pieces_shift (bytes offset : Nat) (cs : List Char) :
    pieces (bytes + offset) cs = (pieces offset cs).map (Piece.shift bytes) := by
  induction offset, cs using pieces.induct with
  | case1 offset => rfl
  | case2 offset => rfl
  | case3 offset cs ih =>
    rw [pieces_pair, pieces_pair, Nat.add_assoc, ih]
    rfl
  | case4 offset d cs other digit ih =>
    rw [pieces_reference _ digit, pieces_reference _ digit, Nat.add_assoc, ih]
    rfl
  | case5 offset d cs other noDigit ih =>
    rw [pieces_stray _ other noDigit, pieces_stray _ other noDigit, Nat.add_assoc, ih]
    rfl
  | case6 offset c cs other ih =>
    rw [pieces_plain _ other, pieces_plain _ other, Nat.add_assoc, ih]
    rfl

theorem pieceText_shift (captures : Captures) (bytes : Nat) (piece : Piece) :
    pieceText captures (piece.shift bytes) = pieceText captures piece := by
  cases piece <;> rfl

theorem groupIndex?_shift (bytes : Nat) (piece : Piece) :
    groupIndex? (piece.shift bytes) = groupIndex? piece := by
  cases piece <;> rfl

theorem malformedOffset?_shift (bytes : Nat) (piece : Piece) :
    malformedOffset? (piece.shift bytes) = (malformedOffset? piece).map (bytes + ·) := by
  cases piece <;> rfl

/-- How many dollar signs a text ends with. -/
def trailingDollars (cs : List Char) : Nat := (cs.rtakeWhile (· == '$')).length

theorem trailingDollars_le (cs : List Char) : trailingDollars cs ≤ cs.length := by
  have short := (List.takeWhile_prefix (· == '$') (l := cs.reverse)).length_le
  simpa only [trailingDollars, List.rtakeWhile, List.length_reverse] using short

/-- One more character in front counts only if there is nothing but dollar signs. -/
theorem trailingDollars_cons (c : Char) (cs : List Char) :
    trailingDollars (c :: cs) =
      if trailingDollars cs = cs.length ∧ c = '$' then cs.length + 1 else trailingDollars cs := by
  simp only [trailingDollars, List.rtakeWhile, List.length_reverse, List.reverse_cons,
    List.takeWhile_append]
  by_cases all : (cs.reverse.takeWhile (· == '$')).length = cs.length
  · by_cases dollar : c = '$'
    · simp [all, dollar]
    · simp [all, dollar]
  · simp [all]

theorem trailingDollars_of_ne {c : Char} (other : c ≠ '$') (cs : List Char) :
    trailingDollars (c :: cs) = trailingDollars cs := by
  rw [trailingDollars_cons, if_neg (fun both => other both.2)]

theorem trailingDollars_pair (cs : List Char) :
    trailingDollars ('$' :: '$' :: cs) % 2 = trailingDollars cs % 2 := by
  have bound := trailingDollars_le cs
  simp only [trailingDollars_cons, List.length_cons, and_true]
  split_ifs <;> omega

/-- A dollar sign before something else is not at the end. -/
theorem trailingDollars_inner {d : Char} (other : d ≠ '$') (cs : List Char) :
    trailingDollars ('$' :: d :: cs) = trailingDollars (d :: cs) := by
  have bound := trailingDollars_le cs
  have same := trailingDollars_of_ne other cs
  have short : trailingDollars (d :: cs) ≠ (d :: cs).length := by
    rw [same, List.length_cons]
    omega
  rw [trailingDollars_cons, if_neg (fun both => short both.1)]

theorem utf8Size_of_isDigit {d : Char} (digit : Text.isDigit d = true) : d.utf8Size = 1 := by
  have bounds := Bool.and_eq_true_iff.1 digit
  have low : d.val ≤ 0x39 := of_decide_eq_true bounds.2
  have ascii : d.val ≤ 0x7f := UInt32.le_trans low (by decide)
  exact if_pos ascii

/-- The pieces of a template that does not end in a dollar sign of its own stay as they are,
whatever follows. -/
theorem pieces_append {cs : List Char} (closed : trailingDollars cs % 2 = 0) (offset : Nat)
    (rest : List Char) :
    pieces offset (cs ++ rest) = pieces offset cs ++ pieces (offset + Text.byteLength cs) rest := by
  have one : ('$' : Char).utf8Size = 1 := rfl
  induction offset, cs using pieces.induct with
  | case1 offset => rfl
  | case2 offset =>
    -- A dollar sign of its own at the end would take what follows.
    cases closed
  | case3 offset cs ih =>
    rw [trailingDollars_pair] at closed
    have size : offset + Text.byteLength ('$' :: '$' :: cs) = offset + 2 + Text.byteLength cs := by
      simp only [Text.byteLength_cons, one]
      omega
    rw [size, List.cons_append, List.cons_append, pieces_pair, pieces_pair, ih closed]
    rfl
  | case4 offset d cs other digit ih =>
    rw [trailingDollars_inner other, trailingDollars_of_ne other] at closed
    have size : offset + Text.byteLength ('$' :: d :: cs) = offset + 2 + Text.byteLength cs := by
      simp only [Text.byteLength_cons, one, utf8Size_of_isDigit digit]
      omega
    rw [size, List.cons_append, List.cons_append, pieces_reference _ digit,
      pieces_reference _ digit, ih closed]
    rfl
  | case5 offset d cs other noDigit ih =>
    rw [trailingDollars_inner other] at closed
    have size : offset + Text.byteLength ('$' :: d :: cs) =
        offset + 1 + Text.byteLength (d :: cs) := by
      rw [Text.byteLength_cons, one, Nat.add_assoc]
    rw [size, List.cons_append, List.cons_append, pieces_stray _ other noDigit,
      pieces_stray _ other noDigit, ← List.cons_append, ih closed]
    rfl
  | case6 offset c cs other ih =>
    rw [trailingDollars_of_ne other] at closed
    have size : offset + Text.byteLength (c :: cs) =
        offset + c.utf8Size + Text.byteLength cs := by
      rw [Text.byteLength_cons, Nat.add_assoc]
    rw [size, List.cons_append, pieces_plain _ other, pieces_plain _ other, ih closed]
    rfl

/-- The text with each dollar sign written twice. -/
def escaped (text : String) : String :=
  String.ofList (text.toList.flatMap fun c => if c = '$' then ['$', '$'] else [c])

theorem pieces_escaped (offset : Nat) (cs : List Char) :
    pieces offset (cs.flatMap fun c => if c = '$' then ['$', '$'] else [c]) =
      cs.map fun c => if c = '$' then .dollar else .char c := by
  induction cs generalizing offset with
  | nil => rfl
  | cons c cs ih =>
    rw [List.flatMap_cons, List.map_cons]
    by_cases dollar : c = '$'
    · rw [if_pos dollar, if_pos dollar]
      exact congrArg (Piece.dollar :: ·) (ih (offset + 2))
    · rw [if_neg dollar, if_neg dollar, List.singleton_append, pieces_plain _ dollar, ih]

theorem expand_escaped (text : String) (captures : Captures) :
    expand (escaped text) captures = ⟨text, []⟩ := by
  have found := pieces_escaped 0 text.toList
  have texts : ∀ c ∈ text.toList,
      pieceText captures (if c = '$' then .dollar else .char c) = [c] := by
    intro c _
    by_cases dollar : c = '$'
    · rw [if_pos dollar, dollar]
      rfl
    · rw [if_neg dollar]
      rfl
  have clean : ∀ c ∈ text.toList,
      malformedOffset? (if c = '$' then .dollar else .char c) = none := by
    intro c _
    by_cases dollar : c = '$'
    · rw [if_pos dollar]
      rfl
    · rw [if_neg dollar]
      rfl
  simp only [expand, escaped, String.toList_ofList, found, List.flatMap_map, List.filterMap_map]
  rw [List.flatMap_congr texts, List.flatMap_singleton', String.ofList_toList]
  exact congrArg _ (List.filterMap_eq_nil_iff.2 clean)

/-- The highest of two lists of groups is the higher one of either. -/
theorem max?_append (xs ys : List Nat) : (xs ++ ys).max? = max xs.max? ys.max? := by
  induction xs with
  | nil =>
    rw [List.nil_append, List.max?_nil]
    cases ys.max? <;> rfl
  | cons x xs ih =>
    rw [List.cons_append, List.max?_cons, List.max?_cons, ih]
    cases xs.max? with
    | none => cases ys.max? <;> rfl
    | some highest =>
      cases ys.max? with
      | none => rfl
      | some other => exact congrArg some (Nat.max_assoc x highest other).symm

/-- A text whose dollar signs are doubled is expanded to itself. Of two templates, the first of
which does not end in an odd number of dollar signs, each is expanded as it is alone: the texts
follow one another, and so do the offsets, those of the second after the bytes of the first. -/
theorem expand_escaped_and_append :
    (∀ text captures, expand (escaped text) captures = ⟨text, []⟩) ∧
    ∀ a b : String, trailingDollars a.toList % 2 = 0 →
      (∀ captures,
        (expand (a ++ b) captures).text = (expand a captures).text ++ (expand b captures).text ∧
        (expand (a ++ b) captures).malformed =
          (expand a captures).malformed ++
            (expand b captures).malformed.map (a.utf8ByteSize + ·)) ∧
      highestReference? (a ++ b) = max (highestReference? a) (highestReference? b) := by
  refine ⟨expand_escaped, fun a b closed => ?_⟩
  have parts : pieces 0 (a ++ b).toList =
      pieces 0 a.toList ++ (pieces 0 b.toList).map (Piece.shift a.utf8ByteSize) := by
    rw [String.toList_append, pieces_append closed, ← pieces_shift, Text.utf8ByteSize_eq,
      Nat.zero_add, Nat.add_zero]
  refine ⟨fun captures => ⟨?_, ?_⟩, ?_⟩
  · simp only [expand, parts, List.flatMap_append, List.flatMap_map, pieceText_shift,
      String.ofList_append]
  · simp only [expand, parts, List.filterMap_append, List.filterMap_map, List.map_filterMap,
      Function.comp_def, malformedOffset?_shift]
  · simp only [highestReference?, references, parts, List.filterMap_append, List.filterMap_map,
      Function.comp_def, groupIndex?_shift, max?_append]

/-- Where two templates meet in a run of three dollar signs, each still keeps to its own. -/
theorem expand_escaped_and_append_price :
    let captures : Captures := ⟨[none, some "nine"]⟩
    trailingDollars "€$$".toList % 2 = 0 ∧
      (expand ("€$$" ++ "$1 $x") captures).text = "€$nine $x" ∧
      (expand ("€$$" ++ "$1 $x") captures).malformed = [8] ∧
      highestReference? ("€$$" ++ "$1 $x") = some 1 := by
  intro captures
  have closed : trailingDollars "€$$".toList % 2 = 0 := by decide +kernel
  obtain ⟨expansions, highest⟩ := expand_escaped_and_append.2 "€$$" "$1 $x" closed
  obtain ⟨text, malformed⟩ := expansions captures
  have front : expand "€$$" captures = ⟨"€$", []⟩ := by decide +kernel
  have back : expand "$1 $x" captures = ⟨"nine $x", [3]⟩ := by decide +kernel
  have bytes : "€$$".utf8ByteSize = 5 := by decide +kernel
  rw [front, back] at text malformed
  rw [bytes] at malformed
  refine ⟨closed, text.trans (by decide +kernel), malformed, highest.trans (by decide +kernel)⟩

end Template

end Gleaner
