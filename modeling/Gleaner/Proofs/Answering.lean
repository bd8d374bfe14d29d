import Gleaner.Prompt.Terminal
import Gleaner.Proofs.Trimming
import Mathlib.Data.List.Forall2

set_option autoImplicit false

/-!
What an operator may answer: numerals of candidates, apart by commas and blanks. All else is
refused, and what is chosen is there. Main statement: `Answer.read_exactly`.
-/
namespace Gleaner

namespace Text

/-- The stretches of a text between the characters that separate. -/
inductive Parted (separates : Char → Bool) : List Char → List (List Char) → Prop
  | last {part : List Char} (plain : ∀ c ∈ part, separates c = false) :
      Parted separates part [part]
  | more {part rest : List Char} {parts : List (List Char)} {c : Char}
      (plain : ∀ c ∈ part, separates c = false) (here : separates c = true)
      (others : Parted separates rest parts) : Parted separates (part ++ c :: rest) (part :: parts)

variable {separates : Char → Bool}

theorem parted_splitChars (text : List Char) :
    Parted separates text (splitChars separates text) := by
  induction text with
  | nil => exact .last (List.forall_mem_nil _)
  | cons c cs ih =>
    unfold splitChars
    generalize splitChars separates cs = parts at ih
    cases here : separates c with
    | true =>
      have plain : ∀ d ∈ ([] : List Char), separates d = false := List.forall_mem_nil _
      exact .more plain here ih
    | false =>
      cases ih with
      | last plain => exact .last (List.forall_mem_cons.2 ⟨here, plain⟩)
      | @more part _ _ _ plain stops others =>
        have longer : ∀ d ∈ c :: part, separates d = false := List.forall_mem_cons.2 ⟨here, plain⟩
        exact .more longer stops others

theorem parted_iff {text : List Char} {parts : List (List Char)} :
    Parted separates text parts ↔ splitChars separates text = parts := by
  refine ⟨fun parted => ?_, fun same => same ▸ parted_splitChars text⟩
  induction parted with
  | last plain => exact splitChars_of_none plain
  | more plain here _ ih =>
    rw [splitChars_append here, splitChars_of_none plain, ih, List.singleton_append]

end Text

theorem mapM_eq_some_iff {α β : Type} {f : α → Option β} {xs : List α} {ys : List β} :
    xs.mapM f = some ys ↔ List.Forall₂ (fun x y => f x = some y) xs ys := by
  induction xs generalizing ys with
  | nil =>
    rw [List.mapM_nil, List.forall₂_nil_left_iff]
    exact ⟨fun same => (Option.some.inj same).symm, fun same => congrArg some same.symm⟩
  | cons x xs ih =>
    rw [List.mapM_cons, List.forall₂_cons_left_iff]
    simp only [Option.bind_eq_bind, Option.bind_eq_some_iff, ih, Option.pure_def,
      Option.some.injEq]
    constructor
    · rintro ⟨y, first, rest, others, rfl⟩
      exact ⟨y, rest, first, others, rfl⟩
    · rintro ⟨y, rest, first, others, rfl⟩
      exact ⟨y, first, rest, others, rfl⟩

namespace Answer

/-- The pieces of an answer: the stretches between commas and blanks, trimmed, those left out of
which nothing remains. -/
def Pieces (answer : List Char) (pieces : List (List Char)) : Prop :=
  ∃ parts trimmed, Text.Parted separates answer parts ∧
    List.Forall₂ Text.Trimmed parts trimmed ∧ pieces = trimmed.filter (· ≠ [])

/-- A numeral, perhaps behind a plus sign, and the number that it spells. -/
def Numeral (piece : List Char) (n : Nat) : Prop :=
  ∃ digits, (piece = digits ∨ piece = '+' :: digits) ∧ Text.Spells digits n

/-- A piece is the number of one of the candidates, which are counted from one on. -/
structure Chooses (count : Nat) (piece : List Char) (index : Nat) : Prop where
  numeral : Numeral piece (index + 1)
  inRange : index < count

/-- The pieces of an answer choose these, one each, and only where several are wanted more than
one. -/
structure Chosen (count : Nat) (repeated : Bool) (answer : List Char) (indices : List Nat) :
    Prop where
  pieces : ∃ pieces, Pieces answer pieces ∧ List.Forall₂ (Chooses count) pieces indices
  single : repeated = false → indices.length ≤ 1

/-- The pieces of an answer, as characters. -/
def piecesOf (answer : List Char) : List (List Char) :=
  ((Text.splitChars separates answer).map Text.trimChars).filter (· ≠ [])

theorem forall₂_trimmed_iff {parts trimmed : List (List Char)} :
    List.Forall₂ Text.Trimmed parts trimmed ↔ parts.map Text.trimChars = trimmed := by
  have same : Text.Trimmed = fun part core => Text.trimChars part = core := by
    funext part core
    exact propext Text.trimmed_iff
  rw [same, ← List.forall₂_map_left_iff (R := Eq), List.forall₂_eq_eq_eq]

theorem pieces_iff {answer : List Char} {pieces : List (List Char)} :
    Pieces answer pieces ↔ pieces = piecesOf answer := by
  simp only [Pieces, Text.parted_iff, forall₂_trimmed_iff]
  exact ⟨fun ⟨_, _, parts, trimmed, same⟩ => by rw [same, ← trimmed, ← parts]; rfl,
    fun same => ⟨_, _, rfl, rfl, same⟩⟩

theorem pieces_eq (answer : String) :
    pieces answer = (piecesOf answer.toList).map String.ofList := by
  have nonempty : ((fun piece : String => !piece.isEmpty) ∘ String.ofList) =
      fun piece => decide (piece ≠ []) := by
    funext piece
    cases piece <;> simp [String.isEmpty_iff]
  have trimmed : Text.trim ∘ String.ofList = String.ofList ∘ Text.trimChars := by
    funext part
    simp only [Function.comp, Text.trim, String.toList_ofList]
  rw [pieces, piecesOf, Text.split, List.map_map, trimmed, ← List.map_map, List.filter_map,
    nonempty]

theorem numeral?_eq_some_iff {piece : List Char} {n : Nat} :
    numeral? (String.ofList piece) = some n ↔ Numeral piece n := by
  have digits (ds : List Char) :
      (if ds.isEmpty || !ds.all Text.isDigit then none else some (Text.ofDigits ds)) = some n ↔
        Text.Spells ds n := by
    rw [Text.spells_iff, Option.ite_none_left_eq_some, Bool.or_eq_true, not_or,
      List.isEmpty_iff, Bool.not_eq_true', Bool.not_eq_false, List.all_eq_true, Option.some.injEq,
      eq_comm (a := n)]
  rw [numeral?, String.toList_ofList]
  unfold Numeral
  split
  · next ds =>
    rw [digits]
    constructor
    · exact fun spells => ⟨ds, .inr rfl, spells⟩
    · rintro ⟨other, rfl | same, spells⟩
      · exact absurd (spells.decimal '+' List.mem_cons_self) (by decide)
      · cases same
        exact spells
  · next other =>
    rw [digits]
    constructor
    · exact fun spells => ⟨piece, .inl rfl, spells⟩
    · rintro ⟨ds, rfl | rfl, spells⟩
      · exact spells
      · exact absurd rfl (other ds)

theorem index?_eq_some_iff {count : Nat} {piece : List Char} {index : Nat} :
    index? count (String.ofList piece) = some index ↔ Chooses count piece index := by
  simp only [index?, Option.bind_eq_bind, Option.bind_eq_some_iff, numeral?_eq_some_iff,
    Option.ite_none_right_eq_some, Option.some.injEq]
  constructor
  · rintro ⟨n, numeral, ⟨least, most⟩, rfl⟩
    refine ⟨?_, by omega⟩
    rwa [Nat.sub_add_cancel least]
  · rintro ⟨numeral, inRange⟩
    exact ⟨index + 1, numeral, ⟨by omega, inRange⟩, rfl⟩

theorem read?_eq_some_iff {count : Nat} {repeated : Bool} {answer : String} {indices : List Nat} :
    read? count repeated answer = some indices ↔
      Chosen count repeated answer.toList indices := by
  have chooses : (fun piece index => index? count (String.ofList piece) = some index) =
      Chooses count := by
    funext piece index
    exact propext index?_eq_some_iff
  have single : (repeated || decide (indices.length ≤ 1)) = true ↔
      (repeated = false → indices.length ≤ 1) := by
    cases repeated <;> simp
  simp only [read?, pieces_eq, Option.bind_eq_bind, Option.bind_eq_some_iff, mapM_eq_some_iff,
    List.forall₂_map_left_iff, chooses, Option.ite_none_right_eq_some, Option.some.injEq]
  constructor
  · rintro ⟨_, chosen, few, rfl⟩
    exact ⟨⟨_, pieces_iff.2 rfl, chosen⟩, single.1 few⟩
  · rintro ⟨⟨pieces, cut, chosen⟩, few⟩
    exact ⟨indices, pieces_iff.1 cut ▸ chosen, single.2 few, rfl⟩

/-- Numerals of candidates one after the other, commas and blanks between them. -/
inductive Written : List Nat → List Char → Prop
  | none : Written [] []
  | one (index : Nat) : Written [index] (Text.decimalDigits (index + 1))
  | more (index : Nat) {next : Nat} {others : List Nat} {gap rest : List Char}
      (apart : gap ≠ []) (separated : ∀ c ∈ gap, separates c = true)
      (written : Written (next :: others) rest) :
      Written (index :: next :: others) (Text.decimalDigits (index + 1) ++ gap ++ rest)

theorem piecesOf_append {c : Char} (here : separates c = true) (before after : List Char) :
    piecesOf (before ++ c :: after) = piecesOf before ++ piecesOf after := by
  rw [piecesOf, Text.splitChars_append here, List.map_append, List.filter_append]
  rfl

/-- Commas and blanks before an answer add nothing to it. -/
theorem piecesOf_gap {gap : List Char} (separated : ∀ c ∈ gap, separates c = true)
    (rest : List Char) : piecesOf (gap ++ rest) = piecesOf rest := by
  induction gap with
  | nil => rfl
  | cons c gap ih =>
    obtain ⟨here, others⟩ := List.forall_mem_cons.1 separated
    exact (piecesOf_append here [] (gap ++ rest)).trans (ih others)

theorem separates_of_isDigit {c : Char} (digit : Text.isDigit c = true) : separates c = false := by
  refine Bool.eq_false_iff.2 fun separated => ?_
  rcases Bool.or_eq_true_iff.1 separated with comma | blank
  · exact absurd (eq_of_beq comma ▸ digit) (by decide)
  · exact absurd (eq_of_beq blank ▸ digit) (by decide)

theorem piecesOf_spelled {digits : List Char} {n : Nat} (spells : Text.Spells digits n) :
    piecesOf digits = [digits] := by
  have plain (c : Char) (mem : c ∈ digits) : separates c = false :=
    separates_of_isDigit (spells.decimal c mem)
  have solid (c : Char) (mem : c ∈ digits) : Text.isBlank c = false :=
    Text.isBlank_of_isDigit (spells.decimal c mem)
  rw [piecesOf, Text.splitChars_of_none plain, List.map_singleton,
    Text.trimmed_iff.1 (Text.trimmed_self solid)]
  exact List.filter_cons_of_pos (decide_eq_true spells.nonempty)

theorem chooses_decimalDigits {count index : Nat} (inRange : index < count) :
    Chooses count (Text.decimalDigits (index + 1)) index :=
  ⟨⟨_, .inl rfl, Text.spells_decimalDigits (index + 1)⟩, inRange⟩

/-- The pieces of what is written are the numerals, one for each index. -/
theorem Written.pieces {count : Nat} {indices : List Nat} {text : List Char}
    (written : Written indices text) (inRange : ∀ index ∈ indices, index < count) :
    List.Forall₂ (Chooses count) (piecesOf text) indices := by
  induction written with
  | none => exact .nil
  | one index =>
    rw [piecesOf_spelled (Text.spells_decimalDigits _)]
    exact .cons (chooses_decimalDigits (inRange index List.mem_cons_self)) .nil
  | @more index next others gap rest apart separated written ih =>
    obtain ⟨here, later⟩ := List.forall_mem_cons.1 inRange
    cases gap with
    | nil => exact absurd rfl apart
    | cons c gap =>
      obtain ⟨stops, more⟩ := List.forall_mem_cons.1 separated
      rw [List.append_assoc, List.cons_append, piecesOf_append stops, piecesOf_gap more,
        piecesOf_spelled (Text.spells_decimalDigits _), List.singleton_append]
      exact .cons (chooses_decimalDigits here) (ih later)

theorem exists_of_forall₂ {α β : Type} {R : α → β → Prop} {xs : List α} {ys : List β}
    (related : List.Forall₂ R xs ys) : ∀ x ∈ xs, ∃ y, R x y := by
  induction related with
  | nil => exact List.forall_mem_nil _
  | cons here _ ih => exact List.forall_mem_cons.2 ⟨⟨_, here⟩, ih⟩

theorem Chosen.inRange {count : Nat} {repeated : Bool} {answer : List Char} {indices : List Nat}
    (chosen : Chosen count repeated answer indices) : ∀ index ∈ indices, index < count := by
  obtain ⟨pieces, -, chooses⟩ := chosen.pieces
  intro index mem
  obtain ⟨piece, here⟩ := exists_of_forall₂ (List.Forall₂.flip chooses) index mem
  exact here.inRange

/-- A numeral of no candidate is refused with all that stands beside it. -/
theorem read?_of_numeral {count : Nat} {repeated : Bool} {answer : String}
    {pieces : List (List Char)} (cut : Pieces answer.toList pieces) {piece : List Char}
    (mem : piece ∈ pieces) {n : Nat} (numeral : Numeral piece n) (beyond : count < n) :
    read? count repeated answer = none := by
  refine Option.eq_none_iff_forall_ne_some.2 fun indices accepted => ?_
  obtain ⟨pieces', cut', chooses⟩ := (read?_eq_some_iff.1 accepted).pieces
  cases (pieces_iff.1 cut).trans (pieces_iff.1 cut').symm
  obtain ⟨index, here⟩ := exists_of_forall₂ chooses piece mem
  have spelled := (numeral?_eq_some_iff.2 numeral).symm.trans (numeral?_eq_some_iff.2 here.numeral)
  have same := Option.some.inj spelled
  have inRange := here.inRange
  omega

end Answer

namespace PromptRequest

/-- Indices that are in range pick as many candidates. -/
theorem map_picked {request : PromptRequest} {indices : List Nat}
    (inRange : ∀ index ∈ indices, index < request.candidates.length) :
    indices.map (request.candidates[·]?) =
      (indices.filterMap (request.candidates[·]?)).map some := by
  induction indices with
  | nil => rfl
  | cons index indices ih =>
    obtain ⟨here, others⟩ := List.forall_mem_cons.1 inRange
    rw [List.map_cons, ih others, List.filterMap_cons, List.getElem?_eq_getElem here]
    rfl

theorem chosen_eq_some_iff (request : PromptRequest) (line : List UInt8)
    (picked : List Captures) :
    request.chosen line = some picked ↔
      ∃ answer indices, Text.decode? line = some answer ∧
        Answer.Chosen request.candidates.length request.repeated answer.toList indices ∧
        indices ≠ [] ∧ indices.map (request.candidates[·]?) = picked.map some := by
  simp only [chosen, Option.bind_eq_bind, Option.bind_eq_some_iff, Answer.read?_eq_some_iff]
  constructor
  · rintro ⟨answer, decoded, indices, chosen, picks⟩
    refine ⟨answer, indices, decoded, chosen, ?_⟩
    cases indices with
    | nil => cases picks
    | cons index indices =>
      cases picks
      exact ⟨List.cons_ne_nil _ _, map_picked chosen.inRange⟩
  · rintro ⟨answer, indices, decoded, chosen, nonempty, picks⟩
    refine ⟨answer, decoded, indices, chosen, ?_⟩
    rw [map_picked chosen.inRange, (List.map_injective_iff.2 (Option.some_injective _)).eq_iff]
      at picks
    cases indices with
    | nil => exact absurd rfl nonempty
    | cons index indices => exact congrArg some picks

end PromptRequest

namespace Answer

/-- What answers come to where there are `count` candidates. An answer is accepted just if it
chooses indices, and gives those. None of them is out of range, also where a numeral is too large
for a word of 64 bits, and the candidates that a terminal picks are the ones at the indices. What is
written of indices in range is read back. -/
structure ReadExactly (count : Nat) (repeated : Bool) : Prop where
  read : ∀ answer indices,
    read? count repeated answer = some indices ↔ Chosen count repeated answer.toList indices
  inRange : ∀ answer indices, read? count repeated answer = some indices →
    ∀ index ∈ indices, index < count
  tooLarge : count < twoPow 64 → ∀ answer pieces piece n, Pieces answer.toList pieces →
    piece ∈ pieces → Numeral piece n → twoPow 64 ≤ n → read? count repeated answer = none
  picked : ∀ {σ : Type} (console : Console (StateM σ)) (request : PromptRequest) (w : σ) picked,
    request.candidates.length = count → request.repeated = repeated →
    ((((Prompter.terminal console).choose request).run w).1 = some picked ↔
      ∃ answer indices,
        Text.decode? (console.readLine.run ((console.note request.text).run w).2).1 = some answer ∧
        Chosen count repeated answer.toList indices ∧ indices ≠ [] ∧
        indices.map (request.candidates[·]?) = picked.map some)
  written : ∀ indices answer, Written indices answer.toList → (∀ index ∈ indices, index < count) →
    (repeated = false → indices.length ≤ 1) → read? count repeated answer = some indices

theorem read_exactly (count : Nat) (repeated : Bool) : ReadExactly count repeated where
  read answer indices := read?_eq_some_iff
  inRange answer indices accepted := (read?_eq_some_iff.1 accepted).inRange
  tooLarge fits answer pieces piece n cut mem numeral large :=
    read?_of_numeral cut mem numeral (Nat.lt_of_lt_of_le fits large)
  picked console request w picked sized wanted := by
    subst sized wanted
    exact request.chosen_eq_some_iff _ picked
  written indices answer written inRange single :=
    read?_eq_some_iff.2 ⟨⟨_, pieces_iff.2 rfl, written.pieces inRange⟩, single⟩

end Answer

end Gleaner
