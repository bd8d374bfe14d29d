import Gleaner.Proofs.Digits
import Gleaner.Text.Blank
import Mathlib.Data.List.DropRight
import Mathlib.Data.List.TakeWhile

set_option autoImplicit false

/-!
What trimming leaves of a text: all of it but for the white space at both ends, and no white space
at its own ends. Main statement: `Text.trimmed_iff`.
-/
namespace Gleaner.Text

/-- A text, and what is left of it without the white space at both ends. -/
structure Trimmed (text core : List Char) : Prop where
  around : ∃ left right, text = left ++ core ++ right ∧
    (∀ c ∈ left, isBlank c = true) ∧ ∀ c ∈ right, isBlank c = true
  first : ∀ c, core.head? = some c → isBlank c = false
  last : ∀ c, core.getLast? = some c → isBlank c = false

theorem trimChars_eq (text : List Char) :
    trimChars text = (text.dropWhile isBlank).rdropWhile isBlank := rfl

theorem trimmed_trimChars (text : List Char) : Trimmed text (trimChars text) where
  around := by
    refine ⟨text.takeWhile isBlank, (text.dropWhile isBlank).rtakeWhile isBlank, ?_, ?_, ?_⟩
    · rw [trimChars_eq, List.append_assoc, List.rdropWhile_append_rtakeWhile,
        List.takeWhile_append_dropWhile]
    · exact fun c => List.mem_takeWhile_imp
    · exact fun c => List.mem_rtakeWhile_imp
  first c head := by
    obtain ⟨rest, whole⟩ := List.rdropWhile_prefix isBlank (text.dropWhile isBlank)
    have start : (text.dropWhile isBlank).head? = some c := by
      rw [← whole, List.head?_append, ← trimChars_eq, head, Option.some_or]
    have stops := List.head?_dropWhile_not isBlank text
    rwa [start] at stops
  last c last := by
    have nonempty : trimChars text ≠ [] := fun empty => by rw [empty] at last; cases last
    have stops := List.rdropWhile_last_not isBlank _ nonempty
    rw [List.getLast?_eq_some_getLast nonempty] at last
    exact Option.some.inj last ▸ Bool.eq_false_iff.2 stops

theorem rdropWhile_append_of_pos {p : Char → Bool} {after : List Char}
    (dropped : ∀ c ∈ after, p c = true) (text : List Char) :
    (text ++ after).rdropWhile p = text.rdropWhile p := by
  have reversed : ∀ c ∈ after.reverse, p c = true := fun c mem => dropped c (List.mem_reverse.1 mem)
  rw [List.rdropWhile, List.reverse_append, List.dropWhile_append_of_pos reversed, List.rdropWhile]

theorem Trimmed.eq_trimChars {text core : List Char} (trimmed : Trimmed text core) :
    core = trimChars text := by
  obtain ⟨left, right, rfl, before, after⟩ := trimmed.around
  rw [trimChars_eq, List.append_assoc, List.dropWhile_append_of_pos before]
  cases core with
  | nil => rw [List.nil_append, List.dropWhile_eq_nil_iff.2 after, List.rdropWhile_nil]
  | cons c cs =>
    have starts : ¬isBlank c = true := Bool.eq_false_iff.1 (trimmed.first c rfl)
    have stays : (c :: cs).rdropWhile isBlank = c :: cs :=
      List.rdropWhile_eq_self_iff.2 fun nonempty => Bool.eq_false_iff.1 <|
        trimmed.last _ (List.getLast?_eq_some_getLast nonempty)
    rw [List.cons_append, List.dropWhile_cons_of_neg starts, ← List.cons_append,
      rdropWhile_append_of_pos after, stays]

theorem trimmed_iff {text core : List Char} : Trimmed text core ↔ trimChars text = core :=
  ⟨fun trimmed => trimmed.eq_trimChars.symm, fun same => same ▸ trimmed_trimChars text⟩

/-- A text without white space is trimmed. -/
theorem trimmed_self {text : List Char} (solid : ∀ c ∈ text, isBlank c = false) :
    Trimmed text text where
  around := ⟨[], [], (List.append_nil _).symm, List.forall_mem_nil _, List.forall_mem_nil _⟩
  first c first := solid c (List.mem_of_head? first)
  last c last := solid c (List.mem_of_getLast? last)

theorem isBlank_of_isDigit {c : Char} (digit : isDigit c = true) : isBlank c = false := by
  have bounds := isDigit_iff.1 digit
  simp only [isBlank, Bool.or_eq_false_iff, Bool.and_eq_false_iff, decide_eq_false_iff_not,
    beq_eq_false_iff_ne]
  omega

end Gleaner.Text
