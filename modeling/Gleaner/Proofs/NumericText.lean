import Gleaner.Assignment
import Gleaner.Proofs.Numerals
import Gleaner.Proofs.Overflow
import Gleaner.Proofs.Trimming
import Gleaner.Proofs.WholeText

set_option autoImplicit false

/-!
Which texts a number takes: decimal numerals, white space around them aside, unless they denote more
than the finite numbers reach. Main statement: `Value.numericText`.
-/
namespace Gleaner

namespace Binary64

theorem parseFinite?_eq_some_iff {cs : List Char} {x : Binary64} :
    parseFinite? cs = some x ↔ ∃ n, numeral? cs = some n ∧ n.value = x ∧ x.isFinite = true := by
  rw [parseFinite?]
  constructor
  · intro read
    split at read
    · next negative rank value =>
      obtain ⟨n, numeral, value⟩ := Option.map_eq_some_iff.1 value
      cases read
      exact ⟨n, numeral, value, rfl⟩
    · cases read
  · rintro ⟨n, numeral, rfl, finite⟩
    rw [numeral, Option.map_some]
    cases value : n.value with
    | finite negative rank => rfl
    | infinite negative | nan =>
      rw [value] at finite
      cases finite

/-- A text is read as a finite number just if it is a numeral of less than halfway from the largest
of them to the power of two after it. -/
theorem exists_parseFinite?_iff {cs : List Char} :
    (∃ x, parseFinite? cs = some x) ↔ ∃ q, Spelled cs q ∧ |q| < 2 ^ 1024 - 2 ^ 970 := by
  have finite (n : Numeral) : n.value.isFinite = true ↔ |n.denoted| < 2 ^ 1024 - 2 ^ 970 := by
    rw [Numeral.value, ofDecimal_isFinite_iff, Numeral.abs_denoted]
  simp only [parseFinite?_eq_some_iff, spelled_iff]
  constructor
  · rintro ⟨x, n, numeral, rfl, small⟩
    exact ⟨n.denoted, ⟨n, numeral, rfl⟩, (finite n).1 small⟩
  · rintro ⟨q, ⟨n, numeral, rfl⟩, small⟩
    exact ⟨n.value, n, numeral, rfl, (finite n).2 small⟩

theorem isBlank_of_mem_numeralMarks {c : Char} (mark : c ∈ numeralMarks) :
    Text.isBlank c = false := by
  have none : numeralMarks.any Text.isBlank = false := by decide
  exact Bool.eq_false_iff.2 (List.any_eq_false.1 none c mark)

/-- There is no white space in a numeral. -/
theorem Spelled.trimmed {cs : List Char} {q : ℚ} (spelled : Spelled cs q) : Text.Trimmed cs cs := by
  refine Text.trimmed_self fun c mem => ?_
  rcases spelled.marks.1 c mem with digit | mark
  · exact Text.isBlank_of_isDigit digit
  · exact isBlank_of_mem_numeralMarks mark

theorem numeral?_toString (n : Int) :
    numeral? (toString n).toList = some ⟨decide (n < 0), n.natAbs, 0⟩ := by
  have spells := Text.spells_decimalDigits n.natAbs
  have read {start : List Char} {negative : Bool} (signed : Signed start negative) :
      numeral? (start ++ Text.decimalDigits n.natAbs) = some ⟨negative, n.natAbs, 0⟩ := by
    have decimal : ∀ c ∈ Text.decimalDigits n.natAbs ++ [], Text.isDigit c = true := by
      rw [List.append_nil]
      exact spells.decimal
    have nonempty : Text.decimalDigits n.natAbs ++ [] ≠ [] := by
      rw [List.append_nil]
      exact spells.nonempty
    have read := numeral?_append signed decimal nonempty (.inr ⟨rfl, rfl⟩) .absent
    simp only [List.append_nil, Text.ofDigits_decimalDigits, List.length_nil, Nat.cast_zero,
      sub_zero] at read
    exact read
  rw [toString_int, String.toList_ofList]
  split
  · next negative => rw [decide_eq_true negative]; exact read .minus
  · next positive => rw [decide_eq_false positive]; exact read .bare

theorem value_integer (n : Int) : Numeral.value ⟨decide (n < 0), n.natAbs, 0⟩ = ofInt n := by
  rw [Numeral.value, ofDecimal]
  by_cases nothing : n = 0
  · rw [nothing, ofInt_zero]
    rfl
  · have digits : n.natAbs ≠ 0 := Int.natAbs_ne_zero.2 nothing
    rw [if_neg digits, if_neg (show ¬(400 : Int) < 0 by decide), if_pos (Int.le_refl 0)]
    simp only [Int.toNat_zero, tenPow_zero, Nat.mul_one]
    rfl

/-- An integer that is written as a number is read back. -/
theorem parseFinite?_toString {n : Int} (bound : n.natAbs ≤ twoPow 53) :
    parseFinite? (toString n).toList = some (ofInt n) := by
  refine parseFinite?_eq_some_iff.2 ⟨_, numeral?_toString n, value_integer n, ?_⟩
  have whole := toInt?_ofInt bound
  cases value : ofInt n with
  | finite negative rank => rfl
  | infinite negative | nan =>
    rw [value] at whole
    cases whole

end Binary64

namespace Value

/-- Texts that stand for numbers: trimmed, the numeral of a rational that is in reach of the finite
numbers. -/
def Numeric (s : String) : Prop :=
  ∃ core q, Text.Trimmed s.toList core ∧ Binary64.Spelled core q ∧ |q| < 2 ^ 1024 - 2 ^ 970

theorem numeric_iff {s : String} : Numeric s ↔ ∃ x, parseNumber? s = some x := by
  simp only [parseNumber?, Binary64.exists_parseFinite?_iff, Numeric, Text.trimmed_iff]
  constructor
  · rintro ⟨core, q, rfl, numeral⟩
    exact ⟨q, numeral⟩
  · rintro ⟨q, numeral⟩
    exact ⟨_, q, rfl, numeral⟩

theorem parseNumber?_toString {n : Int} (bound : n.natAbs ≤ twoPow 53) :
    parseNumber? (toString n) = some (Binary64.ofInt n) := by
  have spelled := Binary64.spelled_of_numeral? (Binary64.numeral?_toString n)
  rw [parseNumber?, Text.trimmed_iff.1 spelled.trimmed, Binary64.parseFinite?_toString bound]

/-- A text that a number does not take changes no record in which the number is. -/
structure Refused (current : Binary64) (s : String) : Prop where
  error : coerce (some (.number current)) (.string s) = .error ⟨.number, .string, .string s⟩
  unchanged : ∀ (importing : Bool) (key : String) (record : Record),
    record.detail? key = some (.number current) →
      Assignment.writeExpanded importing (.detail key) (.string s) record =
        (record, [.rejected (Field.detail key).key .number .string])

/-- What becomes of texts that are written to a number, and of numbers that are written to a
text. -/
structure NumericText (current : Binary64) : Prop where
  accepted : ∀ s, (∃ v, coerce (some (.number current)) (.string s) = .ok v) ↔ Numeric s
  taken : ∀ s v, coerce (some (.number current)) (.string s) = .ok v →
    ∃ x, v = .number x ∧ x.isFinite = true
  refused : ∀ s, ¬Numeric s → Refused current s
  foreign : ∀ s core c, Text.Trimmed s.toList core → c ∈ core → Text.isDigit c = false →
    c ∉ Binary64.numeralMarks → Refused current s
  undigited : ∀ s core, Text.Trimmed s.toList core → (∀ c ∈ core, Text.isDigit c = false) →
    Refused current s
  overflowing : ∀ s core q, Text.Trimmed s.toList core → Binary64.Spelled core q →
    2 ^ 1024 - 2 ^ 970 ≤ |q| → Refused current s
  written : ∀ (n : Int) (text : String), n.natAbs ≤ twoPow 53 →
    (Binary64.ofInt n).toInt? = some n ∧
      coerce (some (.string text)) (.number (Binary64.ofInt n)) = .ok (.string (toString n)) ∧
        coerce (some (.number current)) (.string (toString n)) =
          .ok (.number (Binary64.ofInt n))

theorem refused_of_not_numeric (current : Binary64) {s : String} (other : ¬Numeric s) :
    Refused current s := by
  have none : parseNumber? s = none :=
    Option.eq_none_iff_forall_ne_some.2 fun x read => other (numeric_iff.2 ⟨x, read⟩)
  have error : asNumber (.string s) = .error ⟨.number, .string, .string s⟩ := by
    rw [asNumber, none]
    rfl
  refine ⟨error, fun importing key record there => ?_⟩
  rw [Assignment.writeExpanded, Assignment.write, there, coerce, error]
  · rfl
  · nofun
  · nofun

/-- What is trimmed off does not matter, and the rest is the numeral of one rational only. -/
theorem numeric_core {s : String} {core : List Char} (trimmed : Text.Trimmed s.toList core) :
    Numeric s ↔ ∃ q, Binary64.Spelled core q ∧ |q| < 2 ^ 1024 - 2 ^ 970 := by
  constructor
  · rintro ⟨other, q, same, numeral⟩
    rw [trimmed.eq_trimChars, ← same.eq_trimChars]
    exact ⟨q, numeral⟩
  · rintro ⟨q, numeral⟩
    exact ⟨core, q, trimmed, numeral⟩

/-- A number takes just the texts that stand for finite numbers, and others leave the record as it
is: those with characters that are in no numeral, those without digits, and those that denote too
much. An integer up to the last one before which all are represented is written in full, and that
text is taken as the integer. -/
theorem numericText (current : Binary64) : NumericText current where
  accepted s := by
    rw [numeric_iff, coerce, asNumber]
    cases parseNumber? s with
    | none => exact ⟨nofun, nofun⟩
    | some x => exact ⟨fun _ => ⟨x, rfl⟩, fun _ => ⟨.number x, rfl⟩⟩
  taken s v accepted := by
    rw [coerce, asNumber] at accepted
    cases read : parseNumber? s with
    | none =>
      rw [read] at accepted
      cases accepted
    | some x =>
      rw [read] at accepted
      obtain ⟨-, -, -, finite⟩ := Binary64.parseFinite?_eq_some_iff.1 read
      exact ⟨x, (Except.ok.inj accepted).symm, finite⟩
  refused s := refused_of_not_numeric current
  foreign s core c trimmed mem noDigit noMark := by
    refine refused_of_not_numeric current fun numeric => ?_
    obtain ⟨q, spelled, -⟩ := (numeric_core trimmed).1 numeric
    rcases spelled.marks.1 c mem with digit | mark
    · exact absurd digit (Bool.eq_false_iff.1 noDigit)
    · exact noMark mark
  undigited s core trimmed noDigit := by
    refine refused_of_not_numeric current fun numeric => ?_
    obtain ⟨q, spelled, -⟩ := (numeric_core trimmed).1 numeric
    obtain ⟨c, mem, digit⟩ := spelled.marks.2
    exact absurd digit (Bool.eq_false_iff.1 (noDigit c mem))
  overflowing s core q trimmed spelled large := by
    refine refused_of_not_numeric current fun numeric => ?_
    obtain ⟨r, same, small⟩ := (numeric_core trimmed).1 numeric
    rw [spelled.unique same] at large
    exact not_lt_of_ge large small
  written n text bound := by
    refine ⟨Binary64.toInt?_ofInt bound, ?_, ?_⟩
    · rw [coerce, asString, Binary64.display_ofInt bound]
    · rw [coerce, asNumber, parseNumber?_toString bound]

example : ["inf", "-NaN", " ", "0x10", "1_000", "1e", ".", "1e999"].map parseNumber? =
    List.replicate 8 none := rfl

end Value

end Gleaner
