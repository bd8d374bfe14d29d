import Gleaner.Number.Positional
import Gleaner.Proofs.Digits
import Mathlib.Algebra.Order.Field.Power
import Mathlib.Algebra.Order.Field.Rat
import Mathlib.Data.List.TakeWhile
import Mathlib.Tactic.FieldSimp

set_option autoImplicit false

/-!
The numerals that are read as numbers: an optional sign, digits with an optional point, and an
optional exponent. Main statements: `Binary64.spelled_iff` and `Binary64.Spelled.marks`.
-/
namespace Gleaner.Binary64

/-- An optional sign, and whether it is that of negative numbers. -/
inductive Signed : List Char → Bool → Prop
  | bare : Signed [] false
  | plus : Signed ['+'] false
  | minus : Signed ['-'] true

/-- An optional exponent behind its mark. -/
inductive Exponent : List Char → Int → Prop
  | absent : Exponent [] 0
  | marked {mark : Char} {sign digits : List Char} {negative : Bool} {n : Nat}
      (isMark : mark = 'e' ∨ mark = 'E') (signed : Signed sign negative)
      (spells : Text.Spells digits n) :
      Exponent (mark :: (sign ++ digits)) (if negative then -n else n)

/-- A decimal numeral and the rational that it denotes. There is a digit before or after the point,
which may be left out where no digit follows it. -/
inductive Spelled : List Char → ℚ → Prop
  | numeral {sign whole point fraction exponent : List Char} {negative : Bool} {power : Int}
      (signed : Signed sign negative)
      (decimal : ∀ c ∈ whole ++ fraction, Text.isDigit c = true)
      (nonempty : whole ++ fraction ≠ [])
      (pointed : point = ['.'] ∨ point = [] ∧ fraction = [])
      (scaled : Exponent exponent power) :
      Spelled (sign ++ (whole ++ (point ++ (fraction ++ exponent))))
        ((if negative then -1 else 1) *
          (Text.placeValue whole + Text.placeValue fraction / 10 ^ fraction.length) * 10 ^ power)

theorem sign_append {start rest : List Char} {negative : Bool} (signed : Signed start negative)
    (plain : ∀ c, rest.head? = some c → c ≠ '+' ∧ c ≠ '-') :
    sign (start ++ rest) = (negative, rest) := by
  cases signed with
  | plus | minus => rfl
  | bare =>
    rw [List.nil_append]
    unfold sign
    split
    · exact absurd rfl (plain '-' rfl).2
    · exact absurd rfl (plain '+' rfl).1
    · rfl

theorem exists_signed (cs : List Char) : ∃ start, Signed start (sign cs).1 ∧
    cs = start ++ (sign cs).2 := by
  unfold sign
  split
  · exact ⟨_, .minus, rfl⟩
  · exact ⟨_, .plus, rfl⟩
  · exact ⟨_, .bare, rfl⟩

theorem ne_sign_of_isDigit {c : Char} (digit : Text.isDigit c = true) : c ≠ '+' ∧ c ≠ '-' := by
  constructor <;> rintro rfl <;> exact absurd digit (by decide)

theorem exponentPart?_eq_some_iff {cs : List Char} {power : Int} :
    exponentPart? cs = some power ↔ Exponent cs power := by
  constructor
  · intro read
    cases cs with
    | nil =>
      cases read
      exact .absent
    | cons mark rest =>
      obtain ⟨start, signed, split⟩ := exists_signed rest
      rw [exponentPart?] at read
      obtain ⟨isMark, read⟩ := Option.ite_none_right_eq_some.1 read
      obtain ⟨decimal, value⟩ := Option.ite_none_left_eq_some.1 read
      rw [Bool.or_eq_true, not_or, List.isEmpty_iff, Bool.not_eq_true', Bool.not_eq_false,
        List.all_eq_true] at decimal
      have spells := Text.spells_iff.2 ⟨decimal, rfl⟩
      rw [split, ← Option.some.inj value]
      exact .marked isMark signed spells
  · intro spelled
    cases spelled with
    | absent => rfl
    | @marked mark start digits negative n isMark signed spells =>
      obtain ⟨⟨nonempty, decimal⟩, rfl⟩ := Text.spells_iff.1 spells
      have plain := fun c head => ne_sign_of_isDigit (decimal c (List.mem_of_head? head))
      have accepted : (digits.isEmpty || !digits.all Text.isDigit) = false := by
        rw [Bool.or_eq_false_iff, List.isEmpty_eq_false_iff, Bool.not_eq_false', List.all_eq_true]
        exact ⟨nonempty, decimal⟩
      rw [exponentPart?, if_pos isMark, sign_append signed plain]
      simp only [accepted, Bool.false_eq_true, ↓reduceIte]

theorem Exponent.head {cs : List Char} {power : Int} (scaled : Exponent cs power) (c : Char)
    (first : cs.head? = some c) : c = 'e' ∨ c = 'E' := by
  cases scaled with
  | absent => cases first
  | marked isMark => exact Option.some.inj first ▸ isMark

theorem Exponent.head_ne {cs : List Char} {power : Int} (scaled : Exponent cs power) (c : Char)
    (first : cs.head? = some c) : Text.isDigit c = false ∧ c ≠ '.' := by
  rcases scaled.head c first with rfl | rfl <;> decide

section

variable {start whole point fraction exponent : List Char} {negative : Bool} {power : Int}

/-- A numeral is read as its parts. -/
theorem numeral?_append (signed : Signed start negative)
    (decimal : ∀ c ∈ whole ++ fraction, Text.isDigit c = true) (nonempty : whole ++ fraction ≠ [])
    (pointed : point = ['.'] ∨ point = [] ∧ fraction = []) (scaled : Exponent exponent power) :
    numeral? (start ++ (whole ++ (point ++ (fraction ++ exponent)))) =
      some ⟨negative, Text.ofDigits (whole ++ fraction), power - fraction.length⟩ := by
  obtain ⟨wholeDecimal, fractionDecimal⟩ := List.forall_mem_append.1 decimal
  have stops := fun c first => (scaled.head_ne c first).1
  have someDigit : (whole.isEmpty && fraction.isEmpty) = false := by
    rw [Bool.and_eq_false_iff, List.isEmpty_eq_false_iff, List.isEmpty_eq_false_iff]
    exact not_and_or.1 fun none => nonempty (List.append_eq_nil_iff.2 none)
  have value := exponentPart?_eq_some_iff.2 scaled
  have plain : ∀ c, (whole ++ (point ++ (fraction ++ exponent))).head? = some c →
      c ≠ '+' ∧ c ≠ '-' := by
    intro c first
    cases whole with
    | cons d ds =>
      exact ne_sign_of_isDigit (Option.some.inj first ▸ wholeDecimal d List.mem_cons_self)
    | nil =>
      rcases pointed with rfl | ⟨rfl, rfl⟩
      · cases first
        decide
      · exact absurd rfl nonempty
  unfold numeral?
  rw [sign_append signed plain]
  rcases pointed with rfl | ⟨rfl, rfl⟩
  · have ends : ∀ c, ('.' :: (fraction ++ exponent)).head? = some c → Text.isDigit c = false := by
      rintro c first
      cases first
      rfl
    have before := Text.span_digits wholeDecimal ends
    have after := Text.span_digits fractionDecimal stops
    simp only [List.singleton_append, before, after, someDigit, value, Bool.false_eq_true,
      ↓reduceIte, Option.map_some]
  · have before := Text.span_digits wholeDecimal stops
    simp only [List.nil_append, before]
    split
    · next rest => exact absurd rfl (scaled.head_ne '.' rfl).2
    · simp only [someDigit, value, Bool.false_eq_true, ↓reduceIte, Option.map_some]

/-- What is read as a numeral has its parts. -/
theorem exists_parts {cs : List Char} (read : (numeral? cs).isSome) :
    ∃ start whole point fraction exponent negative power, Signed start negative ∧
      (∀ c ∈ whole ++ fraction, Text.isDigit c = true) ∧ whole ++ fraction ≠ [] ∧
      (point = ['.'] ∨ point = [] ∧ fraction = []) ∧ Exponent exponent power ∧
      cs = start ++ (whole ++ (point ++ (fraction ++ exponent))) := by
  obtain ⟨start, signed, rest⟩ := exists_signed cs
  have parts := (List.takeWhile_append_dropWhile (p := Text.isDigit) (l := (sign cs).2)).symm
  have decimal : ∀ c ∈ (sign cs).2.takeWhile Text.isDigit, Text.isDigit c = true :=
    fun c => List.mem_takeWhile_imp
  obtain ⟨n, read⟩ := Option.isSome_iff_exists.1 read
  unfold numeral? at read
  simp only [List.span_eq_takeWhile_dropWhile] at read
  generalize (sign cs).2.takeWhile Text.isDigit = whole at parts decimal read
  generalize (sign cs).2.dropWhile Text.isDigit = more at parts read
  rw [parts] at rest
  obtain ⟨someDigit, value⟩ := Option.ite_none_left_eq_some.1 read
  obtain ⟨power, scaled, -⟩ := Option.map_eq_some_iff.1 value
  rw [exponentPart?_eq_some_iff] at scaled
  rw [Bool.and_eq_true, List.isEmpty_iff, List.isEmpty_iff] at someDigit
  clear value read
  split at scaled
  · next after =>
    have someDigit : ¬(whole = [] ∧ after.takeWhile Text.isDigit = []) := someDigit
    refine ⟨start, whole, ['.'], after.takeWhile Text.isDigit, after.dropWhile Text.isDigit, _,
      power, signed, ?_, ?_, .inl rfl, scaled, ?_⟩
    · exact List.forall_mem_append.2 ⟨decimal, fun c => List.mem_takeWhile_imp⟩
    · exact fun none => someDigit (List.append_eq_nil_iff.1 none)
    · rw [rest, List.takeWhile_append_dropWhile, List.singleton_append]
  · next noPoint =>
    have someDigit : whole ≠ [] := by
      split at someDigit
      · exact absurd rfl (noPoint _)
      · exact fun none => someDigit ⟨none, rfl⟩
    refine ⟨start, whole, [], [], more, _, power, signed, ?_, ?_, .inr ⟨rfl, rfl⟩, scaled, rest⟩
    · rw [List.append_nil]
      exact decimal
    · rw [List.append_nil]
      exact someDigit

end

/-- The digits behind the point count as much less as there are of them. -/
theorem placeValue_point (whole fraction : List Char) (power : Int) :
    (Text.placeValue whole + Text.placeValue fraction / 10 ^ fraction.length : ℚ) * 10 ^ power =
      Text.placeValue (whole ++ fraction) * 10 ^ (power - fraction.length) := by
  have ten : (10 : ℚ) ≠ 0 := by decide
  have places : (10 : ℚ) ^ fraction.length ≠ 0 := pow_ne_zero _ ten
  rw [Text.placeValue_append, zpow_sub₀ ten, zpow_natCast]
  push_cast
  field_simp

/-- The rational that a numeral denotes. -/
def Numeral.denoted (n : Numeral) : ℚ :=
  (if n.negative then -1 else 1) * (n.coefficient * 10 ^ n.exponent)

theorem Numeral.abs_denoted (n : Numeral) : |n.denoted| = n.coefficient * 10 ^ n.exponent := by
  have positive : (0 : ℚ) ≤ n.coefficient * 10 ^ n.exponent :=
    mul_nonneg (Nat.cast_nonneg _) (zpow_nonneg (by decide) _)
  unfold denoted
  cases n.negative <;> simp [abs_of_nonneg positive]

theorem exists_numeral? {cs : List Char} {q : ℚ} (spelled : Spelled cs q) :
    ∃ n, numeral? cs = some n ∧ n.denoted = q := by
  obtain ⟨signed, decimal, nonempty, pointed, scaled⟩ := spelled
  refine ⟨_, numeral?_append signed decimal nonempty pointed scaled, ?_⟩
  rw [mul_assoc, placeValue_point, Numeral.denoted, Text.ofDigits_eq_placeValue]

theorem spelled_of_numeral? {cs : List Char} {n : Numeral} (read : numeral? cs = some n) :
    Spelled cs n.denoted := by
  obtain ⟨start, whole, point, fraction, exponent, negative, power, signed, decimal, nonempty,
    pointed, scaled, rfl⟩ := exists_parts (Option.isSome_of_eq_some read)
  have spelled := Spelled.numeral signed decimal nonempty pointed scaled
  obtain ⟨n', same, denoted⟩ := exists_numeral? spelled
  cases read.symm.trans same
  exact denoted ▸ spelled

/-- A text is read as a numeral just if it is one, and as what it denotes. -/
theorem spelled_iff {cs : List Char} {q : ℚ} :
    Spelled cs q ↔ ∃ n, numeral? cs = some n ∧ n.denoted = q := by
  refine ⟨exists_numeral?, ?_⟩
  rintro ⟨n, read, rfl⟩
  exact spelled_of_numeral? read

theorem Spelled.unique {cs : List Char} {q r : ℚ} (spelled : Spelled cs q)
    (other : Spelled cs r) : q = r := by
  obtain ⟨n, read, rfl⟩ := spelled_iff.1 spelled
  obtain ⟨n', same, rfl⟩ := spelled_iff.1 other
  cases read.symm.trans same
  rfl

/-- The characters of numerals that are no digits. -/
def numeralMarks : List Char := ['+', '-', '.', 'e', 'E']

theorem Signed.marks {start : List Char} {negative : Bool} (signed : Signed start negative) :
    ∀ c ∈ start, c ∈ numeralMarks := by
  cases signed with
  | bare => nofun
  | plus | minus => exact List.forall_mem_singleton.2 (by decide)

theorem Exponent.marks {cs : List Char} {power : Int} (scaled : Exponent cs power) :
    ∀ c ∈ cs, Text.isDigit c = true ∨ c ∈ numeralMarks := by
  cases scaled with
  | absent => nofun
  | marked isMark signed spells =>
    refine List.forall_mem_cons.2 ⟨.inr ?_, List.forall_mem_append.2 ⟨?_, ?_⟩⟩
    · rcases isMark with rfl | rfl <;> decide
    · exact fun c mem => .inr (signed.marks c mem)
    · exact fun c mem => .inl (spells.decimal c mem)

/-- A numeral has nothing but digits, signs, points and the marks of exponents, and a digit. -/
theorem Spelled.marks {cs : List Char} {q : ℚ} (spelled : Spelled cs q) :
    (∀ c ∈ cs, Text.isDigit c = true ∨ c ∈ numeralMarks) ∧ ∃ c ∈ cs, Text.isDigit c = true := by
  obtain @⟨start, whole, point, fraction, exponent, negative, power, signed, decimal, nonempty,
    pointed, scaled⟩ := spelled
  obtain ⟨before, after⟩ := List.forall_mem_append.1 decimal
  have dot : ∀ c ∈ point, c ∈ numeralMarks := by
    rcases pointed with rfl | ⟨rfl, -⟩
    · exact List.forall_mem_singleton.2 (by decide)
    · nofun
  simp only [List.forall_mem_append]
  refine ⟨⟨fun c mem => .inr (signed.marks c mem), fun c mem => .inl (before c mem),
    fun c mem => .inr (dot c mem), fun c mem => .inl (after c mem), scaled.marks⟩, ?_⟩
  obtain ⟨c, mem⟩ := List.exists_mem_of_ne_nil _ nonempty
  refine ⟨c, ?_, decimal c mem⟩
  simp only [List.mem_append] at mem ⊢
  tauto

end Gleaner.Binary64
