import Gleaner.Json.Reader
import Gleaner.Json.Writer
import Gleaner.Proofs.Digits
import Mathlib.Data.List.TakeDrop

set_option autoImplicit false

/-!
How JSON spells integers and texts. Both are read back as what was written, whatever follows that
does not go on with a number. Main statements: `Json.number?_writeInteger`, `Json.quoted?_escaped`.
-/
namespace Gleaner

namespace Json

/-- What follows does not go on with a number. -/
def Stops (rest : List Char) : Prop :=
  ∀ c, rest.head? = some c → Text.isDigit c = false ∧ c ≠ '.' ∧ c ≠ 'e' ∧ c ≠ 'E'

theorem le_foldl_digits (digits : List Char) (start : Nat) :
    start ≤ (digits.map Text.digitValue).foldl (fun acc d => acc * 10 + d) start := by
  induction digits generalizing start with
  | nil => exact Nat.le_refl start
  | cons c cs ih => exact Nat.le_trans (by omega) (ih (start * 10 + Text.digitValue c))

/-- A significand takes all digits of a number that is in its bounds. -/
theorem significand_eq {digits : List Char} {start : Nat}
    (fits : (digits.map Text.digitValue).foldl (fun acc d => acc * 10 + d) start ≤
      significandLimit) :
    significand start digits =
      ((digits.map Text.digitValue).foldl (fun acc d => acc * 10 + d) start, digits.length) := by
  induction digits generalizing start with
  | nil => rfl
  | cons c cs ih =>
    rw [List.map_cons, List.foldl_cons] at fits ⊢
    have next : ¬significandLimit < start * 10 + Text.digitValue c :=
      Nat.not_lt.2 (Nat.le_trans (le_foldl_digits cs _) fits)
    simp only [significand, if_neg next, ih fits, List.length_cons]

theorem significand_decimalDigits {n : Nat} (fits : n ≤ significandLimit) :
    significand 0 (Text.decimalDigits n) = (n, (Text.decimalDigits n).length) := by
  have value :
      ((Text.decimalDigits n).map Text.digitValue).foldl (fun acc d => acc * 10 + d) 0 = n :=
    Text.ofDigits_decimalDigits n
  rw [significand_eq (value.symm ▸ fits), value]

theorem digits?_append {digits rest : List Char} (nonempty : digits ≠ [])
    (all : ∀ c ∈ digits, Text.isDigit c = true) (stops : Stops rest) :
    digits? (digits ++ rest) = some (digits, rest) := by
  have parts := Text.span_digits all fun c head => (stops c head).1
  unfold digits?
  rw [parts]
  cases digits with
  | nil => exact absurd rfl nonempty
  | cons d ds => rfl

theorem decimalDigits_ne_cons {c : Char} (other : Text.isDigit c = false) (n : Nat)
    (rest cs : List Char) : Text.decimalDigits n ++ rest ≠ c :: cs := by
  cases digits : Text.decimalDigits n with
  | nil => exact absurd digits Nat.toDigits_ne_nil
  | cons d ds =>
    intro same
    have digit : Text.isDigit d = true :=
      Text.isDigit_of_mem_decimalDigits (n := n) (digits ▸ List.mem_cons_self)
    rw [List.head_eq_of_cons_eq same, other] at digit
    cases digit

theorem whole?_decimalDigits (n : Nat) {rest : List Char} (stops : Stops rest) :
    whole? (Text.decimalDigits n ++ rest) = some (Text.decimalDigits n, rest) := by
  by_cases zero : n = 0
  · subst zero
    have ends : (rest.head?.map Text.isDigit).getD false = false := by
      cases rest with
      | nil => rfl
      | cons c cs => exact (stops c rfl).1
    have spelled : Text.decimalDigits 0 = ['0'] := rfl
    rw [spelled, List.singleton_append, whole?, ends]
    rfl
  · have first := Text.head?_decimalDigits (Nat.pos_of_ne_zero zero)
    have read := digits?_append Nat.toDigits_ne_nil
      (fun c => Text.isDigit_of_mem_decimalDigits (n := n)) stops
    unfold whole?
    split
    · next more same =>
      cases digits : Text.decimalDigits n with
      | nil => exact absurd digits Nat.toDigits_ne_nil
      | cons d ds =>
        rw [digits] at first same
        exact absurd (congrArg some (List.head_eq_of_cons_eq same)) first
    · exact read

theorem fraction?_of_stops {rest : List Char} (stops : Stops rest) :
    fraction? rest = some (none, rest) := by
  cases rest with
  | nil => rfl
  | cons c cs =>
    have other := (stops c rfl).2.1
    unfold fraction?
    split
    · next same => exact absurd (List.head_eq_of_cons_eq same) other
    · rfl

theorem exponent?_of_stops {rest : List Char} (stops : Stops rest) :
    exponent? rest = some (none, rest) := by
  cases rest with
  | nil => rfl
  | cons c cs =>
    have others := (stops c rfl).2.2
    have none : ¬(c = 'e' ∨ c = 'E') := not_or.2 others
    simp only [exponent?, none, ↓reduceIte]

theorem value?_natural {n : Nat} (fits : n ≤ significandLimit) :
    Numeral.value? ⟨false, Text.decimalDigits n, none, none⟩ = some (.integer n) := by
  simp [Numeral.value?, significand_decimalDigits fits]

theorem value?_negative {n : Nat} (positive : 0 < n) (fits : n ≤ twoPow 63) :
    Numeral.value? ⟨true, Text.decimalDigits n, none, none⟩ = some (.integer (-(n : Int))) := by
  have limit : significandLimit = twoPow 64 - 1 := rfl
  have half : twoPow 64 = 2 * twoPow 63 := twoPow_succ 63
  have inside : ¬(n = 0 ∨ twoPow 63 < n) := by omega
  simp [Numeral.value?, significand_decimalDigits (n := n) (by omega), inside]

/-- An integer of 64 bits is read back, with its sign, from its digits. -/
theorem number?_writeInteger {n : Int} (lower : -(twoPow 63 : Int) ≤ n)
    (upper : n ≤ significandLimit) {rest : List Char} (stops : Stops rest) :
    number? (writeInteger n ++ rest) = some (.integer n, rest) := by
  have whole := whole?_decimalDigits n.natAbs stops
  unfold writeInteger
  split
  · next negative =>
    have value := value?_negative (n := n.natAbs) (by omega) (by omega)
    have same : -(n.natAbs : Int) = n := by omega
    simp only [number?, List.cons_append, whole, fraction?_of_stops stops,
      exponent?_of_stops stops, value, same, Option.bind_eq_bind, Option.bind_some]
  · next positive =>
    have value := value?_natural (n := n.natAbs) (by omega)
    have same : (n.natAbs : Int) = n := by omega
    unfold number?
    split
    next sign cs parts =>
    have unsigned : sign = false ∧ cs = Text.decimalDigits n.natAbs ++ rest := by
      split at parts
      · next more minus => exact absurd minus (decimalDigits_ne_cons (by decide) _ _ _)
      · cases parts
        exact ⟨rfl, rfl⟩
    obtain ⟨rfl, rfl⟩ := unsigned
    simp only [whole, fraction?_of_stops stops, exponent?_of_stops stops, value, same,
      Option.bind_eq_bind, Option.bind_some]

/-- Below 32, a code point has two hexadecimal digits after two zeros. -/
theorem hexQuad?_hexDigits {n : Nat} (control : n < 0x20) (rest : List Char) :
    hexQuad? (Text.hexDigits 4 n ++ rest) = some (n, rest) := by
  have spelled : ∀ i : Fin 0x20, Text.hexDigits 4 i.val =
      ['0', '0', (i.val / 16).digitChar, (i.val % 16).digitChar] := by decide
  have digit : ∀ d : Fin 16, Text.hexValue? d.val.digitChar = some d.val := by decide
  have zero : Text.hexValue? '0' = some 0 := by decide
  have high := digit ⟨n / 16, by omega⟩
  have low := digit ⟨n % 16, by omega⟩
  have parts : Text.ofDigitValues 16 [0, 0, n / 16, n % 16] = n := by
    simp only [Text.ofDigitValues, List.foldl_cons, List.foldl_nil]
    omega
  rw [spelled ⟨n, control⟩]
  simp only [hexQuad?, List.cons_append, List.nil_append, zero, high, low, Option.bind_eq_bind,
    Option.bind_some, parts]

theorem charOf?_toNat (c : Char) : Text.charOf? c.toNat = some c := by
  have valid : c.toNat.isValidChar := c.valid
  rw [Text.charOf?, dif_pos valid]
  exact congrArg some (Char.ext rfl)

theorem escape?_control {c : Char} (control : c.toNat < 0x20) (rest : List Char) :
    escape? ('u' :: (Text.hexDigits 4 c.toNat ++ rest)) = some (c, rest) := by
  have plain : ¬(0xd800 ≤ c.toNat ∧ c.toNat < 0xdc00) := by omega
  simp only [escape?, hexQuad?_hexDigits control, charOf?_toNat, plain, Option.bind_eq_bind,
    Option.bind_some, ↓reduceIte]

/-- What is written in place of a character is read as that character. -/
theorem quoted?_escapeChar (c : Char) (fuel : Nat) (rest : List Char) :
    quoted? (fuel + 1) (escapeChar c ++ rest) =
      (quoted? fuel rest).map fun read => (c :: read.1, read.2) := by
  have escaped : ∀ {cs : List Char}, escape? cs = some (c, rest) →
      quoted? (fuel + 1) ('\\' :: cs) =
        (quoted? fuel rest).map fun read => (c :: read.1, read.2) := by
    intro cs read
    have other : '\\' ≠ '"' := by decide
    simp only [quoted?, read, other, ↓reduceIte, Option.bind_eq_bind, Option.bind_some]
    cases quoted? fuel rest <;> rfl
  unfold escapeChar
  -- Seven characters have an escape of their own.
  iterate 7
    split
    · next same =>
      subst same
      exact escaped rfl
  split
  · next control => exact escaped (escape?_control control rest)
  · next quote backslash _ _ _ _ _ visible =>
    simp only [quoted?, List.singleton_append, quote, backslash, visible, ↓reduceIte]
    cases quoted? fuel rest <;> rfl

theorem quoted?_escaped (cs : List Char) {fuel : Nat} (enough : cs.length < fuel)
    (rest : List Char) :
    quoted? fuel (cs.flatMap escapeChar ++ '"' :: rest) = some (cs, rest) := by
  induction cs generalizing fuel with
  | nil =>
    cases fuel with
    | zero => omega
    | succ fuel => rfl
  | cons c cs ih =>
    cases fuel with
    | zero => omega
    | succ fuel =>
      rw [List.flatMap_cons, List.append_assoc, quoted?_escapeChar,
        ih (Nat.lt_of_succ_lt_succ enough)]
      rfl

end Json

end Gleaner
