import Gleaner.Compression.Bzip2
import Gleaner.Compression.Deflate

set_option autoImplicit false

/-!
What comes after a stream does not matter to its reader. A reader that comes to its end does so just
the same when whole bytes are added to the bits that it reads, and leaves these over; more fuel does
not matter either. Main statements: `Deflate.extends_inflate`, `Bzip2.extends_blocks`.
-/
namespace Gleaner.Compression

/-- Where the first reader comes to an end, the second does so with whole bytes added, and leaves
them over. -/
def BitReader.Extends {α : Type} (first second : BitReader α) : Prop :=
  ∀ ⦃bits value rest⦄, first bits = some (value, rest) →
    ∀ more : List Bool, more.length % 8 = 0 → second (bits ++ more) = some (value, rest ++ more)

namespace BitReader

variable {α β : Type}

theorem extends_pure (value : α) : Extends (pure value) (pure value) := by
  intro bits value' rest read more _
  cases read
  rfl

theorem extends_failure (second : BitReader α) : Extends failure second :=
  fun _ _ _ read => nomatch read

theorem extends_lift (found : Option α) : Extends (liftM found) (liftM found) := by
  cases found with
  | none => exact fun _ _ _ read => nomatch read
  | some value => exact extends_pure value

theorem Extends.bind {first second : BitReader α} {next next' : α → BitReader β}
    (one : Extends first second) (other : ∀ value, Extends (next value) (next' value)) :
    Extends (first >>= next) (second >>= next') := by
  intro bits value rest read more whole
  obtain ⟨⟨mid, left⟩, before, after⟩ := Option.bind_eq_some_iff.1 read
  exact Option.bind_eq_some_iff.2
    ⟨(mid, left ++ more), one before more whole, other mid after more whole⟩

theorem Extends.map {first second : BitReader α} (one : Extends first second) (f : α → β) :
    Extends (f <$> first) (f <$> second) := by
  rw [map_eq_pure_bind, map_eq_pure_bind]
  exact one.bind fun value => extends_pure (f value)

theorem Extends.ite {condition : Prop} [Decidable condition]
    {first first' second second' : BitReader α} (one : Extends first first')
    (other : Extends second second') :
    Extends (if condition then first else second) (if condition then first' else second') := by
  by_cases holds : condition
  · rw [if_pos holds, if_pos holds]
    exact one
  · rw [if_neg holds, if_neg holds]
    exact other

theorem extends_get {next : List Bool → BitReader α}
    (grown : ∀ bits more, Extends (next bits) (next (bits ++ more))) :
    Extends (get >>= next) (get >>= next) :=
  fun bits _ _ read more whole => grown bits more read more whole

/-- How many bits there are may count as fuel. -/
theorem extends_fuelled {reader : Nat → BitReader α}
    (monotone : ∀ ⦃fuel fuel'⦄, fuel ≤ fuel' → Extends (reader fuel) (reader fuel')) :
    Extends (fun bits => reader bits.length bits) (fun bits => reader bits.length bits) := by
  have counted : ∀ bits more : List Bool,
      Extends (reader bits.length) (reader (bits ++ more).length) :=
    fun bits more => monotone (List.length_append ▸ Nat.le_add_right _ _)
  exact extends_get counted

theorem extends_bit : Extends bit bit := by
  intro bits value rest read more _
  cases bits with
  | nil => cases read
  | cons b bits =>
    cases read
    rfl

theorem extends_lowNumber (width : Nat) : Extends (lowNumber width) (lowNumber width) := by
  induction width with
  | zero => exact extends_pure 0
  | succ width ih => exact extends_bit.bind fun b => ih.bind fun rest => extends_pure _

theorem extends_highNumberFrom (high width : Nat) :
    Extends (highNumberFrom high width) (highNumberFrom high width) := by
  induction width generalizing high with
  | zero => exact extends_pure high
  | succ width ih => exact extends_bit.bind fun b => ih _

theorem extends_highNumber (width : Nat) : Extends (highNumber width) (highNumber width) :=
  extends_highNumberFrom 0 width

theorem Extends.times {first second : BitReader α} (one : Extends first second) (n : Nat) :
    Extends (times first n) (times second n) := by
  induction n with
  | zero => exact extends_pure []
  | succ n ih => exact one.bind fun value => ih.bind fun others => extends_pure _

theorem Extends.mapM {reader : α → BitReader β}
    (each : ∀ item, Extends (reader item) (reader item)) (items : List α) :
    Extends (items.mapM reader) (items.mapM reader) := by
  induction items with
  | nil => exact extends_pure []
  | cons item items ih =>
    rw [List.mapM_cons]
    exact (each item).bind fun value => ih.bind fun others => extends_pure _

/-- Whole bytes do not shift the bits before them. -/
theorem extends_align : Extends align align := by
  intro bits value rest read more whole
  cases read
  have same : (bits ++ more).length % 8 = bits.length % 8 := by
    rw [List.length_append]
    omega
  have within : bits.length % 8 ≤ bits.length := Nat.mod_le _ _
  simp only [align, same, List.drop_append_of_le_length within]

theorem extends_require (condition : Bool) : Extends (require condition) (require condition) := by
  cases condition with
  | false => exact extends_failure _
  | true => exact extends_pure ()

end BitReader

open BitReader

namespace HuffmanCode

theorem extends_decodeFrom (symbols : Array Nat) (word first index : Nat) (counts : List Nat) :
    Extends (decodeFrom symbols word first index counts)
      (decodeFrom symbols word first index counts) := by
  induction counts generalizing word first index with
  | nil => exact extends_failure _
  | cons count counts ih =>
    refine extends_bit.bind fun b => .ite ?_ (ih _ _ _)
    cases symbols[index + (2 * word + b.toNat - 2 * first)]? with
    | none => exact extends_failure _
    | some symbol => exact extends_pure symbol

theorem extends_decode (code : HuffmanCode) : Extends code.decode code.decode :=
  extends_decodeFrom code.symbols 0 0 0 code.counts

end HuffmanCode

open HuffmanCode (extends_decode)

namespace Deflate

theorem extends_extended (table : List (Nat × Nat)) (index : Nat) :
    Extends (extended table index) (extended table index) := by
  unfold extended
  cases table[index]? with
  | none => exact extends_failure _
  | some entry => exact (extends_lowNumber entry.2).bind fun more => extends_pure _

theorem extends_symbols (codes : Codes) {fuel fuel' : Nat} (enough : fuel ≤ fuel')
    (out : Array UInt8) : Extends (symbols codes fuel out) (symbols codes fuel' out) := by
  induction fuel generalizing fuel' out with
  | zero => exact extends_failure _
  | succ fuel ih =>
    obtain ⟨spare, rfl⟩ := Nat.exists_eq_add_of_lt enough
    have enough : fuel ≤ fuel + spare := Nat.le_add_right fuel spare
    refine (extends_decode codes.literals).bind fun symbol => ?_
    refine .ite (ih enough _) (.ite (extends_pure out) ?_)
    refine (extends_extended lengthTable _).bind fun length => ?_
    refine (extends_decode codes.distances).bind fun distanceSymbol => ?_
    refine (extends_extended distanceTable _).bind fun distance => ?_
    exact (extends_require _).bind fun _ => ih enough _

theorem extends_stored (out : Array UInt8) : Extends (stored out) (stored out) := by
  refine extends_align.bind fun _ => ?_
  refine (extends_lowNumber 16).bind fun length => ?_
  refine (extends_lowNumber 16).bind fun complement => ?_
  refine (extends_require _).bind fun _ => ?_
  exact ((extends_lowNumber 8).times length).bind fun bytes => extends_pure _

theorem extends_codeLengths (code : HuffmanCode) (total fuel : Nat) (reversed : List Nat) :
    Extends (codeLengths code total fuel reversed) (codeLengths code total fuel reversed) := by
  induction fuel generalizing reversed with
  | zero => exact extends_failure _
  | succ fuel ih =>
    refine .ite (extends_pure _) (.ite (extends_failure _) ?_)
    refine (extends_decode code).bind fun symbol => ?_
    refine .ite (ih _) (.ite ?_ (.ite ?_ ?_))
    · cases reversed with
      | nil => exact extends_failure _
      | cons last reversed => exact (extends_lowNumber 2).bind fun more => ih _
    · exact (extends_lowNumber 3).bind fun more => ih _
    · exact (extends_lowNumber 7).bind fun more => ih _

theorem extends_sentCodes : Extends sentCodes sentCodes := by
  refine (extends_lowNumber 5).bind fun literalCount => ?_
  refine (extends_lowNumber 5).bind fun distanceCount => ?_
  refine (extends_lowNumber 4).bind fun lengthCount => ?_
  refine (extends_require _).bind fun _ => ?_
  refine ((extends_lowNumber 3).times _).bind fun sent => ?_
  refine (extends_require _).bind fun _ => ?_
  refine (extends_codeLengths _ _ _ _).bind fun lengths => ?_
  exact (extends_require _).bind fun _ => extends_pure _

theorem extends_coded (codes : Codes) (out : Array UInt8) :
    Extends (coded codes out) (coded codes out) :=
  extends_fuelled fun _ _ enough => extends_symbols codes enough out

theorem extends_block (kind : Nat) (out : Array UInt8) :
    Extends (block kind out) (block kind out) := by
  unfold block
  split
  · exact extends_stored out
  · exact extends_coded fixedCodes out
  · exact extends_sentCodes.bind fun codes => extends_coded codes out
  · exact extends_failure _

theorem extends_blocks {fuel fuel' : Nat} (enough : fuel ≤ fuel') (out : Array UInt8) :
    Extends (blocks fuel out) (blocks fuel' out) := by
  induction fuel generalizing fuel' out with
  | zero => exact extends_failure _
  | succ fuel ih =>
    obtain ⟨spare, rfl⟩ := Nat.exists_eq_add_of_lt enough
    refine extends_bit.bind fun last => ?_
    refine (extends_lowNumber 2).bind fun kind => ?_
    refine (extends_block kind out).bind fun out => ?_
    exact .ite (extends_pure out) (ih (Nat.le_add_right fuel spare) out)

/-- What follows a deflated stream is left over. -/
theorem extends_inflate : Extends inflate inflate :=
  extends_fuelled fun _ _ enough => extends_blocks enough #[]

end Deflate

namespace Bzip2

theorem extends_usedBytes : Extends usedBytes usedBytes := by
  refine (extends_bit.times 16).bind fun sixteens => ?_
  refine (Extends.mapM (fun entry => ?_) _).bind fun used => extends_pure _
  exact .ite ((extends_bit.times 16).bind fun bits => extends_pure _) (extends_pure [])

theorem extends_unary (limit : Nat) : Extends (unary limit) (unary limit) := by
  induction limit with
  | zero => exact extends_failure _
  | succ limit ih => exact extends_bit.bind fun b => .ite (ih.map _) (extends_pure 0)

theorem extends_codeLength {fuel fuel' : Nat} (enough : fuel ≤ fuel') (length : Nat) :
    Extends (codeLength fuel length) (codeLength fuel' length) := by
  induction fuel generalizing fuel' length with
  | zero => exact extends_failure _
  | succ fuel ih =>
    obtain ⟨spare, rfl⟩ := Nat.exists_eq_add_of_lt enough
    have enough : fuel ≤ fuel + spare := Nat.le_add_right fuel spare
    refine (extends_require _).bind fun _ => ?_
    refine extends_bit.bind fun changed => .ite ?_ (extends_pure length)
    exact extends_bit.bind fun down => .ite (ih enough _) (ih enough _)

theorem extends_codeLengths {fuel fuel' : Nat} (enough : fuel ≤ fuel') (length n : Nat) :
    Extends (codeLengths fuel length n) (codeLengths fuel' length n) := by
  induction n generalizing length with
  | zero => exact extends_pure []
  | succ n ih =>
    refine (extends_codeLength enough length).bind fun first => ?_
    exact (ih first).bind fun others => extends_pure _

theorem extends_code {fuel fuel' : Nat} (enough : fuel ≤ fuel') (symbols : Nat) :
    Extends (code fuel symbols) (code fuel' symbols) := by
  refine (extends_highNumber 5).bind fun length => ?_
  exact (extends_codeLengths enough length symbols).bind fun lengths => extends_pure _

theorem extends_symbols (codes : Array HuffmanCode) (endOfBlock : Nat) {fuel fuel' : Nat}
    (enough : fuel ≤ fuel') (present : HuffmanCode) (left : Nat) (selectors : List Nat) :
    Extends (symbols codes endOfBlock fuel present left selectors)
      (symbols codes endOfBlock fuel' present left selectors) := by
  induction fuel generalizing fuel' present left selectors with
  | zero =>
    unfold symbols
    exact extends_failure _
  | succ fuel ih =>
    obtain ⟨spare, rfl⟩ := Nat.exists_eq_add_of_lt enough
    have enough : fuel ≤ fuel + spare := Nat.le_add_right fuel spare
    cases left with
    | succ left =>
      refine (extends_decode present).bind fun symbol => ?_
      exact .ite (extends_pure []) ((ih enough present left selectors).map _)
    | zero =>
      cases selectors with
      | nil =>
        unfold symbols
        exact extends_failure _
      | cons selector selectors =>
        simp only [symbols]
        cases codes[selector]? with
        | none => exact extends_failure _
        | some next =>
          refine (extends_decode next).bind fun symbol => ?_
          exact .ite (extends_pure []) ((ih enough next _ selectors).map _)

theorem extends_block (level : Nat) : Extends (block level) (block level) := by
  refine (extends_highNumber 32).bind fun checksum => ?_
  refine extends_bit.bind fun scrambled => ?_
  refine (extends_highNumber 24).bind fun row => ?_
  refine extends_usedBytes.bind fun used => ?_
  refine (extends_require _).bind fun _ => ?_
  refine (extends_highNumber 3).bind fun codeCount => ?_
  refine (extends_require _).bind fun _ => ?_
  refine (extends_highNumber 15).bind fun selectorCount => ?_
  refine (extends_require _).bind fun _ => ?_
  refine ((extends_unary codeCount).times selectorCount).bind fun positions => ?_
  refine (extends_lift _).bind fun selectors => ?_
  -- The bits that are left are the fuel for the codes and for the symbols.
  refine extends_get fun bits more => ?_
  have enough : bits.length ≤ (bits ++ more).length := List.length_append ▸ Nat.le_add_right _ _
  refine ((extends_code enough _).times codeCount).bind fun codes => ?_
  refine (extends_symbols _ _ (Nat.succ_le_succ enough) _ 0 selectors).bind fun sent => ?_
  refine (extends_lift _).bind fun last => ?_
  refine (extends_require _).bind fun _ => ?_
  refine (extends_lift _).bind fun bytes => ?_
  exact (extends_require _).bind fun _ => extends_pure _

theorem extends_blocks (level : Nat) {fuel fuel' : Nat} (enough : fuel ≤ fuel')
    (combined : Nat) : Extends (blocks level fuel combined) (blocks level fuel' combined) := by
  induction fuel generalizing fuel' combined with
  | zero => exact extends_failure _
  | succ fuel ih =>
    obtain ⟨spare, rfl⟩ := Nat.exists_eq_add_of_lt enough
    have enough : fuel ≤ fuel + spare := Nat.le_add_right fuel spare
    refine (extends_highNumber 48).bind fun mark => .ite ?_ (.ite ?_ (extends_failure _))
    · refine (extends_block level).bind fun sent => ?_
      exact (ih enough _).bind fun others => extends_pure _
    · refine (extends_highNumber 32).bind fun checksum => ?_
      exact (extends_require _).bind fun _ => extends_pure _

end Bzip2

end Gleaner.Compression
