import Mathlib.Data.String.Basic
import Mathlib.Tactic.SplitIfs

set_option autoImplicit false

/-!
The order of texts is that of their UTF-8 bytes. A lesser code point has a form with a lesser byte
where the two first differ, whatever follows. Main statement: `Text.lt_iff_bytes_lt`.
-/
namespace Gleaner.Text

/-- The UTF-8 form of a text. -/
def bytes (text : String) : List UInt8 := text.toList.flatMap String.utf8EncodeChar

theorem bytes_eq (text : String) : bytes text = text.toByteArray.data.toList := by
  have encoded : text.toByteArray = text.toList.utf8Encode := by
    rw [← String.toByteArray_ofList, String.ofList_toList]
  rw [encoded, List.utf8Encode, List.data_toByteArray]
  rfl

theorem toNat_lt_of_char (c : Char) : c.val.toNat < 0x110000 := by
  rcases c.valid with low | high
  · have low : c.val.toNat < 0xd800 := low
    omega
  · exact high.2

theorem utf8EncodeChar_append_lt {c d : Char} (less : c < d) (after after' : List UInt8) :
    String.utf8EncodeChar c ++ after < String.utf8EncodeChar d ++ after' := by
  have less : c.val.toNat < d.val.toNat := less
  have last := toNat_lt_of_char d
  -- Each byte is a digit in base 64, with a mark.
  have second (n : Nat) : n / 4096 = n / 64 / 64 := by omega
  have third (n : Nat) : n / 262144 = n / 64 / 64 / 64 := by omega
  simp only [String.utf8EncodeChar, second, third]
  -- There is a case for every two lengths; the shorter form never starts with more.
  split_ifs <;>
    simp only [List.cons_append, List.nil_append, List.cons_lt_cons_iff, UInt8.lt_iff_toNat_lt,
      ← UInt8.toNat_inj, UInt8.toNat_ofNat'] <;>
    omega

theorem flatMap_utf8EncodeChar_lt {cs ds : List Char} (less : cs < ds) :
    cs.flatMap String.utf8EncodeChar < ds.flatMap String.utf8EncodeChar := by
  induction cs generalizing ds with
  | nil =>
    cases ds with
    | nil => cases less
    | cons d ds =>
      rw [List.flatMap_nil, List.flatMap_cons]
      simp only [String.utf8EncodeChar]
      split_ifs <;> exact List.nil_lt_cons _ _
  | cons c cs ih =>
    cases ds with
    | nil => cases less
    | cons d ds =>
      rw [List.flatMap_cons, List.flatMap_cons]
      rcases List.cons_lt_cons_iff.1 less with first | ⟨rfl, rest⟩
      · exact utf8EncodeChar_append_lt first _ _
      · exact List.append_left_lt (ih rest)

/-- Texts compare as their bytes do. -/
theorem lt_iff_bytes_lt (text other : String) : text < other ↔ bytes text < bytes other := by
  have forth : ∀ {text other : String}, text < other → bytes text < bytes other := fun less =>
    flatMap_utf8EncodeChar_lt (String.lt_iff_toList_lt.1 less)
  refine ⟨forth, fun less => ?_⟩
  rcases lt_trichotomy text other with before | rfl | after
  · exact before
  · exact absurd less (List.lt_irrefl _)
  · exact absurd less (List.lt_asymm (forth after))

end Gleaner.Text
