import Gleaner.Proofs.Streams
import Gleaner.Source.Local

set_option autoImplicit false

/-!
Compressed files of several members. The content of such a file is that of its first member: what
follows it is neither read nor refused. Main statements: `CompressionFormat.decompress?_append`,
`Reader.read_members`.
-/
namespace Gleaner

namespace Compression

open BitReader

/-- Whole bytes have a whole number of eights of bits. -/
theorem length_flatMap_bits {bits : UInt8 → List Bool} (eight : ∀ byte, (bits byte).length = 8)
    (bytes : List UInt8) : (bytes.flatMap bits).length % 8 = 0 := by
  induction bytes with
  | nil => rfl
  | cons byte bytes ih =>
    rw [List.flatMap_cons, List.length_append, eight]
    omega

theorem length_lowFirst (byte : UInt8) : (lowFirst byte).length = 8 := by
  simp only [lowFirst, List.length_map, List.length_range]

theorem length_highFirst (byte : UInt8) : (highFirst byte).length = 8 := by
  rw [highFirst, List.length_reverse, length_lowFirst]

namespace Gzip

variable (more : List UInt8)

/-- Where one function finds what comes after a part of a file, the other finds the same with more
bytes behind it. -/
def Passes (after? after?' : List UInt8 → Option (List UInt8)) : Prop :=
  ∀ ⦃bytes rest⦄, after? bytes = some rest → after?' (bytes ++ more) = some (rest ++ more)

theorem split?_append {count : Nat} {bytes front rest : List UInt8}
    (split : split? count bytes = some (front, rest)) :
    split? count (bytes ++ more) = some (front, rest ++ more) := by
  rw [split?, List.splitAt_eq] at split
  obtain ⟨within, both⟩ := Option.ite_none_right_eq_some.1 split
  cases both
  have within' : count ≤ (bytes ++ more).length := by
    rw [List.length_append]
    omega
  rw [split?, if_pos within', List.splitAt_eq, List.take_append_of_le_length within,
    List.drop_append_of_le_length within]

theorem passes_text : Passes more afterText? afterText? := by
  intro bytes rest ended
  unfold afterText? at ended ⊢
  cases found : bytes.dropWhile (· != 0) with
  | nil =>
    rw [found] at ended
    cases ended
  | cons zero tail =>
    rw [found] at ended
    obtain ⟨short, same⟩ := Option.ite_none_right_eq_some.1 ended
    cases same
    have found' : (bytes ++ more).dropWhile (· != 0) = zero :: (rest ++ more) := by
      rw [List.dropWhile_append, found]
      rfl
    have short' : (bytes ++ more).length - (rest ++ more).length - 1 ≤ longestText := by
      rw [List.length_append, List.length_append, Nat.add_sub_add_right]
      exact short
    simp only [found', if_pos short']

theorem passes_extra : Passes more afterExtra? afterExtra? := by
  intro bytes rest ended
  obtain ⟨⟨length, tail⟩, counted, ended⟩ := Option.bind_eq_some_iff.1 ended
  obtain ⟨⟨field, tail⟩, skipped, ended⟩ := Option.bind_eq_some_iff.1 ended
  cases ended
  simp only [afterExtra?, split?_append more counted, split?_append more skipped,
    Option.bind_eq_bind, Option.bind_some]

/-- The checksum is that of the bytes before it, which stay the same. -/
theorem passes_checksum (header : List UInt8) :
    Passes more (afterChecksum? header) (afterChecksum? (header ++ more)) := by
  intro bytes rest ended
  obtain ⟨⟨sum, tail⟩, summed, ended⟩ := Option.bind_eq_some_iff.1 ended
  obtain ⟨right, same⟩ := Option.ite_none_right_eq_some.1 ended
  cases same
  have before : (header ++ more).take ((header ++ more).length - (bytes ++ more).length) =
      header.take (header.length - bytes.length) := by
    rw [List.length_append, List.length_append, Nat.add_sub_add_right,
      List.take_append_of_le_length (Nat.sub_le _ _)]
  simp only [afterChecksum?, split?_append more summed, Option.bind_eq_bind, Option.bind_some,
    before, if_pos right]

variable {more}

theorem Passes.skip {after? after?' : List UInt8 → Option (List UInt8)}
    (passes : Passes more after? after?') (flags flag : Nat) :
    Passes more (skip? flags flag after?) (skip? flags flag after?') := by
  intro bytes rest ended
  unfold skip? at ended ⊢
  cases set : flags.testBit flag with
  | true =>
    rw [set] at ended
    exact passes ended
  | false =>
    rw [set] at ended
    cases ended
    rfl

variable (more)

theorem passes_header : Passes more afterHeader? afterHeader? := by
  intro bytes rest ended
  unfold afterHeader? at ended
  split at ended
  · next flags tail =>
    obtain ⟨known, ended⟩ := Option.ite_none_left_eq_some.1 ended
    obtain ⟨⟨about, tail⟩, described, ended⟩ := Option.bind_eq_some_iff.1 ended
    obtain ⟨tail, extra, ended⟩ := Option.bind_eq_some_iff.1 ended
    obtain ⟨tail, name, ended⟩ := Option.bind_eq_some_iff.1 ended
    obtain ⟨tail, comment, checksum⟩ := Option.bind_eq_some_iff.1 ended
    have extra := (passes_extra more).skip _ _ extra
    have name := (passes_text more).skip _ _ name
    have comment := (passes_text more).skip _ _ comment
    have checksum := (passes_checksum more _).skip _ _ checksum
    simp only [List.cons_append] at checksum
    simp only [List.cons_append, afterHeader?, if_neg known, split?_append more described, extra,
      name, comment, checksum, Option.bind_eq_bind, Option.bind_some]
  · cases ended

/-- The checksum and the length of the content, which stand behind it. -/
def trailer : BitReader (Nat × Nat) := do
  align
  let sum ← lowNumber 32
  let length ← lowNumber 32
  pure (sum, length)

theorem extends_trailer : Extends trailer trailer := by
  refine extends_align.bind fun _ => ?_
  refine (extends_lowNumber 32).bind fun sum => ?_
  exact (extends_lowNumber 32).bind fun length => extends_pure _

/-- What follows the first member of a file is not looked at. -/
theorem decompress?_append {bytes content : List UInt8}
    (restored : decompress? bytes = some content) :
    decompress? (bytes ++ more) = some content := by
  obtain ⟨body, header, restored⟩ := Option.bind_eq_some_iff.1 restored
  obtain ⟨⟨out, left⟩, inflated, restored⟩ := Option.bind_eq_some_iff.1 restored
  obtain ⟨⟨trailer, left'⟩, ended, restored⟩ := Option.bind_eq_some_iff.1 restored
  have whole := length_flatMap_bits length_lowFirst more
  have header := passes_header more header
  have inflated := Deflate.extends_inflate inflated _ whole
  have ended := extends_trailer ended _ whole
  rw [← List.flatMap_append] at inflated
  simp only [decompress?, StateT.run, header, inflated, Option.bind_eq_bind, Option.bind_some]
  exact Option.bind_eq_some_iff.2 ⟨_, ended, restored⟩

end Gzip

namespace Bzip2

/-- What follows the first stream of a file is not looked at. -/
theorem decompress?_append {bytes content : List UInt8}
    (restored : decompress? bytes = some content) (more : List UInt8) :
    decompress? (bytes ++ more) = some content := by
  unfold decompress? at restored
  split at restored
  · next level rest =>
    obtain ⟨digit, restored⟩ := Option.ite_none_right_eq_some.1 restored
    obtain ⟨⟨out, left⟩, read, same⟩ := Option.map_eq_some_iff.1 restored
    cases same
    have whole := length_flatMap_bits length_highFirst more
    have enough : rest.length + 1 ≤ (rest ++ more).length + 1 := by
      rw [List.length_append]
      omega
    have read := extends_blocks _ enough 0 read _ whole
    rw [← List.flatMap_append] at read
    simp only [List.cons_append, decompress?, if_pos digit, StateT.run, read, Option.map_some]
  · cases restored

end Bzip2

end Compression

/-- What follows the first member of a compressed file is not looked at. -/
theorem CompressionFormat.decompress?_append {format : CompressionFormat}
    (compressed : format ≠ .none) {bytes content : List UInt8}
    (restored : format.decompress? bytes = some content) (more : List UInt8) :
    format.decompress? (bytes ++ more) = some content := by
  cases format with
  | none => exact absurd rfl compressed
  | gzip => exact Compression.Gzip.decompress?_append more restored
  | bzip2 => exact Compression.Bzip2.decompress?_append restored more

namespace Reader

variable {m : Type → Type} [Monad m] [LawfulMonad m]

/-- Of a compressed file of several members, each with its content, only the content of the first is
read. That is the whole content just if there is nothing in the others. -/
theorem read_members {format : CompressionFormat} (compressed : format ≠ .none)
    {first : List UInt8 × List UInt8} {others : List (List UInt8 × List UInt8)}
    (restored : ∀ member ∈ first :: others, format.decompress? member.1 = some member.2) :
    let file := (first :: others).flatMap Prod.fst
    (format.decompress? file = some ((first :: others).flatMap Prod.snd) ↔
        ∀ member ∈ others, member.2 = []) ∧
      format.decompress? file = some first.2 ∧
      ∀ (store : FileStore m) (root : Option String) (reference path : String),
        (Reference.ofText reference).path? root = some path →
        CompressionFormat.ofPath path = format → store.read path = pure (.ok file) →
        (files store root).read reference = pure (.ok (Text.decodeLossy first.2)) := by
  intro file
  have read : format.decompress? file = some first.2 :=
    CompressionFormat.decompress?_append compressed (restored first (.head _)) _
  refine ⟨?_, read, fun store root reference path located extension content => ?_⟩
  · rw [read, Option.some_inj, List.flatMap_cons, List.self_eq_append_right, List.flatMap_eq_nil_iff]
  · have text : textOf path file = .ok (Text.decodeLossy first.2) := by
      simp only [textOf, extension, read]
    simp only [files, located, content, pure_bind, text]

end Reader

/-- Two lines of a log that were compressed one after the other. -/
def logMembers : List (List UInt8 × List UInt8) :=
  [([31, 139, 8, 0, 0, 0, 0, 0, 0, 255, 1, 2, 0, 253, 255, 97, 10, 7, 161, 234, 221, 2, 0, 0, 0],
    [97, 10]),
   ([31, 139, 8, 0, 0, 0, 0, 0, 0, 255, 1, 2, 0, 253, 255, 98, 10, 196, 242, 199, 246, 2, 0, 0, 0],
    [98, 10])]

theorem logMembers_restored :
    ∀ member ∈ logMembers, CompressionFormat.gzip.decompress? member.1 = some member.2 := by
  decide +kernel

/-- A directory with the log only. -/
def logStore : FileStore Id where
  read path :=
    if path = "log.gz" then .ok (logMembers.flatMap Prod.fst) else .error .missing
  isFile path := pure (path == "log.gz")
  isDirectory path := pure (path == "")
  names? path := if path = "" then some ["log.gz"] else none

/-- Of the log only the first line is read. -/
theorem Reader.read_members_log :
    (∀ member ∈ logMembers, CompressionFormat.gzip.decompress? member.1 = some member.2) ∧
      (Reader.files logStore none).read "log.gz" = .ok (Text.decodeLossy [97, 10]) := by
  have located : (Reference.ofText "log.gz").path? none = some "log.gz" := by decide +kernel
  have extension : CompressionFormat.ofPath "log.gz" = .gzip := by decide +kernel
  have read := (Reader.read_members (by decide) logMembers_restored).2.2 logStore none "log.gz"
  exact ⟨logMembers_restored, read "log.gz" located extension rfl⟩

/-- Files of several members are not always read in full. -/
theorem log_lines_dropped :
    ¬∀ members ≠ [],
      (∀ member ∈ members, CompressionFormat.gzip.decompress? member.1 = some member.2) →
        CompressionFormat.gzip.decompress? (members.flatMap Prod.fst) =
          some (members.flatMap Prod.snd) := by
  intro full
  have dropped : CompressionFormat.gzip.decompress? (logMembers.flatMap Prod.fst) ≠
      some (logMembers.flatMap Prod.snd) := by decide +kernel
  exact dropped (full logMembers (List.cons_ne_nil _ _) logMembers_restored)

end Gleaner
