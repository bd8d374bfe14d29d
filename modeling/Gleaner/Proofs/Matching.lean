import Gleaner.Proofs.Layout
import Gleaner.Proofs.Matches
import Mathlib.Data.List.Forall2

set_option autoImplicit false

/-!
What searches find. The first match is the first of all; each has the whole match, within which its
other groups lie; and they follow one another in the text until there is no more. Main statement:
`Regex.agrees`.
-/
namespace Gleaner

namespace Pattern

/-- All positions that are saved lie in a stretch. -/
def Between (low high : Nat) (slots : Slots) : Prop :=
  ∀ position, some position ∈ slots → low ≤ position ∧ position ≤ high

theorem Between.set {low high position slot : Nat} {slots : Slots}
    (between : Between low high slots) (lower : low ≤ position) (upper : position ≤ high) :
    Between low high (slots.set slot (some position)) := by
  intro other mem
  rcases List.mem_or_eq_of_mem_set mem with before | now
  · exact between other before
  · exact Option.some.inj now ▸ ⟨lower, upper⟩

theorem Between.mono {low high high' : Nat} {slots : Slots} (between : Between low high slots)
    (le : high ≤ high') : Between low high' slots :=
  fun position mem => ⟨(between position mem).1, Nat.le_trans (between position mem).2 le⟩

/-- The slots of a match that has started, and comes to a position. -/
structure Open (program : Program) (position : Nat) (slots : Slots) : Prop where
  length : slots.length = 2 * program.groups
  bounds : ∃ first, slots[0]? = some (some first) ∧ Between first position slots

/-- The slots of a match that has ended, at a position or before. -/
structure Closed (program : Program) (position : Nat) (slots : Slots) : Prop where
  length : slots.length = 2 * program.groups
  bounds : ∃ first last, slots[0]? = some (some first) ∧ slots[1]? = some (some last) ∧
    Between first last slots ∧ last ≤ position

/-- How far a thread has come, which its instruction tells. -/
inductive Stage (program : Program) (position : Nat) : Thread → Prop
  | fresh : Stage program position ⟨program.start, List.replicate (2 * program.groups) none⟩
  | within {inst : Nat} {slots : Slots} (apart : 0 < inst ∧ inst ≠ program.start)
      (going : Open program position slots) : Stage program position ⟨inst, slots⟩
  | accept {slots : Slots} (ended : Closed program position slots) :
      Stage program position ⟨0, slots⟩

variable {program : Program} {text : Array Char} {position : Nat} {slots : Slots}

theorem Open.later (going : Open program position slots) :
    Open program (position + 1) slots := by
  obtain ⟨first, start, between⟩ := going.bounds
  exact ⟨going.length, first, start, between.mono (Nat.le_succ position)⟩

theorem Open.set (going : Open program position slots) {slot : Nat} (later : 2 ≤ slot) :
    Open program position (slots.set slot (some position)) := by
  obtain ⟨first, start, between⟩ := going.bounds
  have reached := (between first (List.mem_of_getElem? start)).2
  refine ⟨by rw [List.length_set, going.length], first, ?_, between.set reached (Nat.le_refl _)⟩
  rw [List.getElem?_set_ne (by omega), start]

theorem Open.close (groups : 0 < program.groups) (going : Open program position slots) :
    Closed program position (slots.set 1 (some position)) := by
  obtain ⟨first, start, between⟩ := going.bounds
  have reached := (between first (List.mem_of_getElem? start)).2
  have length := going.length
  refine ⟨by rw [List.length_set, length], first, position, ?_, ?_,
    between.set reached (Nat.le_refl _), Nat.le_refl _⟩
  · rw [List.getElem?_set_ne (by decide), start]
  · rw [List.getElem?_set_self (by omega)]

theorem open_fresh (groups : 0 < program.groups) (position : Nat) :
    Open program position
      ((List.replicate (2 * program.groups) none).set 0 (some position)) := by
  have length : (List.replicate (2 * program.groups) (none : Option Nat)).length =
      2 * program.groups := List.length_replicate
  refine ⟨by rw [List.length_set, length], position, ?_, fun other mem => ?_⟩
  · rw [List.getElem?_set_self (by omega)]
  · rcases List.mem_or_eq_of_mem_set mem with before | now
    · cases List.eq_of_mem_replicate before
    · exact Option.some.inj now ▸ ⟨Nat.le_refl _, Nat.le_refl _⟩

theorem Stage.eq_of_start {inst : Nat} (stage : Stage program position ⟨inst, slots⟩)
    (start : inst = program.start) (positive : 0 < inst) :
    slots = List.replicate (2 * program.groups) none := by
  cases stage with
  | fresh => rfl
  | within apart => exact absurd start apart.2
  | accept => exact absurd positive (Nat.lt_irrefl 0)

theorem Stage.going {inst : Nat} (stage : Stage program position ⟨inst, slots⟩)
    (apart : 1 ≤ inst ∧ inst ≠ program.start) : Open program position slots := by
  cases stage with
  | fresh => exact absurd rfl apart.2
  | within _ going => exact going
  | accept => exact absurd apart.1 (by decide)

/-- A thread moves on as its instruction says, and the start and the end of the whole match are where
it changes its stage. -/
theorem Program.Framed.invariant (framed : program.Framed) (start : Nat) :
    Invariant program start (Stage program) where
  fresh _ _ := .fresh
  check found stage := by
    cases framed.roles _ _ found with
    | inner apart inner =>
      exact .within ⟨inner.1, Nat.ne_of_lt inner.2⟩ (stage.going ⟨Nat.le_of_lt apart.1, apart.2⟩)
  save reached found stage := by
    cases framed.roles _ _ found with
    | close =>
      exact .accept ((stage.going ⟨Nat.le_refl 1, Nat.ne_of_lt framed.start⟩).close framed.groups)
    | start target =>
      have positive := Nat.lt_trans Nat.one_pos framed.start
      rw [stage.eq_of_start rfl positive]
      exact .within ⟨target.1, Nat.ne_of_lt target.2⟩ (open_fresh framed.groups _)
    | inner apart inner =>
      exact .within ⟨inner.2.1, Nat.ne_of_lt inner.2.2⟩
        ((stage.going ⟨Nat.le_of_lt apart.1, apart.2⟩).set inner.1)
  fork found mem stage := by
    cases framed.roles _ _ found with
    | inner apart inner =>
      obtain ⟨positive, before⟩ := inner _ mem
      exact .within ⟨positive, Nat.ne_of_lt before⟩
        (stage.going ⟨Nat.le_of_lt apart.1, apart.2⟩)
  take found stage := by
    cases framed.roles _ _ found with
    | inner apart inner =>
      exact .within ⟨inner.1, Nat.ne_of_lt inner.2⟩
        (stage.going ⟨Nat.le_of_lt apart.1, apart.2⟩).later

theorem Stage.closed {inst : Nat} (stage : Stage program position ⟨inst, slots⟩)
    (accepting : inst = 0) (positive : 0 < program.start) : Closed program position slots := by
  cases stage with
  | fresh => exact absurd accepting (Nat.ne_of_gt positive)
  | within apart => exact absurd accepting (Nat.ne_of_gt apart.1)
  | accept ended => exact ended

/-- The whole match, which is in the text, and all groups within it. -/
structure Encloses (text : Array Char) (slots : Slots) (whole : Span) : Prop where
  found : groupSpan slots 0 = some whole
  inside : whole.stop ≤ text.size
  groups : ∀ group span, groupSpan slots group = some span →
    whole.start ≤ span.start ∧ span.stop ≤ whole.stop

theorem Closed.encloses (ended : Closed program position slots) (inside : position ≤ text.size) :
    ∃ whole, Encloses text slots whole := by
  obtain ⟨first, last, start, stop, between, reached⟩ := ended.bounds
  have ordered := (between first (List.mem_of_getElem? start)).2
  refine ⟨⟨first, last⟩, ?_, Nat.le_trans reached inside, fun group span found => ?_⟩
  · simp only [groupSpan, Nat.mul_zero, Nat.zero_add, start, stop, if_pos ordered]
  · obtain ⟨starts, stops⟩ := groupSpan_mem found
    exact ⟨(between _ starts).1, (between _ stops).2⟩

theorem Program.Framed.encloses (framed : program.Framed) {start : Nat}
    (found : searchFrom program text start = some slots) :
    ∃ whole, Encloses text slots whole := by
  obtain ⟨position, inst, -, inside, accepts, stage⟩ :=
    (framed.invariant start).searchFrom found
  have positive := Nat.lt_trans Nat.one_pos framed.start
  cases framed.roles _ _ accepts with
  | accept => exact (stage.closed rfl positive).encloses inside
  | inner apart inner => exact inner.elim

/-- The matches from `position` on, up to where there is no other. -/
inductive Exhausts (program : Program) (text : Array Char) : Nat → Option Nat → List Slots → Prop
  | last {position : Nat} {lastStop : Option Nat}
      (none : nextMatch? program text position lastStop = none) :
      Exhausts program text position lastStop []
  | more {position : Nat} {lastStop : Option Nat} {slots : Slots} {span : Span}
      {others : List Slots} (found : nextMatch? program text position lastStop = some slots)
      (whole : groupSpan slots 0 = some span)
      (rest : Exhausts program text span.stop (some span.stop) others) :
      Exhausts program text position lastStop (slots :: others)

theorem Exhausts.found {lastStop : Option Nat} {found : List Slots}
    (exhausts : Exhausts program text position lastStop found) :
    ∀ slots ∈ found, ∃ start, searchFrom program text start = some slots := by
  induction exhausts with
  | last => exact List.forall_mem_nil _
  | more first _ _ ih =>
    obtain ⟨start, first, -⟩ := exists_searchFrom_of_nextMatch? first
    exact List.forall_mem_cons.2 ⟨⟨start, first⟩, ih⟩

/-- As many matches as may still follow one that ended at `lastStop`. -/
def remaining (text : Array Char) : Option Nat → Nat
  | none => text.size + 1
  | some stop => text.size - stop

/-- Each match ends behind the one before, so that they come to an end with the text. -/
theorem Program.Framed.exhausts (framed : program.Framed) (fuel : Nat) {position : Nat}
    {lastStop : Option Nat} (passed : ∀ stop, lastStop = some stop → stop ≤ position)
    (enough : remaining text lastStop < fuel) :
    Exhausts program text position lastStop (searchAll program text fuel position lastStop) ∧
      (searchAll program text fuel position lastStop).length ≤ remaining text lastStop := by
  induction fuel generalizing position lastStop with
  | zero => exact absurd enough (Nat.not_lt_zero _)
  | succ fuel ih =>
    rw [searchAll_succ]
    cases found : nextMatch? program text position lastStop with
    | none => exact ⟨.last found, Nat.zero_le _⟩
    | some slots =>
      obtain ⟨start, first, -⟩ := exists_searchFrom_of_nextMatch? found
      obtain ⟨whole, encloses⟩ := framed.encloses first
      obtain ⟨-, later⟩ := counts_of_nextMatch? passed found whole encloses.found
      have inside := encloses.inside
      -- Only the first match may end at the start of the text, and so counts for one more.
      have fewer : remaining text (some whole.stop) < remaining text lastStop := by
        cases lastStop with
        | none => simp only [remaining]; omega
        | some stop =>
          have := later stop rfl
          simp only [remaining]
          omega
      have reached : ∀ stop, some whole.stop = some stop → stop ≤ whole.stop :=
        fun stop same => Nat.le_of_eq (Option.some.inj same).symm
      obtain ⟨exhausts, count⟩ := ih reached (by omega)
      simp only [encloses.found, List.length_cons]
      exact ⟨.more found encloses.found exhausts, by omega⟩

end Pattern

namespace Regex

open Pattern

theorem framed {pattern : String} {regex : Regex} (compiled : compile? pattern = some regex) :
    regex.program.Framed := by
  obtain ⟨e, read, fits⟩ := Option.bind_eq_some_iff.1 compiled
  obtain ⟨-, same⟩ := Option.ite_none_right_eq_some.1 fits
  cases same
  exact Program.framed_ofExpr (numbered_of_read? read)

theorem exhausts_allSlots {pattern : String} {regex : Regex}
    (compiled : compile? pattern = some regex) (text : Array Char) :
    Exhausts regex.program text 0 none (regex.allSlots text) ∧
      (regex.allSlots text).length ≤ text.size + 1 :=
  (framed compiled).exhausts (text.size + 2) (fun _ none => by cases none) (Nat.lt_succ_self _)

theorem get?_capturesOf (regex : Regex) (text : Array Char) (slots : Slots) (group : Nat) :
    (regex.capturesOf text slots).get? group =
      if group < regex.groupCount then groupText text slots group else none := by
  simp only [Captures.get?, capturesOf, List.getElem?_map]
  split
  · next below => rw [List.getElem?_range below, Option.map_some, Option.join_some]
  · next above =>
    rw [List.getElem?_eq_none (by rw [List.length_range]; omega)]
    rfl

/-- The characters of a stretch of a text. -/
def stretch (text : String) (span : Span) : List Char :=
  text.toList.extract span.start span.stop

theorem groupText_toArray (text : String) (slots : Slots) (group : Nat) :
    groupText text.toList.toArray slots group =
      (groupSpan slots group).map fun span => String.ofList (stretch text span) := by
  simp only [groupText, Array.toList_extract, stretch]

theorem stretch_infix (text : String) {inner outer : Span} (starts : outer.start ≤ inner.start)
    (stops : inner.stop ≤ outer.stop) : stretch text inner <:+: stretch text outer := by
  have shorter : inner.stop - inner.start ≤
      outer.stop - outer.start - (inner.start - outer.start) := by omega
  have part : stretch text inner =
      ((stretch text outer).drop (inner.start - outer.start)).take (inner.stop - inner.start) := by
    rw [stretch, stretch, List.extract_eq_take_drop, List.extract_eq_take_drop, List.drop_take,
      List.take_take, List.drop_drop, Nat.min_eq_left shorter, Nat.add_sub_cancel' starts]
  rw [part]
  exact (List.take_prefix _ _).isInfix.trans (List.drop_suffix _ _).isInfix

/-- A match has as many groups as the pattern, first of all the whole match, of which the others are
parts. -/
structure Grouped (regex : Regex) (captures : Captures) : Prop where
  count : captures.groups.length = regex.groupCount
  whole : ∃ whole, captures.get? 0 = some whole ∧
    ∀ group part, captures.get? group = some part → part.toList <:+: whole.toList

/-- The whole match is what stands at a stretch of the text. -/
structure Covers (text : String) (captures : Captures) (span : Span) : Prop where
  ordered : span.start ≤ span.stop
  inside : span.stop ≤ text.length
  whole : captures.get? 0 = some (String.ofList (stretch text span))

/-- Where all matches are. -/
def spans (regex : Regex) (text : String) : List Span :=
  (regex.allSlots text.toList.toArray).filterMap (groupSpan · 0)

/-- What the first match and all matches have to do with each other, and with the text. -/
structure Agrees (regex : Regex) (text : String) : Prop where
  first : regex.first? text = (regex.all text).head?
  absent : regex.first? text = none ↔ regex.all text = []
  grouped : ∀ captures, regex.first? text = some captures ∨ captures ∈ regex.all text →
    regex.Grouped captures
  covers : List.Forall₂ (Covers text) (regex.all text) (regex.spans text)
  behind : (regex.spans text).Pairwise fun s t => s.stop ≤ t.start ∧ s.stop < t.stop
  exhausts : Exhausts regex.program text.toList.toArray 0 none
    (regex.allSlots text.toList.toArray)
  count : (regex.all text).length ≤ text.length + 1

section

variable {regex : Regex} {text : String} {slots : Slots} {whole : Span}

theorem get?_zero (positive : 0 < regex.groupCount)
    (encloses : Encloses text.toList.toArray slots whole) :
    (regex.capturesOf text.toList.toArray slots).get? 0 =
      some (String.ofList (stretch text whole)) := by
  rw [get?_capturesOf, if_pos positive, groupText_toArray, encloses.found, Option.map_some]

theorem grouped_of_encloses (positive : 0 < regex.groupCount)
    (encloses : Encloses text.toList.toArray slots whole) :
    regex.Grouped (regex.capturesOf text.toList.toArray slots) where
  count := by simp only [capturesOf, List.length_map, List.length_range]
  whole := by
    refine ⟨_, get?_zero positive encloses, fun group part found => ?_⟩
    rw [get?_capturesOf, groupText_toArray] at found
    obtain ⟨-, found⟩ := Option.ite_none_right_eq_some.1 found
    obtain ⟨span, spanned, rfl⟩ := Option.map_eq_some_iff.1 found
    obtain ⟨starts, stops⟩ := encloses.groups group span spanned
    rw [String.toList_ofList, String.toList_ofList]
    exact stretch_infix text starts stops

theorem covers_of_encloses (positive : 0 < regex.groupCount)
    (encloses : Encloses text.toList.toArray slots whole) :
    Covers text (regex.capturesOf text.toList.toArray slots) whole where
  ordered := groupSpan_ordered encloses.found
  inside := by
    rw [← String.length_toList]
    exact encloses.inside
  whole := get?_zero positive encloses

end

theorem forall₂_filterMap {α β : Type} {f : α → Option β} {R : α → β → Prop} {xs : List α}
    (all : ∀ x ∈ xs, ∃ y, f x = some y ∧ R x y) : List.Forall₂ R xs (xs.filterMap f) := by
  induction xs with
  | nil => exact .nil
  | cons x xs ih =>
    obtain ⟨⟨y, here, related⟩, others⟩ := List.forall_mem_cons.1 all
    rw [List.filterMap_cons_some here]
    exact .cons related (ih others)

/-- The first match is the first of all, and there is none only where there are none at all. Each
has the groups of its pattern, which are parts of the whole match; and the whole matches follow one
another in the text without overlapping, up to where there is no other. -/
theorem agrees {pattern : String} {regex : Regex} (compiled : compile? pattern = some regex)
    (text : String) : regex.Agrees text := by
  have framed := framed compiled
  have positive : 0 < regex.groupCount := framed.groups
  obtain ⟨exhausts, count⟩ := exhausts_allSlots compiled text.toList.toArray
  have encloses (slots : Slots) (mem : slots ∈ regex.allSlots text.toList.toArray) :
      ∃ whole, Encloses text.toList.toArray slots whole := by
    obtain ⟨start, found⟩ := exhausts.found slots mem
    exact framed.encloses found
  have first := (regex.head?_all text).symm
  refine ⟨first, ?_, ?_, ?_, ?_, exhausts, ?_⟩
  · rw [first, List.head?_eq_none_iff]
  · intro captures matched
    have mem : captures ∈ regex.all text :=
      matched.elim (fun head => List.mem_of_head? (first ▸ head)) id
    obtain ⟨slots, among, rfl⟩ := List.mem_map.1 mem
    obtain ⟨whole, encloses⟩ := encloses slots among
    exact grouped_of_encloses positive encloses
  · refine List.forall₂_map_left_iff.2 (forall₂_filterMap fun slots mem => ?_)
    obtain ⟨whole, encloses⟩ := encloses slots mem
    exact ⟨whole, encloses.found, covers_of_encloses positive encloses⟩
  · refine List.pairwise_filterMap.2 ((regex.allSlots_behind _).imp fun behind => ?_)
    exact fun s first t second => behind s t first second
  · rw [all, List.length_map, ← String.length_toList]
    exact count

example : ((compile? "a*").map fun regex => regex.spans "baa") = some [⟨0, 0⟩, ⟨1, 3⟩] := by
  decide +kernel

/-- The tracks of an album, one after the other. -/
def trackLine : Regex :=
  (compile? "Track: ([a-z]*)").get (by decide +kernel)

theorem agrees_tracks :
    compile? "Track: ([a-z]*)" = some trackLine ∧
      (trackLine.all "Track: one, Track: , Track: two").length = 3 ∧
      trackLine.Agrees "Track: one, Track: , Track: two" :=
  ⟨(Option.some_get _).symm, by decide +kernel, agrees (Option.some_get _).symm _⟩

end Regex

end Gleaner
