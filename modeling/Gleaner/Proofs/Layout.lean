import Gleaner.Pattern.Program
import Gleaner.Proofs.Numbering

set_option autoImplicit false

/-!
How a program is laid out. It accepts in one place, which only the end of the whole match leads to;
it starts with the start of the whole match, where no way leads back to; and all that lies between
saves other positions than these two. Main statement: `Pattern.Program.framed_ofExpr`.
-/
namespace Gleaner.Pattern

/-- An instruction between the start and the end of the whole match: it leads to others of these, or
to the end, and saves neither of the two. -/
def Inst.Inner (bound : Nat) : Inst → Prop
  | .take _ next | .check _ next => 0 < next ∧ next < bound
  | .save slot next => 2 ≤ slot ∧ 0 < next ∧ next < bound
  | .fork nexts => ∀ next ∈ nexts, 0 < next ∧ next < bound
  | .accept => False

theorem Inst.Inner.mono {bound bound' : Nat} (le : bound ≤ bound') {inst : Inst}
    (inner : inst.Inner bound) : inst.Inner bound' := by
  cases inst with
  | take set next | check look next => exact ⟨inner.1, Nat.lt_of_lt_of_le inner.2 le⟩
  | save slot next => exact ⟨inner.1, inner.2.1, Nat.lt_of_lt_of_le inner.2.2 le⟩
  | fork nexts =>
    exact fun next mem => ⟨(inner next mem).1, Nat.lt_of_lt_of_le (inner next mem).2 le⟩
  | accept => exact inner

namespace Program

/-- Instructions up to the start of the whole match, which comes last. -/
structure Sound (insts : Array Inst) : Prop where
  accept : insts[0]? = some .accept
  close : insts[1]? = some (.save 1 0)
  inner : ∀ i inst, 2 ≤ i → insts[i]? = some inst → inst.Inner insts.size

/-- A place that instructions may lead to. -/
def Target (insts : Array Inst) (place : Nat) : Prop :=
  0 < place ∧ place < insts.size

/-- What is built behind instructions: more of them, and a place among them all to go on at. -/
structure Extends (insts : Array Inst) (built : Nat × Array Inst) : Prop where
  sound : Sound built.2
  grows : insts.size ≤ built.2.size
  entry : Target built.2 built.1

/-- A piece that may be built behind any instructions, with any place to go on at. -/
def Adds (piece : Nat → Build Nat) : Prop :=
  ∀ ⦃insts : Array Inst⦄ ⦃next : Nat⦄, Sound insts → Target insts next →
    Extends insts ((piece next).run insts)

variable {insts : Array Inst} {next : Nat}

theorem Sound.two_le_size (sound : Sound insts) : 2 ≤ insts.size :=
  (Array.getElem?_eq_some_iff.1 sound.close).1

theorem Target.mono {insts' : Array Inst} {place : Nat} (target : Target insts place)
    (grows : insts.size ≤ insts'.size) : Target insts' place :=
  ⟨target.1, Nat.lt_of_lt_of_le target.2 grows⟩

theorem Extends.of_le {insts' : Array Inst} {built : Nat × Array Inst}
    (later : Extends insts' built) (grows : insts.size ≤ insts'.size) : Extends insts built :=
  ⟨later.sound, Nat.le_trans grows later.grows, later.entry⟩

theorem extends_pure (sound : Sound insts) (target : Target insts next) :
    Extends insts ((pure next : Build Nat).run insts) :=
  ⟨sound, Nat.le_refl _, target⟩

theorem sound_push (sound : Sound insts) {inst : Inst} (inner : inst.Inner insts.size) :
    Sound (insts.push inst) := by
  have two := sound.two_le_size
  have before {i : Nat} (less : i < insts.size) : (insts.push inst)[i]? = insts[i]? := by
    rw [Array.getElem?_push, if_neg (Nat.ne_of_lt less)]
  refine ⟨(before (by omega)).trans sound.accept, (before (by omega)).trans sound.close, ?_⟩
  intro i other later found
  rw [Array.size_push]
  rw [Array.getElem?_push] at found
  split at found
  · exact Option.some.inj found ▸ inner.mono (Nat.le_succ _)
  · exact (sound.inner i other later found).mono (Nat.le_succ _)

theorem target_push (sound : Sound insts) (inst : Inst) : Target (insts.push inst) insts.size := by
  have two := sound.two_le_size
  refine ⟨Nat.lt_of_lt_of_le Nat.two_pos two, ?_⟩
  rw [Array.size_push]
  exact Nat.lt_succ_self _

theorem extends_emit (sound : Sound insts) {inst : Inst} (inner : inst.Inner insts.size) :
    Extends insts ((emit inst).run insts) :=
  ⟨sound_push sound inner, Nat.le_of_lt (target_push sound inst).2, target_push sound inst⟩

theorem sound_patch (sound : Sound insts) {index : Nat} (behind : 2 ≤ index) {inst : Inst}
    (inner : inst.Inner insts.size) : Sound (insts.setIfInBounds index inst) where
  accept := by rw [Array.getElem?_setIfInBounds_ne (by omega), sound.accept]
  close := by rw [Array.getElem?_setIfInBounds_ne (by omega), sound.close]
  inner i other later found := by
    rw [Array.size_setIfInBounds]
    by_cases same : index = i
    · subst same
      have within := (Array.getElem?_eq_some_iff.1 found).1
      rw [Array.size_setIfInBounds] at within
      rw [Array.getElem?_setIfInBounds_self_of_lt within] at found
      exact Option.some.inj found ▸ inner
    · rw [Array.getElem?_setIfInBounds_ne same] at found
      exact sound.inner i other later found

theorem inner_fork {nexts : List Nat} (targets : ∀ next ∈ nexts, Target insts next) :
    (Inst.fork nexts).Inner insts.size := targets

theorem inner_choice (greedy : Bool) {inner : Nat} (entry : Target insts inner)
    (target : Target insts next) : (choice greedy inner next).Inner insts.size := by
  cases greedy with
  | true => exact inner_fork (List.forall_mem_cons.2 ⟨entry, List.forall_mem_singleton.2 target⟩)
  | false => exact inner_fork (List.forall_mem_cons.2 ⟨target, List.forall_mem_singleton.2 entry⟩)

section

variable {piece : Nat → Build Nat} (adds : Adds piece)

include adds

theorem adds_copies (count : Nat) : Adds (copies piece count) := by
  intro insts next sound target
  induction count generalizing insts next with
  | zero => exact extends_pure sound target
  | succ count ih =>
    have first := adds sound target
    exact (ih first.sound first.entry).of_le first.grows

theorem extends_optional (greedy : Bool) {out : Nat} (count : Nat) (sound : Sound insts)
    (outside : Target insts out) (target : Target insts next) :
    Extends insts ((optional piece greedy out count next).run insts) := by
  induction count generalizing insts next with
  | zero => exact extends_pure sound target
  | succ count ih =>
    have first := adds sound target
    have outside := outside.mono first.grows
    have fork := extends_emit first.sound (inner_choice greedy first.entry outside)
    exact ((ih fork.sound (outside.mono fork.grows) fork.entry).of_le fork.grows).of_le first.grows

theorem extends_repeated (greedy : Bool) (sound : Sound insts) (target : Target insts next) :
    let built := (repeated piece greedy next).run insts
    Extends insts (built.1.1, built.2) ∧ Extends insts (built.1.2, built.2) := by
  have empty : (Inst.fork []).Inner insts.size := List.forall_mem_nil _
  have fork := target_push sound (.fork [])
  have inside := adds (sound_push sound empty) fork
  -- The fork stands before the piece that it leads to, and gets its ways on afterwards.
  have run : (repeated piece greedy next).run insts =
      let inside := (piece insts.size).run (insts.push (.fork []))
      ((inside.1, insts.size),
        inside.2.setIfInBounds insts.size (choice greedy inside.1 next)) := rfl
  rw [run]
  have start := fork.mono inside.grows
  generalize (piece insts.size).run (insts.push (.fork [])) = built at inside start
  have grows : insts.size ≤ built.2.size := Nat.le_of_lt start.2
  have patched := sound_patch inside.sound sound.two_le_size
    (inner_choice greedy inside.entry (target.mono grows))
  have size : (built.2.setIfInBounds insts.size (choice greedy built.1 next)).size =
      built.2.size := Array.size_setIfInBounds ..
  exact ⟨⟨patched, by rw [size]; exact grows, inside.entry.mono (Nat.le_of_eq size.symm)⟩,
    ⟨patched, by rw [size]; exact grows, start.mono (Nat.le_of_eq size.symm)⟩⟩

theorem adds_repetition (mayBeEmpty : Bool) (least : Nat) (most : Option Nat) (greedy : Bool) :
    Adds (repetition piece mayBeEmpty least most greedy) := by
  intro insts next sound target
  unfold repetition
  split
  · next most =>
    have rest := extends_optional adds greedy (most - least) sound target target
    exact (adds_copies adds least rest.sound rest.entry).of_le rest.grows
  · have first := extends_repeated adds greedy sound target
    split
    · split
      · have fork := inner_choice greedy first.1.entry (target.mono first.1.grows)
        exact (extends_emit first.1.sound fork).of_le first.1.grows
      · exact first.2
    · next least =>
      exact (adds_copies adds least first.1.sound first.1.entry).of_le first.1.grows

end

theorem extends_save (slot : Nat) (later : 2 ≤ slot) (sound : Sound insts)
    (target : Target insts next) : Extends insts ((emit (.save slot next)).run insts) :=
  extends_emit sound ⟨later, target⟩

mutual

/-- What is compiled of a pattern whose groups are counted from one on leaves the start and the end
of the whole match alone. -/
theorem adds_compile : (e : Expr) → e.Numbered → Adds (compile e)
  | .empty, _ => fun _ _ sound target => extends_pure sound target
  | .set _, _ | .look _, _ => fun _ _ sound target => extends_emit sound target
  | .repetition least most greedy inner, numbered =>
    adds_repetition (adds_compile inner numbered) _ _ _ _
  | .capture index inner, numbered => by
    intro insts next sound target
    have positive : 0 < index := numbered.1
    have close := extends_save (2 * index + 1) (by omega) sound target
    have inside := adds_compile inner numbered.2 close.sound close.entry
    have start := extends_save (2 * index) (by omega) inside.sound inside.entry
    exact (start.of_le inside.grows).of_le close.grows
  | .concat items, numbered => adds_compileAll items numbered
  | .alternation branches, numbered => by
    intro insts next sound target
    obtain ⟨sound, grows, entries⟩ := extends_compileEach branches numbered sound target
    exact (extends_emit sound (inner_fork entries)).of_le grows

theorem adds_compileAll : (items : List Expr) → Expr.AllNumbered items → Adds (compileAll items)
  | [], _ => fun _ _ sound target => extends_pure sound target
  | item :: items, numbered => by
    intro insts next sound target
    have rest := adds_compileAll items numbered.2 sound target
    exact (adds_compile item numbered.1 rest.sound rest.entry).of_le rest.grows

theorem extends_compileEach : {insts : Array Inst} → {next : Nat} → (branches : List Expr) →
    Expr.AllNumbered branches → Sound insts → Target insts next →
      let built := (compileEach branches next).run insts
      Sound built.2 ∧ insts.size ≤ built.2.size ∧ ∀ entry ∈ built.1, Target built.2 entry
  | _, _, [], _, sound, _ => ⟨sound, Nat.le_refl _, List.forall_mem_nil _⟩
  | _, _, item :: items, numbered, sound, target => by
    have first := adds_compile item numbered.1 sound target
    obtain ⟨sound, grows, entries⟩ :=
      extends_compileEach items numbered.2 first.sound (target.mono first.grows)
    exact ⟨sound, Nat.le_trans first.grows grows,
      List.forall_mem_cons.2 ⟨first.entry.mono grows, entries⟩⟩

end

/-- What the instructions of a program are for. -/
inductive Role (program : Program) : Nat → Inst → Prop
  | accept : Role program 0 .accept
  | close : Role program 1 (.save 1 0)
  | start {entry : Nat} (target : 0 < entry ∧ entry < program.start) :
      Role program program.start (.save 0 entry)
  | inner {i : Nat} {inst : Inst} (apart : 1 < i ∧ i ≠ program.start)
      (inner : inst.Inner program.start) : Role program i inst

/-- A program that saves the start and the end of the whole match where it is entered and left. -/
structure Framed (program : Program) : Prop where
  roles : ∀ i inst, program.insts[i]? = some inst → Role program i inst
  start : 1 < program.start
  groups : 0 < program.groups

theorem framed_ofExpr {e : Expr} (numbered : e.Numbered) : Framed (ofExpr e) := by
  have frame : Sound #[.accept, .save 1 0] := by
    refine ⟨rfl, rfl, fun i inst later found => ?_⟩
    have within := (Array.getElem?_eq_some_iff.1 found).1
    exact absurd within (Nat.not_lt.2 later)
  obtain ⟨sound, grows, entry⟩ := adds_compile e numbered frame ⟨Nat.one_pos, Nat.one_lt_two⟩
  have built : ofExpr e =
      let inside := (compile e 1).run #[.accept, .save 1 0]
      ⟨inside.2.push (.save 0 inside.1), inside.2.size, e.lastGroup + 1⟩ := rfl
  rw [built]
  generalize (compile e 1).run #[.accept, .save 1 0] = inside at sound grows entry
  refine ⟨fun i inst found => ?_, grows, Nat.succ_pos _⟩
  rw [Array.getElem?_push] at found
  split at found
  · next last =>
    cases last
    cases found
    exact .start entry
  · next earlier =>
    match i with
    | 0 =>
      cases sound.accept.symm.trans found
      exact .accept
    | 1 =>
      cases sound.close.symm.trans found
      exact .close
    | i + 2 => exact .inner ⟨by omega, earlier⟩ (sound.inner _ inst (by omega) found)

end Program

end Gleaner.Pattern
