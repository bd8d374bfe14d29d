import Gleaner.Pattern.Program

set_option autoImplicit false

/-!
Searching a text. All ways to match are followed side by side, one character at a time, in order
of preference; of the ways that reach an instruction at the same position only the first is kept.
-/
namespace Gleaner.Pattern

/-- Where groups start and end, two positions a group. -/
abbrev Slots := List (Option Nat)

/-- A way to match, as far as it has come. -/
structure Thread where
  inst : Nat
  slots : Slots

def isWordChar (unicode : Bool) (c : Char) : Bool :=
  (if unicode then unicodeWordSet else asciiWordSet).contains c

/-- The condition holds between the characters `before` and `after`. -/
def Look.holds (before after : Option Char) : Look → Bool
  | .textStart => before.isNone
  | .textEnd => after.isNone
  | .lineStart => before.isNone || before == some '\n'
  | .lineEnd => after.isNone || after == some '\n'
  | .crlfLineStart =>
      before.isNone || before == some '\n' || (before == some '\r' && after != some '\n')
  | .crlfLineEnd =>
      after.isNone || after == some '\r' || (after == some '\n' && before != some '\r')
  | .word unicode place =>
      let left := (before.map (isWordChar unicode)).getD false
      let right := (after.map (isWordChar unicode)).getD false
      match place with
      | .wordBoundary => left != right
      | .notWordBoundary => left == right
      | .wordStart => !left && right
      | .wordEnd => left && !right
      | .wordStartHalf => !left
      | .wordEndHalf => !right
      | _ => false

/-- Follows threads, first one first, to the instructions that take a character or accept. An
instruction that has been reached before at this position is not entered again. -/
def closure (program : Program) (text : Array Char) (position : Nat) :
    Nat → List Thread → Array Bool → List Thread
  | 0, _, _ => []
  | _ + 1, [], _ => []
  | fuel + 1, thread :: threads, seen =>
      if seen.getD thread.inst true then closure program text position fuel threads seen
      else
        let seen := seen.setIfInBounds thread.inst true
        match program.insts[thread.inst]? with
        | none => closure program text position fuel threads seen
        | some (.take _ _) => thread :: closure program text position fuel threads seen
        | some .accept => thread :: closure program text position fuel threads seen
        | some (.check l next) =>
            let before := if position = 0 then none else text[position - 1]?
            if l.holds before text[position]? then
              closure program text position fuel (⟨next, thread.slots⟩ :: threads) seen
            else closure program text position fuel threads seen
        | some (.save slot next) =>
            let slots := thread.slots.set slot (some position)
            closure program text position fuel (⟨next, slots⟩ :: threads) seen
        | some (.fork nexts) =>
            closure program text position fuel
              (nexts.map (fun next => ⟨next, thread.slots⟩) ++ threads) seen

/-- How many ways on the instructions of a program have in all. -/
def Program.ways (program : Program) : Nat :=
  program.insts.foldl (fun n i => n + match i with
    | .fork nexts => nexts.length
    | _ => 1) 0

/-- The threads before the first that accepts, and the slots of that one. -/
def untilAccept (program : Program) : List Thread → List Thread × Option Slots
  | [] => ([], none)
  | thread :: threads =>
      match program.insts[thread.inst]? with
      | some .accept => ([], some thread.slots)
      | _ =>
          let rest := untilAccept program threads
          (thread :: rest.1, rest.2)

/-- The threads after they take a character. -/
def advance (program : Program) (c : Char) (threads : List Thread) : List Thread :=
  threads.filterMap fun (thread : Thread) =>
    match program.insts[thread.inst]? with
    | some (.take s next) => if s.contains c then some ⟨next, thread.slots⟩ else none
    | _ => none

/-- A thread at the start of a program. -/
def Program.fresh (program : Program) : Thread :=
  ⟨program.start, List.replicate (2 * program.groups) none⟩

/-- Goes on from a position with the threads that have come there. Until a match is found, each
position also starts a thread of its own, after all others. -/
def run (program : Program) (text : Array Char) (ways : Nat) :
    Nat → Nat → List Thread → Option Slots → Option Slots
  | 0, _, _, found => found
  | fuel + 1, position, threads, found =>
      let waiting := if found.isNone then threads ++ [program.fresh] else threads
      let ready := closure program text position (waiting.length + ways + 1) waiting
        (Array.replicate program.insts.size false)
      let (going, accepted) := untilAccept program ready
      let found := accepted.or found
      match text[position]? with
      | none => found
      | some c =>
          let next := advance program c going
          if next.isEmpty && found.isSome then found
          else run program text ways fuel (position + 1) next found

/-- The slots of the first match that starts at `from` or later: of those that start first, the
one that the pattern prefers. -/
def searchFrom (program : Program) (text : Array Char) (start : Nat) : Option Slots :=
  run program text program.ways (text.size + 1 - start) start [] none

/-- A stretch of a text. -/
structure Span where
  start : Nat
  stop : Nat
  deriving DecidableEq

/-- The stretch of a group; groups that took no part in the match have none. -/
def groupSpan (slots : Slots) (group : Nat) : Option Span :=
  match slots[2 * group]?, slots[2 * group + 1]? with
  | some (some start), some (some stop) => if start ≤ stop then some ⟨start, stop⟩ else none
  | _, _ => none

/-- The slots of the matches from `position` on, one after the other. An empty match right after
the one before does not count: the search goes on one character later. -/
def searchAll (program : Program) (text : Array Char) :
    Nat → Nat → Option Nat → List Slots
  | 0, _, _ => []
  | fuel + 1, position, lastStop =>
      let first := searchFrom program text position
      let repeats := match first.bind (groupSpan · 0) with
        | some span => span.start = span.stop && lastStop == some span.stop
        | none => false
      let next := if repeats then
          if position < text.size then searchFrom program text (position + 1) else none
        else first
      match next with
      | none => []
      | some slots =>
          slots :: match groupSpan slots 0 with
            | none => []
            | some span => searchAll program text fuel span.stop (some span.stop)

end Gleaner.Pattern
