import Gleaner.Pattern.Expr

set_option autoImplicit false

/-!
Patterns as programs for a machine that follows all ways to match side by side. Each instruction
names the next ones; of several, the first is preferred.
-/
namespace Gleaner.Pattern

inductive Inst where
  | take (s : CharSet) (next : Nat)
  | check (l : Look) (next : Nat)
  | save (slot : Nat) (next : Nat)
  | fork (nexts : List Nat)
  | accept

structure Program where
  insts : Array Inst
  start : Nat
  /-- How many groups a match has, the whole match included. -/
  groups : Nat

namespace Program

/-- A program under construction. -/
abbrev Build := StateM (Array Inst)

/-- Appends an instruction, and returns where it stands. -/
def emit (i : Inst) : Build Nat := fun insts => (insts.size, insts.push i)

/-- Replaces the instruction at `index`. -/
def patch (index : Nat) (i : Inst) : Build Unit := fun insts => ((), insts.setIfInBounds index i)

/-- Two ways on, the first one preferred when greedy. -/
def choice (greedy : Bool) (inner next : Nat) : Inst :=
  .fork (if greedy then [inner, next] else [next, inner])

/-- `count` times the same piece, before `next`. -/
def copies (piece : Nat → Build Nat) : Nat → Nat → Build Nat
  | 0, next => pure next
  | count + 1, next => do
      let entry ← piece next
      copies piece count entry

/-- Up to `count` times the same piece, each time with the choice to go on at `out`. -/
def optional (piece : Nat → Build Nat) (greedy : Bool) (out : Nat) : Nat → Nat → Build Nat
  | 0, next => pure next
  | count + 1, next => do
      let entry ← piece next
      let fork ← emit (choice greedy entry out)
      optional piece greedy out count fork

/-- The piece once, and then again as often as it matches. -/
def repeated (piece : Nat → Build Nat) (greedy : Bool) (next : Nat) : Build (Nat × Nat) := do
  let fork ← emit (.fork [])
  let entry ← piece fork
  patch fork (choice greedy entry next)
  pure (entry, fork)

/-- A repetition of a piece. A piece that may be empty is entered through a choice of its own, so
that it is tried before it is left out. -/
def repetition (piece : Nat → Build Nat) (mayBeEmpty : Bool) (least : Nat) (most : Option Nat)
    (greedy : Bool) (next : Nat) : Build Nat :=
  match most with
  | some most => do
      let entry ← optional piece greedy next (most - least) next
      copies piece least entry
  | none =>
      match least with
      | 0 => do
          let (entry, fork) ← repeated piece greedy next
          if mayBeEmpty then emit (choice greedy entry next) else pure fork
      | least + 1 => do
          let (entry, _) ← repeated piece greedy next
          copies piece least entry

mutual

/-- Adds a pattern that goes on at `next`, and returns where it starts. -/
def compile : Expr → Nat → Build Nat
  | .empty, next => pure next
  | .set s, next => emit (.take s next)
  | .look l, next => emit (.check l next)
  | .repetition least most greedy inner, next =>
      repetition (compile inner) inner.mayBeEmpty least most greedy next
  | .capture index inner, next => do
      let close ← emit (.save (2 * index + 1) next)
      let entry ← compile inner close
      emit (.save (2 * index) entry)
  | .concat items, next => compileAll items next
  | .alternation branches, next => do
      let entries ← compileEach branches next
      emit (.fork entries)

/-- One after the other. -/
def compileAll : List Expr → Nat → Build Nat
  | [], next => pure next
  | item :: items, next => do
      let rest ← compileAll items next
      compile item rest

/-- Each on its own, all going on at `next`. -/
def compileEach : List Expr → Nat → Build (List Nat)
  | [], _ => pure []
  | item :: items, next => do
      let entry ← compile item next
      let entries ← compileEach items next
      pure (entry :: entries)

end

/-- The program of a pattern whose whole match is group 0. -/
def ofExpr (e : Expr) : Program :=
  let build : Build Nat := do
    let accept ← emit .accept
    compile (.capture 0 e) accept
  let (start, insts) := build.run #[]
  ⟨insts, start, e.lastGroup + 1⟩

end Program

end Gleaner.Pattern
