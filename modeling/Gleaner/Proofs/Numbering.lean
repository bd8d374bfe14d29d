import Gleaner.Pattern.Expr
import Mathlib.Data.Option.Basic

set_option autoImplicit false

/-!
The numbers of groups. What is read counts them from one on, so that group 0 is left for the whole
match. Main statement: `Pattern.numbered_of_read?`.
-/
namespace Gleaner.Pattern

mutual

/-- No group of a written pattern has number 0. -/
def Ast.Numbered : Ast → Prop
  | .repetition _ _ _ inner => inner.Numbered
  | .group (.capturing index) inner => 0 < index ∧ inner.Numbered
  | .group (.plain _) inner => inner.Numbered
  | .concat items => Ast.AllNumbered items
  | .alternation branches => Ast.AllNumbered branches
  | _ => True

def Ast.AllNumbered : List Ast → Prop
  | [] => True
  | item :: items => item.Numbered ∧ Ast.AllNumbered items

end

mutual

/-- No group of a resolved pattern has number 0. -/
def Expr.Numbered : Expr → Prop
  | .repetition _ _ _ inner => inner.Numbered
  | .capture index inner => 0 < index ∧ inner.Numbered
  | .concat items => Expr.AllNumbered items
  | .alternation branches => Expr.AllNumbered branches
  | _ => True

def Expr.AllNumbered : List Expr → Prop
  | [] => True
  | item :: items => item.Numbered ∧ Expr.AllNumbered items

end

theorem Expr.numbered_ofRepetition {inner : Expr} (numbered : inner.Numbered) (least : Nat)
    (most : Option Nat) (greedy : Bool) : (ofRepetition least most greedy inner).Numbered := by
  unfold ofRepetition
  extract_lets fewest highest
  split
  · trivial
  · split <;> exact numbered

theorem numbered_literalExpr? {flags : Flags} {l : Literal} {e : Expr}
    (resolved : literalExpr? flags l = some e) : e.Numbered := by
  obtain ⟨-, same⟩ := Option.ite_none_left_eq_some.1 resolved
  cases same
  trivial

theorem numbered_dotExpr? {flags : Flags} {e : Expr} (resolved : dotExpr? flags = some e) :
    e.Numbered := by
  obtain ⟨-, resolved⟩ := Option.ite_none_left_eq_some.1 resolved
  repeat' split at resolved
  all_goals
    cases resolved
    trivial

mutual

/-- Resolving a pattern leaves the numbers of its groups alone. -/
theorem Ast.numbered_expr? : {flags flags' : Flags} → {e : Expr} → (ast : Ast) → ast.Numbered →
    ast.expr? flags = some (e, flags') → e.Numbered
  | _, _, _, .empty, _, resolved | _, _, _, .flags _, _, resolved
  | _, _, _, .place _, _, resolved => by
    cases resolved
    trivial
  | _, _, _, .literal _, _, resolved => by
    obtain ⟨e, literal, same⟩ := Option.map_eq_some_iff.1 resolved
    cases same
    exact numbered_literalExpr? literal
  | _, _, _, .dot, _, resolved => by
    obtain ⟨e, dot, same⟩ := Option.map_eq_some_iff.1 resolved
    cases same
    exact numbered_dotExpr? dot
  | _, _, _, .perl _ _, _, resolved | _, _, _, .property _ _, _, resolved => by
    obtain ⟨set, -, same⟩ := Option.map_eq_some_iff.1 resolved
    cases same
    trivial
  | _, _, _, .set _ _, _, resolved => by
    obtain ⟨inner, -, resolved⟩ := Option.bind_eq_some_iff.1 resolved
    obtain ⟨set, -, same⟩ := Option.bind_eq_some_iff.1 resolved
    cases same
    trivial
  | _, _, _, .repetition _ _ _ inner, numbered, resolved => by
    obtain ⟨⟨e, flags⟩, inside, same⟩ := Option.bind_eq_some_iff.1 resolved
    cases same
    exact Expr.numbered_ofRepetition (numbered_expr? inner numbered inside) _ _ _
  | _, _, _, .group (.capturing _) inner, numbered, resolved => by
    obtain ⟨⟨e, flags⟩, inside, same⟩ := Option.bind_eq_some_iff.1 resolved
    cases same
    exact ⟨numbered.1, numbered_expr? inner numbered.2 inside⟩
  | _, _, _, .group (.plain _) inner, numbered, resolved => by
    obtain ⟨⟨e, flags⟩, inside, same⟩ := Option.bind_eq_some_iff.1 resolved
    cases same
    exact numbered_expr? inner numbered inside
  | _, _, _, .concat items, numbered, resolved
  | _, _, _, .alternation items, numbered, resolved => by
    obtain ⟨⟨es, flags⟩, inside, same⟩ := Option.map_eq_some_iff.1 resolved
    cases same
    exact numbered_exprs? items numbered inside

theorem Ast.numbered_exprs? : {flags flags' : Flags} → {es : List Expr} → (items : List Ast) →
    Ast.AllNumbered items → Ast.exprs? flags items = some (es, flags') → Expr.AllNumbered es
  | _, _, _, [], _, resolved => by
    cases resolved
    trivial
  | _, _, _, item :: items, numbered, resolved => by
    obtain ⟨⟨e, between⟩, first, resolved⟩ := Option.bind_eq_some_iff.1 resolved
    obtain ⟨⟨es, flags⟩, others, same⟩ := Option.bind_eq_some_iff.1 resolved
    cases same
    exact ⟨numbered_expr? item numbered.1 first, numbered_exprs? items numbered.2 others⟩

end

theorem Ast.allNumbered_iff {items : List Ast} :
    AllNumbered items ↔ ∀ item ∈ items, item.Numbered := by
  induction items with
  | nil => exact ⟨fun _ => List.forall_mem_nil _, fun _ => trivial⟩
  | cons item items ih => rw [AllNumbered, ih, List.forall_mem_cons]

theorem Ast.numbered_ofConcat {items : List Ast} (numbered : ∀ item ∈ items, item.Numbered) :
    (ofConcat items).Numbered := by
  unfold ofConcat
  split
  · trivial
  · next item => exact numbered item List.mem_cons_self
  · exact allNumbered_iff.2 numbered

theorem Ast.numbered_ofBranches {branches : List Ast}
    (numbered : ∀ branch ∈ branches, branch.Numbered) : (ofBranches branches).Numbered := by
  unfold ofBranches
  split
  · trivial
  · next branch => exact numbered branch List.mem_cons_self
  · exact allNumbered_iff.2 numbered

/-- A group that is opened gets the number after those that are open already. -/
theorem pos_of_opening? {state inside : Reading} {cs rest : List Char} {index : Nat}
    (opens : opening? state cs = some (.group (.capturing index), inside, rest)) : 0 < index := by
  unfold opening? at opens
  extract_lets named at opens
  have positive {more : List Char}
      (opens : named more = some (.group (.capturing index), inside, rest)) : 0 < index := by
    obtain ⟨⟨name, more⟩, -, fresh⟩ := Option.bind_eq_some_iff.1 opens
    obtain ⟨-, same⟩ := Option.ite_none_left_eq_some.1 fresh
    cases same
    exact Nat.succ_pos state.groups
  split at opens
  -- Of the other groups with a question mark some are refused, and those with flags have no number.
  case h_5 | h_6 => exact positive opens
  case h_7 =>
    obtain ⟨⟨items, stop, more⟩, -, flags⟩ := Option.bind_eq_some_iff.1 opens
    simp only at flags
    repeat' split at flags
    all_goals cases flags
  case h_8 =>
    cases opens
    exact Nat.succ_pos state.groups
  all_goals cases opens

theorem numbered_escape? {ignore : Bool} {cs rest : List Char} {item : Ast}
    (read : escape? ignore cs = some (item, rest)) : item.Numbered := by
  unfold escape? at read
  split at read
  · cases read
  · obtain ⟨-, read⟩ := Option.ite_none_left_eq_some.1 read
    split at read
    · obtain ⟨⟨l, more⟩, -, same⟩ := Option.map_eq_some_iff.1 read
      cases same
      trivial
    · split at read
      · obtain ⟨⟨name, more⟩, -, same⟩ := Option.map_eq_some_iff.1 read
        cases same
        trivial
      · split at read
        · cases read
          trivial
        · split at read
          case h_15 =>
            obtain ⟨⟨place, more⟩, -, same⟩ := Option.map_eq_some_iff.1 read
            cases same
            trivial
          all_goals cases read
          all_goals trivial

theorem numbered_repeatable? {items before : List Ast} {last : Ast}
    (numbered : ∀ item ∈ items, item.Numbered) (found : repeatable? items = some (before, last)) :
    (∀ item ∈ before, item.Numbered) ∧ last.Numbered := by
  unfold repeatable? at found
  split at found
  case h_4 ends =>
    cases found
    exact ⟨fun item mem => numbered item (List.dropLast_subset items mem),
      numbered last (List.mem_of_getLast? ends)⟩
  all_goals cases found

theorem numbered_branches? (fuel : Nat) {state after : Reading} {branches items : List Ast}
    {cs rest : List Char} {ast : Ast} (before : ∀ branch ∈ branches, branch.Numbered)
    (here : ∀ item ∈ items, item.Numbered)
    (read : branches? fuel state branches items cs = some (ast, after, rest)) : ast.Numbered := by
  induction fuel generalizing state branches items cs ast after rest with
  | zero => cases read
  | succ fuel ih =>
    have closed : ∀ branch ∈ branches ++ [Ast.ofConcat items], branch.Numbered :=
      List.forall_mem_append.2 ⟨before, List.forall_mem_singleton.2 (Ast.numbered_ofConcat here)⟩
    have adds {item : Ast} {state : Reading} {more : List Char}
        (read : branches? fuel state branches (items ++ [item]) more = some (ast, after, rest))
        (numbered : item.Numbered) : ast.Numbered :=
      ih before (List.forall_mem_append.2 ⟨here, List.forall_mem_singleton.2 numbered⟩) read
    have counted {start : List Ast} {last : Ast} {least : Nat} {most : Option Nat} {greedy : Bool}
        {more : List Char} (found : repeatable? items = some (start, last))
        (read : branches? fuel state branches (start ++ [.repetition least most greedy last]) more =
          some (ast, after, rest)) : ast.Numbered := by
      obtain ⟨numbered, lastNumbered⟩ := numbered_repeatable? here found
      refine ih before (List.forall_mem_append.2 ⟨numbered, ?_⟩) read
      exact List.forall_mem_singleton.2 lastNumbered
    unfold branches? at read
    extract_lets finish add again at read
    have repeats {least : Nat} {most : Option Nat} {more : List Char}
        (read : again least most more = some (ast, after, rest)) : ast.Numbered := by
      obtain ⟨⟨start, last⟩, found, read⟩ := Option.bind_eq_some_iff.1 read
      exact counted found read
    -- One case for each character that may stand next, as far as it has a meaning of its own.
    split at read
    case h_1 | h_2 =>
      cases read
      exact Ast.numbered_ofBranches closed
    case h_3 => exact ih closed (List.forall_mem_nil _) read
    case h_4 =>
      obtain ⟨⟨opening, inside, more⟩, opens, read⟩ := Option.bind_eq_some_iff.1 read
      cases opening with
      | flags flags => exact adds read trivial
      | group kind =>
        obtain ⟨⟨inner, closing, more⟩, below, read⟩ := Option.bind_eq_some_iff.1 read
        have numbered := ih (List.forall_mem_nil _) (List.forall_mem_nil _) below
        split at read
        · next same =>
          cases same
          refine adds read ?_
          cases kind with
          | plain flags => exact numbered
          | capturing index => exact ⟨pos_of_opening? opens, numbered⟩
        · cases read
    case h_5 =>
      obtain ⟨⟨negated, inner, more⟩, -, read⟩ := Option.bind_eq_some_iff.1 read
      exact adds read trivial
    case h_6 | h_7 | h_8 => exact repeats read
    case h_9 =>
      obtain ⟨⟨start, last⟩, found, read⟩ := Option.bind_eq_some_iff.1 read
      obtain ⟨⟨least, most, greedy, more⟩, -, read⟩ := Option.bind_eq_some_iff.1 read
      exact counted found read
    case h_10 =>
      obtain ⟨⟨item, more⟩, escaped, read⟩ := Option.bind_eq_some_iff.1 read
      exact adds read (numbered_escape? escaped)
    all_goals exact adds read trivial

/-- The groups of a pattern that is read have other numbers than the whole match. -/
theorem numbered_of_read? {text : String} {e : Expr} (read : Expr.read? text = some e) :
    e.Numbered := by
  obtain ⟨ast, written, read⟩ := Option.bind_eq_some_iff.1 read
  obtain ⟨⟨e, flags⟩, resolved, same⟩ := Option.bind_eq_some_iff.1 read
  cases same
  obtain ⟨⟨ast, after, rest⟩, found, fits⟩ := Option.bind_eq_some_iff.1 written
  obtain ⟨-, same⟩ := Option.ite_none_right_eq_some.1 fits
  cases same
  exact Ast.numbered_expr? ast
    (numbered_branches? _ (List.forall_mem_nil _) (List.forall_mem_nil _) found) resolved

end Gleaner.Pattern
