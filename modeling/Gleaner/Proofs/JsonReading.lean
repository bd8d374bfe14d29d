import Gleaner.Proofs.Dict
import Gleaner.Proofs.Spelling

set_option autoImplicit false

/-!
Reading JSON undoes writing it, in any layout that adds blanks only. Integers of 64 bits, tables in
key order and no more levels than the reader takes come back as they were. Main statement:
`Json.read?_writeAt`.
-/
namespace Gleaner

theorem Entries.insert_of_forall_lt {α : Type} {key : String} {value : α}
    {entries : List (String × α)} (above : ∀ e ∈ entries, e.1 < key) :
    insert key value entries = entries ++ [(key, value)] := by
  induction entries with
  | nil => rfl
  | cons e es ih =>
    obtain ⟨first, rest⟩ := List.forall_mem_cons.1 above
    have after : ¬key < e.1 := String.lt_asymm first
    have other : key ≠ e.1 := fun same => String.lt_irrefl key (same ▸ first)
    rw [insert, if_neg after, if_neg other, ih rest, List.cons_append]

/-- Entries in key order stay as they are. -/
theorem Entries.ofList_of_sorted {α : Type} {entries : List (String × α)}
    (sorted : Sorted entries) : ofList entries = entries := by
  have more : ∀ before, Sorted (before ++ entries) →
      entries.foldl (fun acc e => insert e.1 e.2 acc) before = before ++ entries := by
    intro before
    induction entries generalizing before with
    | nil => exact fun _ => (List.append_nil before).symm
    | cons e es ih =>
      intro all
      have above : ∀ e' ∈ before, e'.1 < e.1 := fun e' mem =>
        (List.pairwise_append.1 all).2.2 e' mem e List.mem_cons_self
      rw [List.foldl_cons, insert_of_forall_lt above, ih (List.pairwise_cons.1 sorted).2,
        List.append_assoc, List.singleton_append]
      rwa [List.append_assoc]
  exact more [] sorted

namespace Json

/-- A piece of a document that JSON holds as it is, with `depth` levels of lists and tables. -/
inductive Plain : Nat → Tree → Prop
  | null {depth : Nat} : Plain depth .null
  | boolean {depth : Nat} (b : Bool) : Plain depth (.boolean b)
  | integer {depth : Nat} {n : Int} (lower : -(twoPow 63 : Int) ≤ n)
      (upper : n ≤ significandLimit) : Plain depth (.integer n)
  | text {depth : Nat} (s : String) : Plain depth (.text s)
  | list {depth : Nat} {items : List Tree} (plain : ∀ t ∈ items, Plain depth t) :
      Plain (depth + 1) (.list items)
  | table {depth : Nat} {entries : List (String × Tree)} (sorted : Entries.Sorted entries)
      (plain : ∀ e ∈ entries, Plain depth e.2) : Plain (depth + 1) (.table entries)

def Blank (cs : List Char) : Prop := ∀ c ∈ cs, isSpace c = true

/-- A layout adds nothing but blanks. -/
structure Layout.Plain (layout : Layout) : Prop where
  lineBreak : ∀ level, Blank (layout.lineBreak level)
  afterColon : Blank layout.afterColon

theorem compact_plain : compact.Plain :=
  ⟨fun _ => List.forall_mem_nil _, List.forall_mem_nil _⟩

theorem indented_plain : indented.Plain where
  lineBreak level := List.forall_mem_cons.2 ⟨rfl, fun c mem => by
    rw [List.eq_of_mem_replicate mem]
    rfl⟩
  afterColon := List.forall_mem_singleton.2 rfl

theorem skipSpace_append {blank : List Char} (all : Blank blank) (cs : List Char) :
    skipSpace (blank ++ cs) = skipSpace cs :=
  List.dropWhile_append_of_pos all

theorem skipSpace_cons {c : Char} (visible : isSpace c = false) (cs : List Char) :
    skipSpace (c :: cs) = c :: cs :=
  List.dropWhile_cons_of_neg (Bool.eq_false_iff.1 visible)

theorem skipSpace_append_cons {blank : List Char} (all : Blank blank) {c : Char}
    (visible : isSpace c = false) (cs : List Char) : skipSpace (blank ++ c :: cs) = c :: cs := by
  rw [skipSpace_append all, skipSpace_cons visible]

theorem isSpace_cases {c : Char} (space : isSpace c = true) :
    c = ' ' ∨ c = '\t' ∨ c = '\n' ∨ c = '\r' := by
  simpa only [isSpace, Bool.or_eq_true, beq_iff_eq, or_assoc] using space

/-- What can follow a value: blanks, and then a comma or the end of a list or table. -/
theorem stops_of_blank {blank : List Char} (all : Blank blank) {c : Char}
    (closing : c = ',' ∨ c = ']' ∨ c = '\x7d') (rest : List Char) : Stops (blank ++ c :: rest) := by
  cases blank with
  | nil =>
    rintro _ ⟨⟩
    rcases closing with rfl | rfl | rfl <;> decide
  | cons b bs =>
    rintro _ ⟨⟩
    rcases isSpace_cases (all b List.mem_cons_self) with rfl | rfl | rfl | rfl <;> decide

theorem stops_comma (rest : List Char) : Stops (',' :: rest) :=
  stops_of_blank (List.forall_mem_nil _) (.inl rfl) rest

theorem stops_nil : Stops [] := fun _ none => nomatch none

/-- A minus or a digit. -/
theorem exists_head_writeInteger (n : Int) :
    ∃ c cs, writeInteger n = c :: cs ∧ (c = '-' ∨ Text.isDigit c = true) := by
  unfold writeInteger
  split
  · exact ⟨_, _, rfl, .inl rfl⟩
  · cases digits : Text.decimalDigits n.natAbs with
    | nil => exact absurd digits Nat.toDigits_ne_nil
    | cons d ds =>
      have mem : d ∈ Text.decimalDigits n.natAbs := digits ▸ List.mem_cons_self
      exact ⟨d, ds, rfl, .inr (Text.isDigit_of_mem_decimalDigits mem)⟩

theorem isSpace_of_isDigit {c : Char} (digit : Text.isDigit c = true) : isSpace c = false := by
  refine Bool.eq_false_iff.2 fun space => ?_
  rcases isSpace_cases space with rfl | rfl | rfl | rfl <;> exact absurd digit (by decide)

theorem isSpace_of_starts {c : Char} (starts : c = '-' ∨ Text.isDigit c = true) :
    isSpace c = false := by
  rcases starts with rfl | digit
  · decide
  · exact isSpace_of_isDigit digit

/-- A value starts with something visible that does not end a list. -/
theorem exists_head_writeAt (layout : Layout) (level : Nat) {depth : Nat} {t : Tree}
    (plain : Plain depth t) :
    ∃ c cs, writeAt layout level t = c :: cs ∧ isSpace c = false ∧ c ≠ ']' := by
  cases plain with
  | null => exact ⟨_, _, rfl, by decide, by decide⟩
  | boolean b => cases b <;> exact ⟨_, _, rfl, by decide, by decide⟩
  | @integer _ n lower upper =>
    obtain ⟨c, cs, same, starts⟩ := exists_head_writeInteger n
    refine ⟨c, cs, same, isSpace_of_starts starts, ?_⟩
    rintro rfl
    exact absurd starts (by decide)
  | text s => exact ⟨_, _, rfl, by decide, by decide⟩
  | list plain =>
    rw [writeAt, bracketed]
    split <;> exact ⟨_, _, rfl, by decide, by decide⟩
  | table sorted plain =>
    rw [writeAt, bracketed]
    split <;> exact ⟨_, _, rfl, by decide, by decide⟩

/-- What starts with a minus or a digit is read as a number. -/
theorem value?_of_number {c : Char} {cs rest : List Char}
    (starts : c = '-' ∨ Text.isDigit c = true) (same : skipSpace cs = c :: rest)
    (fuel depth : Nat) : value? (fuel + 1) depth cs = number? (c :: rest) := by
  have other : ∀ {d : Char} {cs : List Char}, Text.isDigit d = false → d ≠ '-' →
      c :: rest ≠ d :: cs := by
    rintro d cs notDigit notMinus ⟨⟩
    rcases starts with minus | digit
    · exact notMinus minus
    · rw [notDigit] at digit
      cases digit
  rw [value?, same]
  split
  case h_7 => rfl
  -- Everything else starts with a character of its own.
  all_goals
    next found => exact absurd found (other (by decide) (by decide))

theorem length_le_flatMap_escapeChar (cs : List Char) :
    cs.length ≤ (cs.flatMap escapeChar).length := by
  induction cs with
  | nil => exact Nat.le_refl 0
  | cons c cs ih =>
    have some : 0 < (escapeChar c).length := by
      unfold escapeChar
      split_ifs <;> exact Nat.succ_pos _
    rw [List.flatMap_cons, List.length_append, List.length_cons]
    omega

/-- A text is read back from between its quotes, with the fuel that the reader takes for it. -/
theorem quoted?_writeText (s : String) (rest : List Char) :
    ∃ cs, writeText s ++ rest = '"' :: cs ∧
      quoted? (cs.length + 1) cs = some (s.toList, rest) := by
  refine ⟨s.toList.flatMap escapeChar ++ '"' :: rest, ?_, ?_⟩
  · simp only [writeText, List.cons_append, List.append_assoc, List.nil_append]
  · refine quoted?_escaped s.toList ?_ rest
    have := length_le_flatMap_escapeChar s.toList
    rw [List.length_append]
    omega

/-- What is read after blanks is what is read without them. -/
theorem value?_append {blank : List Char} (all : Blank blank) (fuel depth : Nat)
    (cs : List Char) : value? fuel depth (blank ++ cs) = value? fuel depth cs := by
  cases fuel with
  | zero => rw [value?, value?]
  | succ fuel => rw [value?, value?, skipSpace_append all]

/-- The reader gives back the pieces of at most `depth` levels that were written. -/
def ReadsBack (layout : Layout) (depth : Nat) : Prop :=
  ∀ {t : Tree}, Plain depth t → ∀ (level fuel : Nat) {rest : List Char},
    2 * (writeAt layout level t).length ≤ fuel → Stops rest →
    value? fuel depth (writeAt layout level t ++ rest) = some (t, rest)

/-- The items of a list are read back up to its end. -/
theorem items?_writeItems {layout : Layout} (blanks : layout.Plain) {depth : Nat}
    (back : ReadsBack layout depth) (level lower : Nat) (rest : List Char) {items : List Tree}
    (nonempty : items ≠ []) (plain : ∀ t ∈ items, Plain depth t) (fuel : Nat)
    (enough : 2 * (joinWith (',' :: layout.lineBreak level)
      (writeItems layout level items)).length < fuel) {blank : List Char} (all : Blank blank) :
    items? fuel depth (blank ++ (joinWith (',' :: layout.lineBreak level)
      (writeItems layout level items) ++ (layout.lineBreak lower ++ ']' :: rest))) =
      some (items, rest) := by
  induction items generalizing fuel blank with
  | nil => exact absurd rfl nonempty
  | cons t ts ih =>
    obtain ⟨first, others⟩ := List.forall_mem_cons.1 plain
    cases fuel with
    | zero => omega
    | succ fuel =>
      cases ts with
      | nil =>
        have stops : Stops (layout.lineBreak lower ++ ']' :: rest) :=
          stops_of_blank (blanks.lineBreak lower) (.inr (.inl rfl)) rest
        have next := skipSpace_append_cons (blanks.lineBreak lower) (c := ']') (by decide) rest
        simp only [writeItems, joinWith] at enough ⊢
        have read := back first level fuel (by omega) stops
        simp only [items?, value?_append all, read, next, Option.bind_eq_bind, Option.bind_some]
      | cons t' ts =>
        simp only [writeItems, joinWith, List.length_append, List.length_cons] at enough ih ⊢
        have more := ih (List.cons_ne_nil t' ts) others fuel (by omega) (blanks.lineBreak level)
        have read := fun cs => back first level fuel (by omega) (stops_comma cs)
        have next := fun cs => skipSpace_cons (c := ',') (by decide) cs
        simp only [items?, value?_append all, List.append_assoc, List.cons_append, read, next, more,
          Option.bind_eq_bind, Option.bind_some]

/-- An entry before others is its key and then the value after the colon. -/
theorem entries?_of_comma {blank space : List Char} (all : Blank blank) (all' : Blank space)
    (key : String) {fuel depth : Nat} {cs rest : List Char} {t : Tree}
    (read : value? fuel depth cs = some (t, ',' :: rest)) {more : List (String × Tree)}
    {after : List Char} (others : entries? fuel depth rest = some (more, after)) :
    entries? (fuel + 1) depth (blank ++ (writeText key ++ ':' :: (space ++ cs))) =
      some ((key, t) :: more, after) := by
  obtain ⟨quoted, same, text⟩ := quoted?_writeText key (':' :: (space ++ cs))
  have opening := skipSpace_append_cons all (c := '"') (by decide) quoted
  have colon := skipSpace_cons (c := ':') (by decide) (space ++ cs)
  have comma := skipSpace_cons (c := ',') (by decide) rest
  simp only [entries?, same, opening, text, colon, value?_append all', read, comma, others,
    Option.bind_eq_bind, Option.bind_some, String.ofList_toList]

theorem entries?_of_last {blank space : List Char} (all : Blank blank) (all' : Blank space)
    (key : String) {fuel depth : Nat} {cs rest : List Char} {t : Tree}
    (read : value? fuel depth cs = some (t, rest)) {after : List Char}
    (ends : skipSpace rest = '\x7d' :: after) :
    entries? (fuel + 1) depth (blank ++ (writeText key ++ ':' :: (space ++ cs))) =
      some ([(key, t)], after) := by
  obtain ⟨quoted, same, text⟩ := quoted?_writeText key (':' :: (space ++ cs))
  have opening := skipSpace_append_cons all (c := '"') (by decide) quoted
  have colon := skipSpace_cons (c := ':') (by decide) (space ++ cs)
  simp only [entries?, same, opening, text, colon, value?_append all', read, ends,
    Option.bind_eq_bind, Option.bind_some, String.ofList_toList]

/-- The entries of a table are read back up to its end, in the order they were written. -/
theorem entries?_writeEntries {layout : Layout} (blanks : layout.Plain) {depth : Nat}
    (back : ReadsBack layout depth) (level lower : Nat) (rest : List Char)
    {entries : List (String × Tree)} (nonempty : entries ≠ [])
    (plain : ∀ e ∈ entries, Plain depth e.2) (fuel : Nat)
    (enough : 2 * (joinWith (',' :: layout.lineBreak level)
      (writeEntries layout level entries)).length < fuel) {blank : List Char} (all : Blank blank) :
    entries? fuel depth (blank ++ (joinWith (',' :: layout.lineBreak level)
      (writeEntries layout level entries) ++ (layout.lineBreak lower ++ '\x7d' :: rest))) =
      some (entries, rest) := by
  induction entries generalizing fuel blank with
  | nil => exact absurd rfl nonempty
  | cons e es ih =>
    obtain ⟨key, t⟩ := e
    have others := (List.forall_mem_cons.1 plain).2
    have first : Plain depth t := (List.forall_mem_cons.1 plain).1
    cases fuel with
    | zero => omega
    | succ fuel =>
      cases es with
      | nil =>
        have stops : Stops (layout.lineBreak lower ++ '\x7d' :: rest) :=
          stops_of_blank (blanks.lineBreak lower) (.inr (.inr rfl)) rest
        have next := skipSpace_append_cons (blanks.lineBreak lower) (c := '\x7d') (by decide) rest
        simp only [writeEntries, joinWith, List.length_append, List.length_cons] at enough ⊢
        have read := back first level fuel (by omega) stops
        simp only [List.append_assoc, List.cons_append]
        exact entries?_of_last all blanks.afterColon key read next
      | cons e' es =>
        simp only [writeEntries, joinWith, List.length_append, List.length_cons] at enough ih ⊢
        have more := ih (List.cons_ne_nil e' es) others fuel (by omega) (blanks.lineBreak level)
        have within : 2 * (writeAt layout level t).length ≤ fuel := by omega
        simp only [List.append_assoc, List.cons_append]
        exact entries?_of_comma all blanks.afterColon key
          (back first level fuel within (stops_comma _)) more

/-- Between brackets stand all texts. They are read from where the first starts, with fuel for the
brackets left over. -/
theorem bracketed_cons {layout : Layout} (blanks : layout.Plain) (level : Nat)
    (opening closing : Char) {x : List Char} {c : Char} {cs : List Char} (head : x = c :: cs)
    (visible : isSpace c = false) (xs : List (List Char)) (rest : List Char) :
    let joined := joinWith (',' :: layout.lineBreak (level + 1)) (x :: xs)
    joined.length < (bracketed layout level opening closing (x :: xs)).length ∧
      ∃ inside inside', bracketed layout level opening closing (x :: xs) ++ rest =
          opening :: inside ∧ skipSpace inside = c :: inside' ∧
        c :: inside' = joined ++ (layout.lineBreak level ++ closing :: rest) := by
  intro joined
  have text : bracketed layout level opening closing (x :: xs) =
      opening :: (layout.lineBreak (level + 1) ++
        (joined ++ (layout.lineBreak level ++ [closing]))) := rfl
  obtain ⟨more, starts⟩ : ∃ more, joined = c :: more := by
    subst head
    cases xs with
    | nil => exact ⟨_, rfl⟩
    | cons x' xs => exact ⟨_, rfl⟩
  have next := skipSpace_append_cons (blanks.lineBreak (level + 1)) visible
  refine ⟨?_, layout.lineBreak (level + 1) ++
    c :: (more ++ (layout.lineBreak level ++ closing :: rest)), _, ?_, next _, ?_⟩
  · rw [text]
    simp only [List.length_cons, List.length_append]
    omega
  · simp only [text, starts, List.cons_append, List.append_assoc, List.nil_append]
  · rw [starts, List.cons_append]

theorem value?_list {c : Char} {cs rest : List Char} (next : skipSpace cs = c :: rest)
    (other : c ≠ ']') (fuel depth : Nat) :
    value? (fuel + 1) (depth + 1) ('[' :: cs) =
      (items? fuel depth (c :: rest)).map fun read => (.list read.1, read.2) := by
  have opening : skipSpace ('[' :: cs) = '[' :: cs := skipSpace_cons (by decide) cs
  simp only [value?, opening, next]
  split
  · next same => exact absurd (List.head_eq_of_cons_eq same) other
  · rfl

theorem value?_table {c : Char} {cs rest : List Char} (next : skipSpace cs = c :: rest)
    (other : c ≠ '\x7d') (fuel depth : Nat) :
    value? (fuel + 1) (depth + 1) ('\x7b' :: cs) =
      (entries? fuel depth (c :: rest)).map fun read => (Tree.tableOf read.1, read.2) := by
  have opening : skipSpace ('\x7b' :: cs) = '\x7b' :: cs := skipSpace_cons (by decide) cs
  simp only [value?, opening, next]
  split
  · next same => exact absurd (List.head_eq_of_cons_eq same) other
  · rfl

theorem value?_writeAt_list {layout : Layout} (blanks : layout.Plain) {depth : Nat}
    (back : ReadsBack layout depth) {items : List Tree} (plain : ∀ t ∈ items, Plain depth t)
    {level fuel : Nat} (enough : 2 * (writeAt layout level (.list items)).length ≤ fuel + 1)
    (rest : List Char) :
    value? (fuel + 1) (depth + 1) (writeAt layout level (.list items) ++ rest) =
      some (.list items, rest) := by
  cases items with
  | nil => rfl
  | cons x xs =>
    obtain ⟨c, cs, head, visible, other⟩ :=
      exists_head_writeAt layout (level + 1) (plain x List.mem_cons_self)
    obtain ⟨shorter, inside, inside', text, next, same⟩ := bracketed_cons blanks level '[' ']' head
      visible (writeItems layout (level + 1) xs) rest
    rw [writeAt, writeItems] at enough ⊢
    have read := items?_writeItems blanks back (level + 1) level rest (List.cons_ne_nil x xs) plain
      fuel (by rw [writeItems]; omega) (List.forall_mem_nil _)
    rw [writeItems, List.nil_append] at read
    rw [text, value?_list next other, same, read, Option.map_some]

theorem value?_writeAt_table {layout : Layout} (blanks : layout.Plain) {depth : Nat}
    (back : ReadsBack layout depth) {entries : List (String × Tree)}
    (sorted : Entries.Sorted entries) (plain : ∀ e ∈ entries, Plain depth e.2)
    {level fuel : Nat} (enough : 2 * (writeAt layout level (.table entries)).length ≤ fuel + 1)
    (rest : List Char) :
    value? (fuel + 1) (depth + 1) (writeAt layout level (.table entries) ++ rest) =
      some (.table entries, rest) := by
  cases entries with
  | nil => rfl
  | cons e es =>
    obtain ⟨key, x⟩ := e
    obtain ⟨cs, head⟩ : ∃ cs, writeText key ++ ':' :: (layout.afterColon ++
        writeAt layout (level + 1) x) = '"' :: cs := ⟨_, rfl⟩
    obtain ⟨shorter, inside, inside', text, next, same⟩ := bracketed_cons blanks level '\x7b' '\x7d'
      head (by decide) (writeEntries layout (level + 1) es) rest
    rw [writeAt, writeEntries] at enough ⊢
    have read := entries?_writeEntries blanks back (level + 1) level rest
      (List.cons_ne_nil (key, x) es) plain fuel (by rw [writeEntries]; omega)
      (List.forall_mem_nil _)
    rw [writeEntries, List.nil_append] at read
    rw [text, value?_table next (by decide), same, read, Option.map_some, Tree.tableOf,
      Entries.ofList_of_sorted sorted]

theorem readsBack_of_below {layout : Layout} (blanks : layout.Plain) {depth : Nat}
    (below : ∀ depth', depth = depth' + 1 → ReadsBack layout depth') : ReadsBack layout depth := by
  intro t plain level fuel rest enough stops
  obtain ⟨fuel, rfl⟩ : ∃ fuel', fuel = fuel' + 1 := by
    obtain ⟨c, cs, same, -⟩ := exists_head_writeAt layout level plain
    rw [same, List.length_cons] at enough
    exact ⟨fuel - 1, by omega⟩
  cases plain with
  | null => rfl
  | boolean b => cases b <;> rfl
  | @integer _ n lower upper =>
    have read := number?_writeInteger lower upper stops
    obtain ⟨c, cs, same, starts⟩ := exists_head_writeInteger n
    rw [writeAt]
    rw [same, List.cons_append] at read ⊢
    rw [value?_of_number starts (skipSpace_cons (isSpace_of_starts starts) _), read]
  | text s =>
    obtain ⟨cs, same, read⟩ := quoted?_writeText s rest
    have opening : skipSpace ('"' :: cs) = '"' :: cs := skipSpace_cons (by decide) cs
    rw [writeAt, same, value?, opening]
    simp only [read, Option.map_some, String.ofList_toList]
  | list plain => exact value?_writeAt_list blanks (below _ rfl) plain enough rest
  | table sorted plain => exact value?_writeAt_table blanks (below _ rfl) sorted plain enough rest

/-- By induction on how many levels the reader may still open. -/
theorem readsBack {layout : Layout} (blanks : layout.Plain) (depth : Nat) :
    ReadsBack layout depth := by
  induction depth with
  | zero => exact readsBack_of_below blanks fun _ none => absurd none.symm (Nat.succ_ne_zero _)
  | succ depth ih => exact readsBack_of_below blanks fun _ same => Nat.succ.inj same ▸ ih

/-- A document of pieces that JSON holds as they are is read back from its text. -/
theorem read?_writeAt {layout : Layout} (blanks : layout.Plain) {t : Tree}
    (plain : Plain nestingLimit t) : read? (String.ofList (writeAt layout 0 t)) = some t := by
  have back := readsBack blanks nestingLimit plain 0 (2 * (writeAt layout 0 t).length + 2)
    (Nat.le_add_right _ 2) stops_nil
  rw [List.append_nil] at back
  simp only [read?, String.toList_ofList, back, Option.bind_eq_bind, Option.bind_some]
  rfl

end Json

end Gleaner
