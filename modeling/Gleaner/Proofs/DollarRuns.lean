import Gleaner.Proofs.Joining

set_option autoImplicit false

/-!
Dollar signs in a row. A template is a start without dollar signs and then one run of them after
the other, each with the text up to the next; every two dollar signs of a run stand for one, and one
that is left over takes the digit behind the run, if there is one. Main statement:
`Template.expand_by_runs`.
-/
namespace Gleaner.Template

/-- Dollar signs in a row, and what follows them up to the next dollar sign. -/
structure Run where
  dollars : Nat
  after : List Char

namespace Run

def chars (r : Run) : List Char := List.replicate r.dollars '$' ++ r.after

/-- What becomes of a run. -/
def expanded (captures : Captures) (r : Run) : List Char :=
  List.replicate (r.dollars / 2) '$' ++
    if r.dollars % 2 = 0 then r.after
    else match r.after with
      | [] => ['$']
      | d :: rest =>
          if Text.isDigit d then (captures.get (Text.digitValue d)).toList ++ rest
          else '$' :: d :: rest

/-- The last dollar sign of the run has no other one beside it, and no digit behind it. -/
def Stray (r : Run) : Prop :=
  r.dollars % 2 = 1 ∧ ∀ d, r.after.head? = some d → Text.isDigit d = false

end Run

/-- Runs that cannot be longer: there is something between each and the next. -/
inductive Parted : List Run → Prop
  | nil : Parted []
  | last {r : Run} (dollars : 0 < r.dollars) (plain : '$' ∉ r.after) : Parted [r]
  | cons {r next : Run} {runs : List Run} (dollars : 0 < r.dollars) (plain : '$' ∉ r.after)
      (apart : r.after ≠ []) (rest : Parted (next :: runs)) : Parted (r :: next :: runs)

/-- A text taken apart at its dollar signs. -/
structure Dissected (cs start : List Char) (runs : List Run) : Prop where
  chars : cs = start ++ runs.flatMap Run.chars
  plain : '$' ∉ start
  parted : Parted runs

/-- Takes a text apart at its dollar signs. -/
def dissect : List Char → List Char × List Run
  | [] => ([], [])
  | c :: cs =>
      if c = '$' then
        match dissect cs with
        | ([], r :: runs) => ([], ⟨r.dollars + 1, r.after⟩ :: runs)
        | (after, runs) => ([], ⟨1, after⟩ :: runs)
      else ((c :: (dissect cs).1), (dissect cs).2)

theorem dissect_append {start cs : List Char} (plain : '$' ∉ start) :
    dissect (start ++ cs) = (start ++ (dissect cs).1, (dissect cs).2) := by
  induction start with
  | nil => rfl
  | cons c start ih =>
    obtain ⟨other, plain⟩ := not_or.1 (List.mem_cons.not.1 plain)
    rw [List.cons_append, dissect, if_neg (Ne.symm other), ih plain]
    rfl

/-- A run is found again in front of a text that does not start with one. -/
theorem dissect_dollars {dollars : Nat} (some : 0 < dollars) {cs after : List Char}
    {runs : List Run} (found : dissect cs = (after, runs)) (apart : after ≠ [] ∨ runs = []) :
    dissect (List.replicate dollars '$' ++ cs) = ([], ⟨dollars, after⟩ :: runs) := by
  induction dollars with
  | zero => exact absurd some (Nat.lt_irrefl 0)
  | succ n ih =>
    rw [List.replicate_succ, List.cons_append, dissect, if_pos rfl]
    cases n with
    | zero =>
      rw [List.replicate_zero, List.nil_append, found]
      cases after with
      | nil =>
        have none : runs = [] := apart.resolve_left (fun nonempty => nonempty rfl)
        rw [none]
      | cons c after => rfl
    | succ n => rw [ih (Nat.succ_pos n)]

theorem dissect_runs {runs : List Run} (parted : Parted runs) :
    dissect (runs.flatMap Run.chars) = ([], runs) := by
  induction parted with
  | nil => rfl
  | @last r dollars plain =>
    have found : dissect r.after = (r.after, []) := by
      rw [← List.append_nil r.after, dissect_append plain, dissect]
    rw [List.flatMap_singleton]
    exact dissect_dollars dollars found (Or.inr rfl)
  | @cons r next runs dollars plain apart rest ih =>
    have found :
        dissect (r.after ++ (next :: runs).flatMap Run.chars) = (r.after, next :: runs) := by
      rw [dissect_append plain, ih, List.append_nil]
    rw [List.flatMap_cons, Run.chars, List.append_assoc]
    exact dissect_dollars dollars found (Or.inl apart)

/-- There is one way only to take a text apart. -/
theorem Dissected.eq_dissect {cs start : List Char} {runs : List Run}
    (dissected : Dissected cs start runs) : dissect cs = (start, runs) := by
  rw [dissected.chars, dissect_append dissected.plain, dissect_runs dissected.parted,
    List.append_nil]

/-- One more dollar sign in front makes the first run longer. -/
theorem Parted.longer {r : Run} {runs : List Run} (parted : Parted (r :: runs)) :
    Parted (⟨r.dollars + 1, r.after⟩ :: runs) := by
  cases parted with
  | last dollars plain => exact .last (Nat.succ_pos _) plain
  | cons dollars plain apart rest => exact .cons (Nat.succ_pos _) plain apart rest

theorem Parted.first {after : List Char} {runs : List Run} (plain : '$' ∉ after)
    (apart : after ≠ [] ∨ runs = []) (parted : Parted runs) : Parted (⟨1, after⟩ :: runs) := by
  cases runs with
  | nil => exact .last Nat.one_pos plain
  | cons next runs =>
    have nonempty := apart.resolve_right (List.cons_ne_nil next runs)
    exact .cons Nat.one_pos plain nonempty parted

theorem dissected (cs : List Char) : Dissected cs (dissect cs).1 (dissect cs).2 := by
  induction cs with
  | nil => exact ⟨rfl, List.not_mem_nil, .nil⟩
  | cons c cs ih =>
    by_cases dollar : c = '$'
    · rw [dissect, if_pos dollar, dollar]
      generalize dissect cs = parts at ih
      obtain ⟨after, runs⟩ := parts
      obtain ⟨chars, plain, parted⟩ := ih
      have all : '$' :: cs = '$' :: (after ++ runs.flatMap Run.chars) := congrArg ('$' :: ·) chars
      cases after with
      | cons d after =>
        have apart : d :: after ≠ [] ∨ runs = [] := Or.inl (List.cons_ne_nil d after)
        exact ⟨all, List.not_mem_nil, parted.first plain apart⟩
      | nil =>
        cases runs with
        | nil => exact ⟨all, List.not_mem_nil, parted.first plain (Or.inr rfl)⟩
        | cons r runs => exact ⟨all, List.not_mem_nil, parted.longer⟩
    · obtain ⟨chars, plain, parted⟩ := ih
      rw [dissect, if_neg dollar]
      refine ⟨congrArg (c :: ·) chars, ?_, parted⟩
      exact List.not_mem_cons_of_ne_of_not_mem (Ne.symm dollar) plain

theorem pieces_of_plain (offset : Nat) {cs : List Char} (plain : '$' ∉ cs) :
    pieces offset cs = cs.map .char := by
  induction cs generalizing offset with
  | nil => rfl
  | cons c cs ih =>
    obtain ⟨other, plain⟩ := not_or.1 (List.mem_cons.not.1 plain)
    rw [pieces_plain offset (Ne.symm other), ih _ plain, List.map_cons]

theorem pieces_pairs (offset n : Nat) (cs : List Char) :
    pieces offset (List.replicate (2 * n) '$' ++ cs) =
      List.replicate n .dollar ++ pieces (offset + 2 * n) cs := by
  induction n generalizing offset with
  | zero => rfl
  | succ n ih =>
    have next : offset + 2 + 2 * n = offset + 2 * (n + 1) := by omega
    rw [Nat.mul_succ, List.replicate_succ, List.replicate_succ, List.cons_append, List.cons_append,
      pieces_pair, ih, next]
    rfl

theorem trailingDollars_of_plain {cs : List Char} (plain : '$' ∉ cs) : trailingDollars cs = 0 := by
  induction cs with
  | nil => rfl
  | cons c cs ih =>
    obtain ⟨other, plain⟩ := not_or.1 (List.mem_cons.not.1 plain)
    rw [trailingDollars_of_ne (Ne.symm other), ih plain]

theorem trailingDollars_append {after : List Char} (plain : '$' ∉ after) (nonempty : after ≠ [])
    (cs : List Char) : trailingDollars (cs ++ after) = 0 := by
  have some := List.length_pos_of_ne_nil nonempty
  induction cs with
  | nil => exact trailingDollars_of_plain plain
  | cons c cs ih =>
    have short : trailingDollars (cs ++ after) ≠ (cs ++ after).length := by
      rw [ih, List.length_append]
      omega
    rw [List.cons_append, trailingDollars_cons, if_neg (fun both => short both.1), ih]

namespace Run

variable {r : Run}

theorem pieces_even (even : r.dollars % 2 = 0) (plain : '$' ∉ r.after) (offset : Nat) :
    pieces offset r.chars = List.replicate (r.dollars / 2) .dollar ++ r.after.map .char := by
  have half : r.dollars = 2 * (r.dollars / 2) := by omega
  rw [chars, half, pieces_pairs, pieces_of_plain _ plain]
  simp only [Nat.mul_div_cancel_left _ (Nat.two_pos)]

/-- The last dollar sign of a run stands right before the text behind it. -/
theorem chars_eq (some : 0 < r.dollars) :
    r.chars = List.replicate (r.dollars - 1) '$' ++ '$' :: r.after := by
  have last : r.dollars = r.dollars - 1 + 1 := by omega
  rw [chars, last, List.replicate_succ', List.append_assoc]
  rfl

/-- The last one of an odd number of dollar signs is left over. -/
theorem pieces_odd (odd : r.dollars % 2 = 1) (offset : Nat) :
    pieces offset r.chars = List.replicate (r.dollars / 2) .dollar ++
      pieces (offset + 2 * (r.dollars / 2)) ('$' :: r.after) := by
  have half : r.dollars - 1 = 2 * (r.dollars / 2) := by omega
  rw [chars_eq (by omega), half, pieces_pairs]

end Run

/-- The pieces of a dollar sign that is left over and of the text behind it. -/
def leftOver (offset : Nat) : List Char → List Piece
  | [] => [.malformed offset]
  | d :: rest =>
      if Text.isDigit d then .group (Text.digitValue d) :: rest.map .char
      else .malformed offset :: (d :: rest).map .char

theorem pieces_leftOver (offset : Nat) {after : List Char} (plain : '$' ∉ after) :
    pieces offset ('$' :: after) = leftOver offset after := by
  cases after with
  | nil => rfl
  | cons d rest =>
    obtain ⟨other, plainRest⟩ := not_or.1 (List.mem_cons.not.1 plain)
    by_cases digit : Text.isDigit d = true
    · rw [pieces_reference offset digit, pieces_of_plain _ plainRest]
      exact (if_pos digit).symm
    · rw [pieces_stray offset (Ne.symm other) digit, pieces_of_plain _ plain]
      exact (if_neg digit).symm

theorem flatMap_pieceText_dollars (captures : Captures) (n : Nat) :
    (List.replicate n Piece.dollar).flatMap (pieceText captures) = List.replicate n '$' := by
  induction n with
  | zero => rfl
  | succ n ih =>
    rw [List.replicate_succ, List.flatMap_cons, ih]
    rfl

theorem flatMap_pieceText_chars (captures : Captures) (cs : List Char) :
    (cs.map Piece.char).flatMap (pieceText captures) = cs := by
  rw [List.flatMap_map]
  exact List.flatMap_singleton' cs

theorem malformedOffset?_dollars (n : Nat) :
    (List.replicate n Piece.dollar).filterMap malformedOffset? = [] :=
  List.filterMap_eq_nil_iff.2 fun _ mem => congrArg malformedOffset? (List.eq_of_mem_replicate mem)

theorem malformedOffset?_chars (cs : List Char) :
    (cs.map Piece.char).filterMap malformedOffset? = [] := by
  rw [List.filterMap_map]
  exact List.filterMap_eq_nil_iff.2 fun _ _ => rfl

namespace Run

variable {r : Run}

theorem text_chars (captures : Captures) (plain : '$' ∉ r.after) (offset : Nat) :
    (pieces offset r.chars).flatMap (pieceText captures) = r.expanded captures := by
  by_cases even : r.dollars % 2 = 0
  · rw [pieces_even even plain, List.flatMap_append, flatMap_pieceText_dollars,
      flatMap_pieceText_chars, expanded, if_pos even]
  · have odd : r.dollars % 2 = 1 := by omega
    rw [pieces_odd odd, pieces_leftOver _ plain, List.flatMap_append, flatMap_pieceText_dollars,
      expanded, if_neg even]
    cases r.after with
    | nil => rfl
    | cons d rest =>
      by_cases digit : Text.isDigit d = true
      · simp only [leftOver, if_pos digit, List.flatMap_cons, flatMap_pieceText_chars]
        rfl
      · simp only [leftOver, if_neg digit, List.flatMap_cons, flatMap_pieceText_chars]
        rfl

theorem mem_malformed_chars (plain : '$' ∉ r.after) (offset x : Nat) :
    x ∈ (pieces offset r.chars).filterMap malformedOffset? ↔
      r.Stray ∧ x + 1 = offset + r.dollars := by
  by_cases even : r.dollars % 2 = 0
  · rw [pieces_even even plain, List.filterMap_append, malformedOffset?_dollars,
      malformedOffset?_chars]
    refine iff_of_false List.not_mem_nil ?_
    rintro ⟨⟨odd, -⟩, -⟩
    omega
  · have odd : r.dollars % 2 = 1 := by omega
    have last : x = offset + 2 * (r.dollars / 2) ↔ x + 1 = offset + r.dollars := by omega
    rw [pieces_odd odd, pieces_leftOver _ plain, List.filterMap_append, malformedOffset?_dollars,
      List.nil_append, ← last, Stray]
    cases r.after with
    | nil => simp [leftOver, malformedOffset?, odd]
    | cons d rest =>
      by_cases digit : Text.isDigit d = true
      · simp [leftOver, malformedOffset?, digit]
      · simp [leftOver, malformedOffset?, digit, odd]

/-- What stands behind a run changes nothing in it, as it starts after the run's own text. -/
theorem pieces_append (plain : '$' ∉ r.after) {cs : List Char} (apart : r.after ≠ [] ∨ cs = [])
    (offset : Nat) :
    pieces offset (r.chars ++ cs) =
      pieces offset r.chars ++ pieces (offset + Text.byteLength r.chars) cs := by
  cases apart with
  | inl nonempty =>
    have closed : trailingDollars r.chars % 2 = 0 := by
      rw [chars, trailingDollars_append plain nonempty]
    exact Template.pieces_append closed offset cs
  | inr none =>
    rw [none, List.append_nil]
    exact (List.append_nil _).symm

end Run

theorem Parted.uncons {r : Run} {runs : List Run} (parted : Parted (r :: runs)) :
    '$' ∉ r.after ∧ (r.after ≠ [] ∨ runs.flatMap Run.chars = []) ∧ Parted runs := by
  cases parted with
  | last dollars plain => exact ⟨plain, Or.inr rfl, .nil⟩
  | cons dollars plain apart rest => exact ⟨plain, Or.inl apart, rest⟩

theorem text_runs (captures : Captures) {runs : List Run} (parted : Parted runs) (offset : Nat) :
    (pieces offset (runs.flatMap Run.chars)).flatMap (pieceText captures) =
      runs.flatMap (Run.expanded captures) := by
  induction runs generalizing offset with
  | nil => rfl
  | cons r runs ih =>
    obtain ⟨plain, apart, rest⟩ := parted.uncons
    rw [List.flatMap_cons, Run.pieces_append plain apart, List.flatMap_append,
      Run.text_chars captures plain, ih rest, List.flatMap_cons]

theorem mem_malformed_runs {runs : List Run} (parted : Parted runs) (offset x : Nat) :
    x ∈ (pieces offset (runs.flatMap Run.chars)).filterMap malformedOffset? ↔
      ∃ before r after, runs = before ++ r :: after ∧ r.Stray ∧
        x + 1 = offset + Text.byteLength (before.flatMap Run.chars) + r.dollars := by
  induction runs generalizing offset with
  | nil =>
    refine iff_of_false List.not_mem_nil ?_
    rintro ⟨before, r, after, split, -⟩
    cases before <;> cases split
  | cons first runs ih =>
    obtain ⟨plain, apart, rest⟩ := parted.uncons
    rw [List.flatMap_cons, Run.pieces_append plain apart, List.filterMap_append, List.mem_append,
      Run.mem_malformed_chars plain, ih rest]
    constructor
    · rintro (⟨stray, here⟩ | ⟨before, r, after, split, stray, there⟩)
      · exact ⟨[], first, runs, rfl, stray, here⟩
      · refine ⟨first :: before, r, after, congrArg (first :: ·) split, stray, ?_⟩
        rw [there, List.flatMap_cons, Text.byteLength_append, Nat.add_assoc offset]
    · rintro ⟨before, r, after, split, stray, place⟩
      cases before with
      | nil =>
        obtain ⟨rfl, rfl⟩ := List.cons.inj split
        exact Or.inl ⟨stray, place⟩
      | cons head before =>
        obtain ⟨rfl, tail⟩ := List.cons.inj split
        rw [List.flatMap_cons, Text.byteLength_append] at place
        exact Or.inr ⟨before, r, after, tail, stray, by omega⟩

/-- Malformed dollar signs are found from the front to the end. -/
theorem malformed_sorted (offset : Nat) (cs : List Char) :
    ((pieces offset cs).filterMap malformedOffset?).Pairwise (· < ·) ∧
      ∀ x ∈ (pieces offset cs).filterMap malformedOffset?, offset ≤ x := by
  induction offset, cs using pieces.induct with
  | case1 offset => exact ⟨.nil, List.forall_mem_nil _⟩
  | case2 offset => exact ⟨List.pairwise_singleton _ _, List.forall_mem_singleton.2 (Nat.le_refl _)⟩
  | case3 offset cs ih =>
    rw [pieces_pair]
    refine ⟨ih.1, fun x mem => ?_⟩
    have later := ih.2 x mem
    omega
  | case4 offset d cs other digit ih =>
    rw [pieces_reference offset digit]
    refine ⟨ih.1, fun x mem => ?_⟩
    have later := ih.2 x mem
    omega
  | case5 offset d cs other noDigit ih =>
    rw [pieces_stray offset other noDigit]
    refine ⟨List.pairwise_cons.2 ⟨ih.2, ih.1⟩, fun x mem => ?_⟩
    cases List.mem_cons.1 mem with
    | inl here => exact Nat.le_of_eq here.symm
    | inr there =>
      have later := ih.2 x there
      omega
  | case6 offset c cs other ih =>
    rw [pieces_plain offset other]
    refine ⟨ih.1, fun x mem => ?_⟩
    have later := ih.2 x mem
    omega

theorem byteLength_dollars (n : Nat) : Text.byteLength (List.replicate n '$') = n := by
  have one : ('$' : Char).utf8Size = 1 := rfl
  induction n with
  | zero => rfl
  | succ n ih => rw [List.replicate_succ, Text.byteLength_cons, ih, one, Nat.add_comm]

/-- Where a text can be split after so many bytes, there is a boundary between characters. -/
theorem isValid_of_split {text : String} {front back : List Char}
    (split : text.toList = front ++ back) :
    (String.Pos.Raw.mk (Text.byteLength front)).IsValid text := by
  rw [String.Pos.Raw.isValid_iff_exists_append]
  refine ⟨String.ofList front, String.ofList back, ?_, ?_⟩
  · rw [← String.ofList_append, ← split, String.ofList_toList]
  · have size := Text.utf8ByteSize_eq (String.ofList front)
    rw [String.toList_ofList] at size
    exact congrArg String.Pos.Raw.mk size.symm

/-- A template can be taken apart at its dollar signs in just one way, and whatever the captures
are, it is its start that comes first and then what becomes of each run. The offsets of malformed
dollar signs increase and are those of the last one of each stray run, in bytes. -/
theorem expand_by_runs (template : String) :
    ∃ start runs, Dissected template.toList start runs ∧
      (∀ start' runs', Dissected template.toList start' runs' → start' = start ∧ runs' = runs) ∧
      ∀ captures,
        (expand template captures).text =
          String.ofList (start ++ runs.flatMap (Run.expanded captures)) ∧
        (∀ offset, offset ∈ (expand template captures).malformed ↔
          ∃ before r after, runs = before ++ r :: after ∧ r.Stray ∧
            offset + 1 = Text.byteLength (start ++ before.flatMap Run.chars) + r.dollars) ∧
        (expand template captures).malformed.Pairwise (· < ·) ∧
        ∀ offset ∈ (expand template captures).malformed,
          (String.Pos.Raw.mk offset).IsValid template := by
  obtain ⟨start, runs, found⟩ : ∃ start runs, dissect template.toList = (start, runs) :=
    ⟨_, _, rfl⟩
  have whole : Dissected template.toList start runs := by
    have parts := dissected template.toList
    rw [found] at parts
    exact parts
  have closed : trailingDollars start % 2 = 0 := by rw [trailingDollars_of_plain whole.plain]
  have parts : pieces 0 template.toList =
      start.map .char ++ pieces (Text.byteLength start) (runs.flatMap Run.chars) := by
    rw [whole.chars, pieces_append closed, pieces_of_plain 0 whole.plain, Nat.zero_add]
  have strays : ∀ offset, offset ∈ (pieces 0 template.toList).filterMap malformedOffset? ↔
      ∃ before r after, runs = before ++ r :: after ∧ r.Stray ∧
        offset + 1 = Text.byteLength (start ++ before.flatMap Run.chars) + r.dollars := by
    intro offset
    rw [parts, List.filterMap_append, malformedOffset?_chars, List.nil_append,
      mem_malformed_runs whole.parted]
    simp only [Text.byteLength_append]
  refine ⟨start, runs, whole, ?_, fun captures => ⟨?_, strays, (malformed_sorted 0 _).1, ?_⟩⟩
  · intro start' runs' other
    have same := found.symm.trans other.eq_dissect
    exact ⟨(congrArg Prod.fst same).symm, (congrArg Prod.snd same).symm⟩
  · simp only [expand, parts, List.flatMap_append, flatMap_pieceText_chars,
      text_runs captures whole.parted]
  · intro offset mem
    obtain ⟨before, r, after, rfl, stray, place⟩ := (strays offset).1 mem
    have odd := stray.1
    have split : template.toList =
        start ++ before.flatMap Run.chars ++ List.replicate (r.dollars - 1) '$' ++
          ('$' :: r.after ++ after.flatMap Run.chars) := by
      rw [whole.chars, List.flatMap_append, List.flatMap_cons, Run.chars_eq (by omega)]
      simp only [List.append_assoc, List.cons_append]
    have size : Text.byteLength
        (start ++ before.flatMap Run.chars ++ List.replicate (r.dollars - 1) '$') = offset := by
      rw [Text.byteLength_append, byteLength_dollars]
      omega
    exact size ▸ isValid_of_split split

/-- Of three dollar signs before a letter the last one is stray, and one before a digit is not. -/
theorem expand_by_runs_price :
    let template := "é$$$x $1"
    let runs : List Run := [⟨3, ['x', ' ']⟩, ⟨1, ['1']⟩]
    Dissected template.toList ['é'] runs ∧
      (∀ captures, (expand template captures).text =
        String.ofList (['é'] ++ runs.flatMap (Run.expanded captures))) ∧
      4 ∈ (expand template Captures.empty).malformed ∧
      (String.Pos.Raw.mk 4).IsValid template := by
  intro template runs
  have parted : Parted runs :=
    .cons (by decide) (by decide) (by decide) (.last (by decide) (by decide))
  have here : Dissected template.toList ['é'] runs := ⟨by decide +kernel, by decide, parted⟩
  obtain ⟨start, runs', whole, only, closed⟩ := expand_by_runs template
  obtain ⟨rfl, rfl⟩ := only _ _ here
  obtain ⟨-, strays, -, valid⟩ := closed Captures.empty
  have stray : 4 ∈ (expand template Captures.empty).malformed := by
    refine (strays 4).2 ⟨[], ⟨3, ['x', ' ']⟩, [⟨1, ['1']⟩], rfl, ⟨rfl, ?_⟩, by decide⟩
    intro d first
    cases first
    rfl
  exact ⟨here, fun captures => (closed captures).1, stray, valid 4 stray⟩

end Gleaner.Template
