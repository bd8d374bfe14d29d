import Gleaner.Document
import Gleaner.Proofs.Orderly

set_option autoImplicit false

/-!
Whatever the format of a document, each table that is read from it has its entries in key order,
none of them twice. Main statement: `Document.parse?_orderly`.
-/
namespace Gleaner

namespace Json

theorem Numeral.value?_orderly {n : Numeral} {tree : Tree} (read : n.value? = some tree) :
    tree.Orderly := by
  unfold Numeral.value? at read
  dsimp only at read
  split at read
  · split at read
    · cases read
      exact .integer _
    · split at read
      · cases read
        exact .float _
      · cases read
        exact .integer _
  · split at read
    · obtain ⟨_, -, rfl⟩ := Option.map_eq_some_iff.1 read
      exact .float _
    · split at read
      · split at read
        · cases read
        · cases read
          exact .float _
      · obtain ⟨_, -, rfl⟩ := Option.map_eq_some_iff.1 read
        exact .float _

theorem number?_orderly {cs rest : List Char} {tree : Tree}
    (read : number? cs = some (tree, rest)) : tree.Orderly := by
  simp only [number?, Option.bind_eq_bind, Option.bind_eq_some_iff, Option.some.injEq,
    Prod.mk.injEq] at read
  obtain ⟨_, -, _, -, _, -, value, read, rfl, -⟩ := read
  exact Numeral.value?_orderly read

mutual

theorem value?_orderly : ∀ (fuel depth : Nat) (cs : List Char) {tree : Tree} {rest : List Char},
    value? fuel depth cs = some (tree, rest) → tree.Orderly
  | 0, _, _, _, _, read => nomatch read
  | fuel + 1, depth, cs, tree, rest, read => by
    unfold value? at read
    split at read
    · obtain ⟨_, -, same⟩ := Option.map_eq_some_iff.1 read
      cases same
      exact .text _
    · split at read
      · cases read
      · split at read
        · cases read
          exact .list (List.forall_mem_nil _)
        · obtain ⟨found, items, same⟩ := Option.map_eq_some_iff.1 read
          cases same
          exact .list (items?_orderly fuel _ _ items)
    · split at read
      · cases read
      · split at read
        · cases read
          exact .empty
        · obtain ⟨found, entries, same⟩ := Option.map_eq_some_iff.1 read
          cases same
          exact .tableOf (entries?_orderly fuel _ _ entries)
    · obtain ⟨_, -, same⟩ := Option.map_eq_some_iff.1 read
      cases same
      exact .boolean true
    · obtain ⟨_, -, same⟩ := Option.map_eq_some_iff.1 read
      cases same
      exact .boolean false
    · obtain ⟨_, -, same⟩ := Option.map_eq_some_iff.1 read
      cases same
      exact .null
    · exact number?_orderly read

theorem items?_orderly : ∀ (fuel depth : Nat) (cs : List Char) {items : List Tree}
    {rest : List Char}, items? fuel depth cs = some (items, rest) → ∀ item ∈ items, item.Orderly
  | 0, _, _, _, _, read => nomatch read
  | fuel + 1, depth, cs, items, rest, read => by
    simp only [items?, Option.bind_eq_bind, Option.bind_eq_some_iff] at read
    obtain ⟨⟨first, after⟩, one, read⟩ := read
    have here := value?_orderly fuel depth cs one
    dsimp only at read
    split at read
    · simp only [Option.bind_eq_some_iff] at read
      obtain ⟨⟨others, after⟩, more, read⟩ := read
      cases read
      exact List.forall_mem_cons.2 ⟨here, items?_orderly fuel depth _ more⟩
    · cases read
      exact List.forall_mem_singleton.2 here
    · cases read

theorem entries?_orderly : ∀ (fuel depth : Nat) (cs : List Char)
    {entries : List (String × Tree)} {rest : List Char},
    entries? fuel depth cs = some (entries, rest) → ∀ e ∈ entries, e.2.Orderly
  | 0, _, _, _, _, read => nomatch read
  | fuel + 1, depth, cs, entries, rest, read => by
    unfold entries? at read
    split at read
    · simp only [Option.bind_eq_bind, Option.bind_eq_some_iff] at read
      obtain ⟨⟨key, after⟩, -, read⟩ := read
      dsimp only at read
      split at read
      · simp only [Option.bind_eq_some_iff] at read
        obtain ⟨⟨first, after⟩, one, read⟩ := read
        have here := value?_orderly fuel depth _ one
        dsimp only at read
        split at read
        · simp only [Option.bind_eq_some_iff] at read
          obtain ⟨⟨others, after⟩, more, read⟩ := read
          cases read
          exact List.forall_mem_cons.2 ⟨here, entries?_orderly fuel depth _ more⟩
        · cases read
          exact List.forall_mem_singleton.2 here
        · cases read
      · cases read
    · cases read

end

theorem read?_orderly {text : String} {tree : Tree} (read : read? text = some tree) :
    tree.Orderly := by
  simp only [read?, Option.bind_eq_bind, Option.bind_eq_some_iff] at read
  obtain ⟨⟨value, rest⟩, found, read⟩ := read
  obtain ⟨-, same⟩ := Option.ite_none_right_eq_some.1 read
  cases same
  exact value?_orderly _ _ _ found

end Json

namespace Toml

open Text Assurance

theorem momentTree_orderly (m : Moment) : (momentTree m).Orderly := by
  refine .table (List.pairwise_singleton _ _) (List.forall_mem_singleton.2 ?_)
  exact .text _

theorem integerOf_orderly {negative : Bool} {magnitude : Nat} {tree : Tree}
    (read : integerOf negative magnitude = some tree) : tree.Orderly := by
  obtain ⟨-, same⟩ := Option.ite_none_right_eq_some.1 read
  cases same
  exact .integer _

theorem inBase_orderly (base : Nat) : reading.Ensures (inBase base) Tree.Orderly := by
  refine after fun cs => ?_
  split
  · next read => exact reading.ensures_pure (integerOf_orderly read)
  · exact ensures_failure

theorem decimal_orderly : reading.Ensures decimal Tree.Orderly := by
  refine after fun negative => after fun cs => ?_
  split
  · next read => exact reading.ensures_pure (integerOf_orderly read)
  · exact ensures_failure

theorem integer_orderly : reading.Ensures integer Tree.Orderly := by
  have marked : ∀ mark base, reading.Ensures (do Scan.word mark; inBase base) Tree.Orderly :=
    fun mark base => after fun _ => inBase_orderly base
  exact ensures_orElse (marked _ _) (ensures_orElse (marked _ _)
    (ensures_orElse (marked _ _) decimal_orderly))

theorem namedFloat_orderly : reading.Ensures namedFloat Tree.Orderly := by
  exact after fun _ => ensures_orElse (after_pure (.float _)) (after_pure (.float _))

theorem float_orderly : reading.Ensures float Tree.Orderly := by
  refine ensures_orElse ?_ namedFloat_orderly
  refine after fun cs => ?_
  split
  · exact ensures_failure
  · exact reading.ensures_pure (.float _)
  · exact ensures_failure

theorem number_orderly : reading.Ensures number Tree.Orderly := by
  refine after fun isFloat => ?_
  split
  · exact float_orderly
  · exact ensures_orElse namedFloat_orderly integer_orderly

theorem scalar_orderly : reading.Ensures scalar Tree.Orderly := by
  have text : reading.Ensures (Tree.text <$> string) Tree.Orderly :=
    ensures_map fun _ ran _ => .text ran.1
  refine after fun next => ?_
  split
  · exact text
  · exact text
  · exact after_pure (.boolean true)
  · exact after_pure (.boolean false)
  · refine after fun looks => ?_
    split
    · exact ensures_map fun _ ran _ => momentTree_orderly ran.1
    · exact number_orderly

/-- The values in a table under definition are orderly; its entries come in any order. -/
inductive Node.Orderly : Node → Prop
  | value {tree : Tree} (orderly : tree.Orderly) : Orderly (.value tree)
  | table {origin : Origin} {entries : Node.Entries} (each : ∀ e ∈ entries, Orderly e.2) :
      Orderly (.table origin entries)
  | tables {reversed : List Node.Entries}
      (each : ∀ entries ∈ reversed, ∀ e ∈ entries, Orderly e.2) : Orderly (.tables reversed)

namespace Node

/-- The values in all entries are orderly. -/
def EachOrderly (entries : Entries) : Prop := ∀ e ∈ entries, e.2.Orderly

variable {entries : Entries}

theorem EachOrderly.nil : EachOrderly [] := List.forall_mem_nil _

theorem EachOrderly.found (each : EachOrderly entries) {key : String} {node : Node}
    (found : entries.lookup key = some node) : node.Orderly := by
  obtain ⟨before, after, rfl, -⟩ := List.lookup_eq_some_iff.1 found
  exact each (key, node) (List.mem_append_right _ List.mem_cons_self)

theorem EachOrderly.put (each : EachOrderly entries) (key : String) {node : Node}
    (new : node.Orderly) : EachOrderly (put key node entries) := by
  induction entries with
  | nil => exact List.forall_mem_singleton.2 new
  | cons head rest ih =>
    obtain ⟨here, each⟩ := List.forall_mem_cons.1 each
    rw [Node.put]
    split
    · exact List.forall_mem_cons.2 ⟨new, each⟩
    · exact List.forall_mem_cons.2 ⟨here, ih each⟩

theorem EachOrderly.add (each : EachOrderly entries) (key : String) {node : Node}
    (new : node.Orderly) : EachOrderly (entries ++ [(key, node)]) :=
  List.forall_mem_append.2 ⟨each, List.forall_mem_singleton.2 new⟩

/-- A change of a table keeps it that the values are orderly. -/
def Keeps (change : Origin → Entries → Option Entries) : Prop :=
  ∀ origin entries changed, change origin entries = some changed → EachOrderly entries →
    EachOrderly changed

theorem keeps_descend (made : Origin) {change : Origin → Entries → Option Entries}
    (keeps : Keeps change) (path : List String) : Keeps (descend made change path) := by
  induction path with
  | nil => exact keeps
  | cons key path ih =>
    intro origin entries changed read each
    rw [descend] at read
    split at read
    · simp only [Option.bind_eq_bind, Option.bind_eq_some_iff, Option.some.injEq] at read
      obtain ⟨child, below, rfl⟩ := read
      exact each.put key (.table (ih _ _ _ below .nil))
    · cases read
    · cases read
    · next last before here =>
      simp only [Option.bind_eq_bind, Option.bind_eq_some_iff, Option.some.injEq] at read
      obtain ⟨child, below, rfl⟩ := read
      cases each.found here with
      | tables inside =>
        obtain ⟨first, others⟩ := List.forall_mem_cons.1 inside
        exact each.put key (.tables (List.forall_mem_cons.2 ⟨ih _ _ _ below first, others⟩))
    · next origin' inner here =>
      obtain ⟨-, read⟩ := Option.ite_none_left_eq_some.1 read
      simp only [Option.bind_eq_bind, Option.bind_eq_some_iff, Option.some.injEq] at read
      obtain ⟨child, below, rfl⟩ := read
      cases each.found here with
      | table inside => exact each.put key (.table (ih _ _ _ below inside))

theorem keeps_addValue (dotted : Bool) (key : String) {tree : Tree} (orderly : tree.Orderly) :
    Keeps (addValue dotted key tree) := by
  intro origin entries changed read each
  obtain ⟨-, same⟩ := Option.ite_none_left_eq_some.1 read
  cases same
  exact each.add key (.value orderly)

theorem keeps_addAt (path : List String) (key : String) {tree : Tree} (orderly : tree.Orderly) :
    Keeps (addAt path key tree) :=
  keeps_descend _ (keeps_addValue _ key orderly) path

theorem keeps_openTable (key : String) : Keeps (openTable key) := by
  intro origin entries changed read each
  unfold openTable at read
  split at read
  · cases read
    exact each.add key (.table EachOrderly.nil)
  · next child here =>
    cases read
    cases each.found here with
    | table inside => exact each.put key (.table inside)
  · cases read

theorem keeps_openNext (key : String) : Keeps (openNext key) := by
  intro origin entries changed read each
  unfold openNext at read
  split at read
  · cases read
    exact each.add key (.tables (List.forall_mem_singleton.2 EachOrderly.nil))
  · next before here =>
    cases read
    cases each.found here with
    | tables inside =>
      exact each.put key (.tables (List.forall_mem_cons.2 ⟨EachOrderly.nil, inside⟩))
  · cases read

mutual

theorem toTree_orderly : ∀ {node : Node}, node.Orderly → node.toTree.Orderly
  | .value _, orderly => by
    cases orderly with
    | value orderly => exact orderly
  | .table _ entries, orderly => by
    cases orderly with
    | table each => exact .tableOf (toEntries_orderly entries each)
  | .tables reversed, orderly => by
    cases orderly with
    | tables each =>
      exact .list fun tree mem => toTables_orderly reversed each tree (List.mem_reverse.1 mem)

theorem toEntries_orderly : ∀ entries : List (String × Node), EachOrderly entries →
    ∀ e ∈ toEntries entries, e.2.Orderly
  | [], _ => List.forall_mem_nil _
  | (key, node) :: rest, each => by
    obtain ⟨here, each⟩ := List.forall_mem_cons.1 each
    exact List.forall_mem_cons.2 ⟨toTree_orderly here, toEntries_orderly rest each⟩

theorem toTables_orderly : ∀ reversed : List (List (String × Node)),
    (∀ entries ∈ reversed, EachOrderly entries) → ∀ tree ∈ toTables reversed, tree.Orderly
  | [], _ => List.forall_mem_nil _
  | entries :: rest, each => by
    obtain ⟨here, each⟩ := List.forall_mem_cons.1 each
    exact List.forall_mem_cons.2
      ⟨.tableOf (toEntries_orderly entries here), toTables_orderly rest each⟩

end

end Node

theorem inlineTable_orderly {pairs : List (List String × Tree)} {tree : Tree}
    (each : ∀ pair ∈ pairs, pair.2.Orderly) (read : inlineTable pairs = some tree) :
    tree.Orderly := by
  simp only [inlineTable, Option.bind_eq_bind, Option.bind_eq_some_iff, Option.some.injEq] at read
  obtain ⟨entries, ran, rfl⟩ := read
  have orderly : Node.EachOrderly entries := by
    refine whereDone.ensures_foldlM (fun pair mem before kept after stepped => ?_) .nil entries ran
    obtain ⟨⟨path, key⟩, -, added⟩ := Option.bind_eq_some_iff.1 stepped
    exact Node.keeps_addAt path key (each pair mem) _ _ _ added kept
  exact .tableOf (Node.toEntries_orderly entries orderly)

mutual

theorem value_orderly : ∀ fuel depth : Nat, reading.Ensures (value fuel depth) Tree.Orderly
  | 0, _ => ensures_failure
  | fuel + 1, depth => by
    unfold value
    refine after fun next => ?_
    split
    · split
      · exact ensures_failure
      · next depth =>
        refine after fun _ => ensures_map ?_
        exact fun s ran done => .list (items_orderly fuel depth s ran done)
    · split
      · exact ensures_failure
      · next depth =>
        refine after fun _ => after fun _ => ?_
        have none : reading.Ensures (do Scan.exactly '\x7d'; pure [])
            fun pairs : List (List String × Tree) => ∀ pair ∈ pairs, pair.2.Orderly :=
          after_pure (List.forall_mem_nil _)
        refine reading.ensures_bind (ensures_orElse none (pairs_orderly fuel depth))
          fun pairs each => ?_
        split
        · next read => exact reading.ensures_pure (inlineTable_orderly each read)
        · exact ensures_failure
    · exact scalar_orderly

theorem items_orderly : ∀ fuel depth : Nat,
    reading.Ensures (items fuel depth) fun items => ∀ item ∈ items, item.Orderly
  | 0, _ => ensures_failure
  | fuel + 1, depth => by
    unfold items
    refine after fun _ => after fun _ => after fun done => ?_
    split
    · exact reading.ensures_pure (List.forall_mem_nil _)
    · refine reading.ensures_bind (value_orderly fuel depth) fun first here => ?_
      refine after fun _ => after fun _ => after fun more => ?_
      split
      · exact ensures_cons here (items_orderly fuel depth)
      · exact after_pure (List.forall_mem_singleton.2 here)

theorem pairs_orderly : ∀ fuel depth : Nat,
    reading.Ensures (pairs fuel depth) fun pairs => ∀ pair ∈ pairs, pair.2.Orderly
  | 0, _ => ensures_failure
  | fuel + 1, depth => by
    unfold pairs
    refine after fun path => after fun _ => after fun _ => ?_
    refine reading.ensures_bind (value_orderly fuel depth) fun tree here => ?_
    refine after fun _ => after fun more => ?_
    split
    · exact ensures_cons here (pairs_orderly fuel depth)
    · exact after_pure (List.forall_mem_singleton.2 here)

end

/-- The value that a line gives, if it gives one, is orderly. -/
def Line.Orderly : Line → Prop
  | .pair _ tree => tree.Orderly
  | _ => True

theorem line_orderly : reading.Ensures line Line.Orderly := by
  have listHeader : reading.Ensures (do
      Scan.word ['[', '[']
      let path ← key
      Scan.word [']', ']']
      lineEnd
      pure (Line.listHeader path)) Line.Orderly :=
    after fun _ => after fun _ => after fun _ => after_pure trivial
  have header : reading.Ensures (do
      Scan.exactly '['
      let path ← key
      Scan.exactly ']'
      lineEnd
      pure (Line.header path)) Line.Orderly :=
    after fun _ => after fun _ => after fun _ => after_pure trivial
  refine ensures_orElse listHeader (ensures_orElse header ?_)
  refine after fun path => after fun _ => after fun _ => after fun left => ?_
  refine reading.ensures_bind (value_orderly (left + 1) nestingLimit) fun tree orderly => ?_
  exact after_pure orderly

theorem lines_orderly (fuel : Nat) :
    reading.Ensures (lines fuel) fun lines => ∀ line ∈ lines, line.Orderly := by
  induction fuel with
  | zero => exact ensures_failure
  | succ fuel ih =>
    unfold lines
    refine after fun _ => after fun next => ?_
    split
    · exact reading.ensures_pure (List.forall_mem_nil _)
    · split
      · exact after fun _ => ih
      · exact reading.ensures_bind line_orderly fun first here => ensures_cons here ih

theorem openHeader_orderly {opens : String → Origin → Node.Entries → Option Node.Entries}
    (keeps : ∀ key, Node.Keeps (opens key)) {draft next : Draft} {path : List String}
    (opened : openHeader opens draft path = some next) (orderly : Node.EachOrderly draft.entries) :
    Node.EachOrderly next.entries := by
  simp only [openHeader, Option.bind_eq_bind, Option.bind_eq_some_iff, Option.some.injEq] at opened
  obtain ⟨⟨above, key⟩, -, entries, changed, rfl⟩ := opened
  exact Node.keeps_descend _ (keeps key) above _ _ _ changed orderly

theorem Draft.add_orderly {line : Line} (given : line.Orderly) {draft next : Draft}
    (added : draft.add line = some next) (orderly : Node.EachOrderly draft.entries) :
    Node.EachOrderly next.entries := by
  cases line with
  | header path => exact openHeader_orderly Node.keeps_openTable added orderly
  | listHeader path => exact openHeader_orderly Node.keeps_openNext added orderly
  | pair path tree =>
    simp only [Draft.add, Option.bind_eq_bind, Option.bind_eq_some_iff, Option.some.injEq] at added
    obtain ⟨⟨above, key⟩, -, entries, changed, rfl⟩ := added
    exact Node.keeps_descend _ (Node.keeps_addAt above key given) draft.current _ _ _ changed
      orderly

theorem read?_orderly {text : String} {tree : Tree} (read : read? text = some tree) :
    tree.Orderly := by
  simp only [read?, Option.bind_eq_bind, Option.bind_eq_some_iff, Option.some.injEq] at read
  obtain ⟨⟨found, rest⟩, lined, draft, ran, rfl⟩ := read
  have given : ∀ line ∈ found, line.Orderly := lines_orderly _ _ _ lined
  have kept : whereDone.Ensures (found.foldlM Draft.add {}) fun draft =>
      Node.EachOrderly draft.entries :=
    whereDone.ensures_foldlM
      (fun line mem _ orderly _ added => Draft.add_orderly (given line mem) added orderly) .nil
  have orderly := kept draft ran
  exact .tableOf (Node.toEntries_orderly draft.entries orderly)

end Toml

namespace Yaml

open Assurance

theorem integerTree?_orderly {n : Int} {tree : Tree} (read : integerTree? n = some tree) :
    tree.Orderly := by
  obtain ⟨-, same⟩ := Option.ite_none_right_eq_some.1 read
  cases same
  exact .integer n

theorem plainTree?_orderly {text : String} {tree : Tree} (read : plainTree? text = some tree) :
    tree.Orderly := by
  unfold plainTree? at read
  split at read
  · cases read
    exact .null
  · split at read
    · cases read
      exact .boolean _
    · split at read
      · exact integerTree?_orderly read
      · split at read
        · cases read
          exact .text _
        · cases read
          cases float? text with
          | none => exact .text _
          | some x => exact .float x

theorem scalarTree?_orderly {tag : Option (List UInt8)} {isPlain : Bool} {text : String}
    {tree : Tree} (read : scalarTree? tag isPlain text = some tree) : tree.Orderly := by
  unfold scalarTree? at read
  split at read
  · split at read
    · exact plainTree?_orderly read
    · cases read
      exact .text text
  · split at read
    · cases read
    · split at read
      · obtain ⟨b, -, rfl⟩ := Option.map_eq_some_iff.1 read
        exact .boolean b
      · split at read
        · obtain ⟨n, -, read⟩ := Option.bind_eq_some_iff.1 read
          exact integerTree?_orderly read
        · split at read
          · obtain ⟨x, -, rfl⟩ := Option.map_eq_some_iff.1 read
            exact .float x
          · split at read
            · obtain ⟨-, same⟩ := Option.ite_none_right_eq_some.1 read
              cases same
              exact .null
            · split at read
              · exact plainTree?_orderly read
              · cases read
                exact .text text

/-- What is said of following aliases. -/
abbrev following : Assurance Follow := whereDone.stateful Nat

theorem toTree_orderly (targets : Targets) (depth : Nat) (node : Node) :
    following.Ensures (toTree targets depth node) Tree.Orderly := by
  induction depth generalizing node with
  | zero =>
    rw [toTree]
    refine after fun target => ?_
    split
    · split
      · next read => exact following.ensures_pure (scalarTree?_orderly read)
      · exact ensures_failure
    · exact after fun _ => ensures_failure
    · exact after fun _ => ensures_failure
    · exact ensures_failure
  | succ depth ih =>
    rw [toTree]
    refine after fun target => ?_
    split
    · split
      · next read => exact following.ensures_pure (scalarTree?_orderly read)
      · exact ensures_failure
    · next items =>
      refine after fun _ => ensures_map fun s ran done => .list ?_
      exact ensures_mapM (fun item _ => ih item) s ran done
    · next entries =>
      have each : ∀ entry ∈ entries, following.Ensures (do
          let key ← keyOf targets entry.1
          pure (key, ← toTree targets depth entry.2)) fun e : String × Tree => e.2.Orderly :=
        fun entry _ => after fun key =>
          following.ensures_bind (ih entry.2) fun tree orderly => following.ensures_pure orderly
      exact after fun _ => ensures_map fun s ran done => .tableOf (ensures_mapM each s ran done)
    · exact ensures_failure

theorem read?_orderly {text : String} {tree : Tree} (read : read? text = some tree) :
    tree.Orderly := by
  obtain ⟨root, -, read⟩ := Option.bind_eq_some_iff.1 read
  unfold rootTree? at read
  split at read
  · cases read
    exact .empty
  · cases read
    exact .empty
  · obtain ⟨ran, done, rfl⟩ := Option.map_eq_some_iff.1 read
    exact toTree_orderly _ _ _ _ ran done
  · cases read

end Yaml

/-- Whatever the format, documents are orderly. -/
theorem Document.parse?_orderly {format : DocumentFormat} {text : String} {tree : Tree}
    (read : parse? format text = some tree) : tree.Orderly := by
  obtain ⟨whole, found, kept⟩ := Option.bind_eq_some_iff.1 read
  have orderly : whole.Orderly := by
    cases format with
    | json => exact Json.read?_orderly found
    | toml => exact Toml.read?_orderly found
    | yaml => exact Yaml.read?_orderly found
  split at kept
  · cases kept
    exact orderly
  · cases kept

end Gleaner
