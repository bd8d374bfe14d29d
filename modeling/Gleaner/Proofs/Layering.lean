import Gleaner.Proofs.Listing
import Gleaner.Proofs.OrderlyDocuments
import Gleaner.Settings.Load
import Mathlib.Data.List.Induction

set_option autoImplicit false

/-!
Settings in layers. Tables are laid over each other entry by entry, so that each setting has the
value of the last layer that gives it; but whatever is not a table covers the settings of the web in
all layers below it. Main statement: `Settings.load_layered`.
-/
namespace Gleaner

namespace Tree

def isTable : Tree → Bool
  | .table _ => true
  | _ => false

/-- What is found where one tree may lie over another. -/
def overlaid : (lower upper : Option Tree) → Option Tree
  | some lower, some upper => some (lower.merge upper)
  | none, upper => upper
  | lower, none => lower

/-- Trees laid over each other, the first of them at the bottom. -/
def stacked (trees : List Tree) : Option Tree :=
  trees.foldl (fun below tree => overlaid below (some tree)) none

/-- The part of a structure that a tree gives under a key; a list gives the parts in the order of
their keys. -/
def part? (keys : List String) (key : String) : Tree → Option Tree
  | .table entries => Entries.find? key entries
  | .list items => Entries.find? key (keys.zip items)
  | _ => none

/-- One more tree above those that are in force. A table leaves the tables below it in force, and
anything else leaves nothing. -/
def cover (force : List Tree) (tree : Tree) : List Tree :=
  if tree.isTable then force.filter isTable ++ [tree] else [tree]

/-- The trees in force when all are laid over each other. -/
def inForce (trees : List Tree) : List Tree := trees.foldl cover []

theorem isTable_merge (lower upper : Tree) : (lower.merge upper).isTable = upper.isTable := by
  cases upper with
  | table upper => cases lower <;> rfl
  | _ => cases lower <;> rfl

/-- Unless both are tables, the upper one stays. -/
theorem merge_of_not_tables {lower upper : Tree}
    (scalar : lower.isTable = false ∨ upper.isTable = false) : lower.merge upper = upper := by
  rcases scalar with scalar | scalar
  · cases lower with
    | table entries => cases scalar
    | _ => cases upper <;> rfl
  · cases upper with
    | table entries => cases scalar
    | _ => cases lower <;> rfl

@[simp] theorem overlaid_none_left (upper : Option Tree) : overlaid none upper = upper := by
  cases upper <;> rfl

@[simp] theorem overlaid_none_right (lower : Option Tree) : overlaid lower none = lower := by
  cases lower <;> rfl

/-- Under each key the entries of two tables are laid over each other. -/
theorem find?_mergeEntries {upper : List (String × Tree)} (sorted : Entries.Sorted upper)
    (key : String) (lower : List (String × Tree)) :
    Entries.find? key (mergeEntries upper lower) =
      overlaid (Entries.find? key lower) (Entries.find? key upper) := by
  induction upper generalizing lower with
  | nil => rw [mergeEntries, Entries.find?_nil, overlaid_none_right]
  | cons head rest ih =>
    obtain ⟨first, sorted⟩ := List.pairwise_cons.1 sorted
    rw [mergeEntries, ih sorted, Entries.find?_insert, Entries.find?_cons]
    by_cases here : head.1 = key
    · subst here
      rw [if_pos rfl, if_pos rfl, Entries.find?_eq_none_of_lt first, overlaid_none_right]
      cases Entries.find? head.1 lower <;> rfl
    · rw [if_neg here, if_neg here]

theorem stacked_snoc (trees : List Tree) (tree : Tree) :
    stacked (trees ++ [tree]) = overlaid (stacked trees) (some tree) :=
  List.foldl_append

theorem stacked_append_toList (trees : List Tree) (tree : Option Tree) :
    stacked (trees ++ tree.toList) = overlaid (stacked trees) tree := by
  cases tree with
  | none => rw [Option.toList_none, List.append_nil, overlaid_none_right]
  | some tree => exact stacked_snoc trees tree

theorem eq_nil_of_stacked {trees : List Tree} (found : stacked trees = none) : trees = [] := by
  induction trees using List.reverseRecOn with
  | nil => rfl
  | append_singleton trees tree _ =>
    rw [stacked_snoc] at found
    cases below : stacked trees <;> rw [below] at found <;> cases found

theorem inForce_snoc (trees : List Tree) (tree : Tree) :
    inForce (trees ++ [tree]) = cover (inForce trees) tree :=
  List.foldl_append

/-- Anything but a table that comes out on top is the last. -/
theorem eq_of_overlaid {below : Option Tree} {upper tree : Tree}
    (found : overlaid below (some upper) = some tree) (scalar : tree.isTable = false) :
    upper = tree := by
  cases below with
  | none => exact Option.some.inj found
  | some lower =>
    have same : lower.merge upper = tree := Option.some.inj found
    rw [← same, isTable_merge] at scalar
    rw [← same, merge_of_not_tables (.inr scalar)]

theorem getLast?_of_stacked {trees : List Tree} {tree : Tree} (found : stacked trees = some tree)
    (scalar : tree.isTable = false) : trees.getLast? = some tree := by
  induction trees using List.reverseRecOn with
  | nil => cases found
  | append_singleton trees last _ =>
    rw [stacked_snoc] at found
    rw [List.getLast?_concat, eq_of_overlaid found scalar]

/-- Under a table only tables are in force. -/
theorem isTable_of_inForce {trees : List Tree} {tree : Tree} (found : stacked trees = some tree)
    (table : tree.isTable = true) : ∀ inside ∈ inForce trees, inside.isTable = true := by
  induction trees using List.reverseRecOn with
  | nil => exact List.forall_mem_nil _
  | append_singleton trees last _ =>
    have upper : last.isTable = true := by
      rw [stacked_snoc] at found
      cases below : stacked trees with
      | none =>
        rw [below] at found
        rwa [Option.some.inj found]
      | some lower =>
        rw [below] at found
        rwa [← Option.some.inj found, isTable_merge] at table
    rw [inForce_snoc, cover, if_pos upper]
    exact List.forall_mem_append.2 ⟨fun inside mem => (List.mem_filter.1 mem).2,
      List.forall_mem_singleton.2 upper⟩

theorem inForce_of_scalar {trees : List Tree} {tree : Tree} (found : stacked trees = some tree)
    (scalar : tree.isTable = false) : inForce trees = [tree] := by
  induction trees using List.reverseRecOn with
  | nil => cases found
  | append_singleton trees last _ =>
    rw [stacked_snoc] at found
    have same := eq_of_overlaid found scalar
    subst same
    rw [inForce_snoc, cover, if_neg (Bool.eq_false_iff.1 scalar)]

/-- Tables stay in force as long as nothing else comes above them. -/
theorem inForce_of_tables {trees : List Tree} (tables : ∀ tree ∈ trees, tree.isTable = true) :
    inForce trees = trees := by
  induction trees using List.reverseRecOn with
  | nil => rfl
  | append_singleton trees last ih =>
    obtain ⟨below, upper⟩ := List.forall_mem_append.1 tables
    rw [inForce_snoc, ih below, cover, if_pos (List.forall_mem_singleton.1 upper),
      List.filter_eq_self.2 below]

/-- The last tree covers what is below it, unless it is a table over a table. -/
theorem covers_or_tables (trees : List Tree) (last : Tree) :
    (stacked (trees ++ [last]) = some last ∧ inForce (trees ++ [last]) = [last]) ∨
      ∃ lower upper, stacked trees = some (.table lower) ∧ last = .table upper := by
  rw [stacked_snoc, inForce_snoc, cover]
  cases below : stacked trees with
  | none =>
    rw [eq_nil_of_stacked below]
    exact .inl ⟨rfl, by cases last.isTable <;> rfl⟩
  | some lower =>
    cases upper : last.isTable with
    | false => exact .inl ⟨congrArg some (merge_of_not_tables (.inr upper)), rfl⟩
    | true =>
      cases under : lower.isTable with
      | false =>
        refine .inl ⟨congrArg some (merge_of_not_tables (.inl under)), ?_⟩
        rw [inForce_of_scalar below under, List.filter_singleton, under]
        rfl
      | true =>
        cases lower with
        | table lower =>
          cases last with
          | table entries => exact .inr ⟨lower, entries, rfl, rfl⟩
          | _ => cases upper
        | _ => cases under

/-- A part of a structure in trees that are laid over each other is what those of them that are in
force give for it, laid over each other. -/
theorem part?_stacked {trees : List Tree} (orderly : ∀ tree ∈ trees, tree.Orderly)
    (keys : List String) (key : String) :
    (stacked trees).bind (part? keys key) =
      stacked ((inForce trees).filterMap (part? keys key)) := by
  induction trees using List.reverseRecOn with
  | nil => rfl
  | append_singleton trees last ih =>
    obtain ⟨each, above⟩ := List.forall_mem_append.1 orderly
    have alone : [last].filterMap (part? keys key) = (part? keys key last).toList := by
      rw [List.filterMap_cons]
      cases part? keys key last <;> rfl
    rcases covers_or_tables trees last with ⟨found, inside⟩ | ⟨lower, upper, below, rfl⟩
    · rw [found, inside, alone, ← List.nil_append (Option.toList _), stacked_append_toList]
      exact (overlaid_none_left _).symm
    · have tables := isTable_of_inForce below rfl
      have upperTable : (Tree.table upper).isTable = true := rfl
      have sorted := (List.forall_mem_singleton.1 above).sorted
      have rest := ih each
      rw [below] at rest
      rw [stacked_snoc, below, inForce_snoc, cover, if_pos upperTable, List.filter_eq_self.2 tables,
        List.filterMap_append, alone, stacked_append_toList, ← rest]
      exact find?_mergeEntries sorted key lower

/-- A table gives the parts of a structure as its entries. -/
theorem filterMap_part? {trees : List Tree} (tables : ∀ tree ∈ trees, tree.isTable = true)
    (keys : List String) (key : String) :
    trees.filterMap (part? keys key) = trees.filterMap (·.get? key) := by
  refine List.filterMap_congr fun tree mem => ?_
  have table := tables tree mem
  cases tree with
  | table entries => rfl
  | _ => cases table

theorem Orderly.get? {tree part : Tree} (orderly : tree.Orderly) {key : String}
    (found : tree.get? key = some part) : part.Orderly := by
  cases tree with
  | table entries => exact orderly.found found
  | _ => cases found

theorem find?_zip {keys : List String} (distinct : keys.Nodup) (items : List Tree) :
    (List.range keys.length).map (fun i => items[i]?) =
      keys.map fun key => Entries.find? key (keys.zip items) := by
  induction keys generalizing items with
  | nil => rfl
  | cons key keys ih =>
    obtain ⟨apart, distinct⟩ := List.nodup_cons.1 distinct
    cases items with
    | nil => simp [List.replicate_succ]
    | cons item items =>
      have others : keys.map (fun other => Entries.find? other ((key, item) :: keys.zip items)) =
          keys.map fun other => Entries.find? other (keys.zip items) := by
        refine List.map_congr_left fun other mem => ?_
        rw [Entries.find?_cons, if_neg fun same : key = other => apart (same ▸ mem)]
      rw [List.length_cons, List.range_succ_eq_map, List.map_cons, List.map_map, List.map_cons,
        List.zip_cons_cons, others, ← ih distinct items, Entries.find?_cons, if_pos rfl]
      rfl

theorem eq_of_parts? {keys : List String} (distinct : keys.Nodup) {surplus : Surplus}
    {tree : Tree} {parts : List (Option Tree)} (read : tree.parts? surplus keys = some parts) :
    parts = keys.map fun key => part? keys key tree := by
  cases tree with
  | table entries =>
    cases read
    rfl
  | list items =>
    obtain ⟨-, same⟩ := Option.ite_none_left_eq_some.1 read
    cases same
    exact find?_zip distinct items
  | _ => cases read

/-- What is read of a part that is no table was given by the last of the trees that give it. -/
theorem getLast?_of_partOr? {α : Type} {decode? : Tree → Option α} {encode : α → Tree}
    (inverse : ∀ tree a, decode? tree = some a → tree = encode a)
    (scalar : ∀ a, (encode a).isTable = false) {default a : α} {given : List Tree}
    (read : partOr? default decode? (stacked given) = some a) :
    (encode default :: given).getLast? = some (encode a) := by
  cases found : stacked given with
  | none =>
    rw [found] at read
    cases read
    rw [eq_nil_of_stacked found]
    rfl
  | some tree =>
    rw [found] at read
    have same := inverse tree a read
    subst same
    rw [List.getLast?_cons, getLast?_of_stacked found (scalar a)]
    rfl

end Tree

/-- The document that gives the settings of the web. -/
def WebSettings.toTree (w : WebSettings) : Tree :=
  .table [("enabled", .boolean w.enabled), ("timeout_seconds", .integer w.timeoutSeconds),
    ("user_agent", .text w.userAgent)]

namespace Settings

open Gleaner.Tree (stacked inForce part? eq_nil_of_stacked eq_of_parts? part?_stacked
  getLast?_of_partOr?)

/-- A text, or nothing. -/
def optionalTree : Option String → Tree
  | none => .null
  | some text => .text text

/-- The document that gives all settings. -/
def toTree (s : Settings) : Tree :=
  .table [("scrapers", .text s.scrapers), ("types", .text s.types),
    ("root", optionalTree s.root), ("import", .boolean s.importing),
    ("ask_user", .boolean s.askUser), ("inherit", .boolean s.inherit), ("http", s.web.toTree)]

/-- The keys of the settings that have no parts. -/
def plainKeys : List String := ["scrapers", "types", "root", "import", "ask_user", "inherit"]

theorem eq_of_text? (tree : Tree) (text : String) (read : text? tree = some text) :
    tree = .text text := by
  cases tree <;> cases read
  rfl

theorem eq_of_flag? (tree : Tree) (b : Bool) (read : flag? tree = some b) : tree = .boolean b := by
  cases tree <;> cases read
  rfl

theorem eq_of_optionalText? (tree : Tree) (text : Option String)
    (read : optionalText? tree = some text) : tree = optionalTree text := by
  cases tree <;> cases read <;> rfl

theorem eq_of_count? (tree : Tree) (n : Nat) (read : count? tree = some n) :
    tree = .integer n := by
  cases tree with
  | integer i =>
    obtain ⟨fits, same⟩ := Option.ite_none_right_eq_some.1 read
    cases same
    rw [Int.toNat_of_nonneg (of_decide_eq_true fits).1]
  | _ => cases read

theorem map_webKeys {α : Type} (f : String → α) :
    webKeys.map f = [f "enabled", f "timeout_seconds", f "user_agent"] := rfl

theorem map_keys {α : Type} (f : String → α) :
    keys.map f = [f "scrapers", f "types", f "root", f "import", f "ask_user", f "inherit",
      f "http"] := rfl

/-- What gives the settings of the web, of several trees laid over each other: for each setting the
last of those trees that are in force, or the defaults. -/
theorem web_of_stacked {surplus : Surplus} {defaults web : WebSettings} {trees : List Tree}
    (orderly : ∀ tree ∈ trees, tree.Orderly)
    (read : Tree.partOr? defaults (webOfTree? surplus defaults) (stacked trees) = some web) :
    ∀ key ∈ webKeys, ((defaults.toTree :: inForce trees).filterMap (part? webKeys key)).getLast? =
      web.toTree.get? key := by
  cases found : stacked trees with
  | none =>
    rw [found] at read
    cases read
    rw [eq_nil_of_stacked found]
    simp only [webKeys, List.forall_mem_cons]
    exact ⟨rfl, rfl, rfl, List.forall_mem_nil _⟩
  | some tree =>
    rw [found] at read
    obtain ⟨parts, given, read⟩ := Option.bind_eq_some_iff.1 read
    have part : ∀ key, part? webKeys key tree =
        stacked ((inForce trees).filterMap (part? webKeys key)) := by
      intro key
      have whole := part?_stacked orderly webKeys key
      rwa [found] at whole
    rw [eq_of_parts? (by decide) given, map_webKeys, part, part, part] at read
    simp only [webOfParts?, Option.bind_eq_bind, Option.bind_eq_some_iff, Option.some.injEq] at read
    obtain ⟨enabled, one, timeout, two, agent, three, rfl⟩ := read
    simp only [webKeys, List.forall_mem_cons]
    refine ⟨?_, ?_, ?_, List.forall_mem_nil _⟩
    · exact getLast?_of_partOr? eq_of_flag? (fun _ => rfl) one
    · exact getLast?_of_partOr? eq_of_count? (fun _ => rfl) two
    · exact getLast?_of_partOr? eq_of_text? (fun _ => rfl) three

/-- Settings that come from layers, of which the first is at the bottom. -/
structure Layered (defaults : Settings) (layers : List Tree) (s : Settings) : Prop where
  /-- Each of these has the value of the last layer that gives it. -/
  plain : ∀ key ∈ plainKeys,
    ((defaults.toTree :: layers).filterMap (·.get? key)).getLast? = s.toTree.get? key
  /-- So has each setting of the web, among the layers that are in force there. -/
  web : ∀ key ∈ webKeys,
    let webs := layers.filterMap (·.get? "http")
    ((defaults.web.toTree :: inForce webs).filterMap (part? webKeys key)).getLast? =
      s.web.toTree.get? key
  /-- These are all layers, if each that gives settings of the web gives a table of them. -/
  united : ∀ key ∈ webKeys, (∀ web ∈ layers.filterMap (·.get? "http"), web.isTable = true) →
    (((defaults.toTree :: layers).filterMap (·.get? "http")).filterMap (·.get? key)).getLast? =
      s.web.toTree.get? key

theorem stacked_of_mergeAll (layers : List Tree) :
    stacked (.table [] :: layers) = some (Tree.mergeAll layers) := by
  have more : ∀ bottom : Tree,
      layers.foldl (fun below tree => Tree.overlaid below (some tree)) (some bottom) =
        some (layers.foldl Tree.merge bottom) := by
    induction layers with
    | nil => exact fun _ => rfl
    | cons layer rest ih => exact fun bottom => ih (bottom.merge layer)
  exact more (.table [])

/-- Settings that are read from layers of tables are layered. -/
theorem layered_of_mergeAll {surplus : Surplus} {defaults s : Settings} {layers : List Tree}
    (orderly : ∀ layer ∈ layers, layer.Orderly) (tables : ∀ layer ∈ layers, layer.isTable = true)
    (read : ofTree? surplus defaults (Tree.mergeAll layers) = some s) :
    Layered defaults layers s := by
  have part : ∀ key, part? keys key (Tree.mergeAll layers) =
      stacked (layers.filterMap (·.get? key)) := by
    intro key
    have whole := part?_stacked (List.forall_mem_cons.2 ⟨.empty, orderly⟩) keys key
    rw [stacked_of_mergeAll, Tree.inForce_of_tables (List.forall_mem_cons.2 ⟨rfl, tables⟩)] at whole
    exact whole.trans (congrArg stacked (Tree.filterMap_part? tables keys key))
  obtain ⟨parts, given, read⟩ := Option.bind_eq_some_iff.1 read
  rw [eq_of_parts? (by decide) given, map_keys] at read
  simp only [part, ofParts?, Option.bind_eq_bind, Option.bind_eq_some_iff,
    Option.some.injEq] at read
  obtain ⟨scrapers, one, types, two, root, three, importing, four, askUser, five, inherit, six, web,
    seven, rfl⟩ := read
  have webs : ∀ tree ∈ layers.filterMap (·.get? "http"), tree.Orderly := by
    intro tree mem
    obtain ⟨layer, mem, found⟩ := List.mem_filterMap.1 mem
    exact (orderly layer mem).get? found
  have webbed := web_of_stacked webs seven
  refine ⟨?_, webbed, fun key mem all => ?_⟩
  · simp only [plainKeys, List.forall_mem_cons]
    refine ⟨?_, ?_, ?_, ?_, ?_, ?_, List.forall_mem_nil _⟩
    · exact getLast?_of_partOr? eq_of_text? (fun _ => rfl) one
    · exact getLast?_of_partOr? eq_of_text? (fun _ => rfl) two
    · exact getLast?_of_partOr? eq_of_optionalText? (fun root => by cases root <;> rfl) three
    · exact getLast?_of_partOr? eq_of_flag? (fun _ => rfl) four
    · exact getLast?_of_partOr? eq_of_flag? (fun _ => rfl) five
    · exact getLast?_of_partOr? eq_of_flag? (fun _ => rfl) six
  · have united := webbed key mem
    rw [Tree.inForce_of_tables all,
      Tree.filterMap_part? (List.forall_mem_cons.2 ⟨rfl, all⟩) webKeys key] at united
    exact united

end Settings

end Gleaner
