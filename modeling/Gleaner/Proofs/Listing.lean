import Gleaner.Catalog
import Mathlib.Data.List.Lex
import Mathlib.Data.Option.Basic
import Mathlib.Data.Prod.Lex
import Mathlib.Data.String.Basic

set_option autoImplicit false

/-!
Directories list their entries in any order, and nothing that is loaded depends on it: the documents
of a directory are read in the order of their paths, and different entries have different places in
it. Main statement: `Catalog.load_reordered`.
-/
namespace Gleaner

namespace Path

/-- What can be the name of an entry: one step of a path. -/
structure Name where
  text : String
  entry : component? text = some (.entry text)
  plain : '/' ∉ text.toList

theorem Name.ext {name other : Name} (same : name.text = other.text) : name = other := by
  cases name
  cases other
  cases same
  rfl

theorem stretches_text (name : Name) : stretches name.text = [name.text] := by
  have plain : ∀ c ∈ name.text.toList, (c == '/') = false := fun c mem =>
    beq_eq_false_iff_ne.2 fun same => name.plain (same ▸ mem)
  rw [stretches, Text.split, Text.splitChars_of_none plain, List.map_singleton,
    String.ofList_toList]

/-- What is behind a slash in a path is a stretch of its own. -/
theorem stretches_append {before : String} {rest : List Char} (ends : before.toList = rest ++ ['/'])
    (name : Name) : ∃ parts, stretches (before ++ name.text) = parts ++ [name.text] := by
  refine ⟨(Text.splitChars (· == '/') rest).map String.ofList, ?_⟩
  have chars : (before ++ name.text).toList = rest ++ '/' :: name.text.toList := by
    rw [String.toList_append, ends, List.append_assoc]
    rfl
  have last := stretches_text name
  unfold stretches Text.split at last ⊢
  rw [chars, Text.splitChars_append rfl, List.map_append, last]

theorem isAbsolute_text (name : Name) : isAbsolute name.text = false := by
  have absolute : isAbsolute name.text = "/".toList.isPrefixOf name.text.toList := rfl
  rw [absolute, Bool.eq_false_iff]
  intro starts
  exact name.plain ((List.isPrefixOf_iff_prefix.1 starts).subset (List.mem_singleton.2 rfl))

theorem stretches_join (directory : String) (name : Name) :
    ∃ parts, stretches (join directory name.text) = parts ++ [name.text] := by
  rw [join, isAbsolute_text, if_neg Bool.false_ne_true]
  split
  · next bare =>
    rcases Bool.or_eq_true_iff.1 bare with empty | ends
    · rw [String.isEmpty_iff.1 empty, String.empty_append]
      exact ⟨[], stretches_text name⟩
    · obtain ⟨rest, same⟩ := List.isSuffixOf_iff_suffix.1 ends
      exact stretches_append same.symm name
  · exact stretches_append String.toList_append name

/-- The path to an entry ends in its name. -/
theorem getLast?_components_join (directory : String) (name : Name) :
    (components (join directory name.text)).getLast? = some (.entry name.text) := by
  obtain ⟨parts, same⟩ := stretches_join directory name
  simp only [components, same, List.filterMap_append, List.filterMap_cons, name.entry,
    List.filterMap_nil]
  rw [← List.append_assoc, List.getLast?_concat]

theorem components_join_injective (directory : String) {name other : Name}
    (same : components (join directory name.text) = components (join directory other.text)) :
    name = other := by
  have last := getLast?_components_join directory name
  rw [same, getLast?_components_join] at last
  exact Name.ext (Component.entry.inj (Option.some.inj last)).symm

/-- The place of a step in the order of paths: its rank, then its name. -/
def Component.place : Component → Nat ×ₗ String
  | .entry name => toLex (3, name)
  | step => toLex (rank step, "")

theorem Component.place_lt_iff (name other : String) :
    place (.entry name) < place (.entry other) ↔ name < other := by
  simp [place, Prod.Lex.toLex_lt_toLex]

theorem Component.place_lt_iff_rank {step other : Component}
    (apart : ∀ name name', step = .entry name → other = .entry name' → False) :
    step.place < other.place ↔ rank step < rank other := by
  cases step <;> cases other <;> simp_all [place, rank, Prod.Lex.toLex_lt_toLex]

theorem Component.place_injective : Function.Injective Component.place := by
  intro step other same
  cases step <;> cases other <;> simp_all [place, rank]

/-- Paths compare as the lists of the places of their steps do. -/
theorem lessComponents_eq (steps others : List Component) :
    lessComponents steps others =
      decide (steps.map Component.place < others.map Component.place) := by
  fun_induction lessComponents steps others with
  | case1 steps => simp
  | case2 step steps => simp
  | case3 name steps name' others ih =>
    simp only [List.map_cons, List.cons_lt_cons_iff, Component.place_lt_iff, ih,
      Component.place_injective.eq_iff, Component.entry.injEq, Bool.decide_or, Bool.decide_and,
      beq_eq_decide]
  | case4 step steps other others apart ih =>
    simp only [List.map_cons, List.cons_lt_cons_iff, Component.place_lt_iff_rank apart, ih,
      Component.place_injective.eq_iff, Bool.decide_or, Bool.decide_and, beq_eq_decide]

/-- The place of a path in the order of paths. -/
def place (path : String) : List (Nat ×ₗ String) := (components path).map Component.place

theorem not_less_eq (path other : String) :
    (!less other path) = decide (place path ≤ place other) := by
  rw [less, lessComponents_eq, ← decide_not]
  exact decide_eq_decide.2 not_lt

/-- Different entries of a directory have different places. -/
theorem place_join_injective (directory : String) :
    Function.Injective fun name : Name => place (join directory name.text) := fun _ _ same =>
  components_join_injective directory (Component.place_injective.list_map same)

end Path

/-- Sorted by their paths, the entries of a directory come in an order that does not depend on the
one that they are given in. -/
theorem Path.mergeSort_join_perm (directory : String) {names names' : List Name}
    (reordered : names.Perm names') (kept : String → Bool) :
    let paths := fun names : List Name =>
      ((names.map fun name => join directory name.text).filter kept).mergeSort
        fun path other => !less other path
    paths names = paths names' := by
  intro paths
  have sorted : ∀ names, (paths names).Pairwise fun path other => place path ≤ place other := by
    intro names
    refine (List.pairwise_mergeSort ?_ ?_ _).imp fun {path other} ordered => ?_
    · intro path between other first second
      rw [not_less_eq, decide_eq_true_eq] at first second ⊢
      exact first.trans second
    · intro path other
      simp only [not_less_eq, Bool.or_eq_true, decide_eq_true_eq]
      exact le_total _ _
    · rwa [not_less_eq, decide_eq_true_eq] at ordered
  have entry : ∀ names, ∀ path ∈ paths names, ∃ name : Name, path = join directory name.text := by
    intro names path mem
    obtain ⟨name, -, same⟩ := List.mem_map.1 (List.mem_filter.1 (List.mem_mergeSort.1 mem)).1
    exact ⟨name, same.symm⟩
  have same : (paths names).Perm (paths names') :=
    (List.mergeSort_perm _ _).trans
      (((reordered.map _).filter _).trans (List.mergeSort_perm _ _).symm)
  refine same.eq_of_pairwise (fun path other here there below above => ?_) (sorted names)
    (sorted names')
  obtain ⟨name, rfl⟩ := entry names path here
  obtain ⟨name', rfl⟩ := entry names' other there
  rw [place_join_injective directory (le_antisymm below above)]

/-- Files that stay as they are while documents are loaded. -/
structure Files where
  read : String → Except FileFault (List UInt8)
  isFile : String → Bool
  isDirectory : String → Bool

variable {m : Type → Type} [Monad m]

/-- Gives access to files, where `listing` has the names in a directory in some order. -/
def Files.store (files : Files) (listing : String → Option (List Path.Name)) : FileStore m where
  read path := pure (files.read path)
  isFile path := pure (files.isFile path)
  isDirectory path := pure (files.isDirectory path)
  names? directory := pure ((listing directory).map fun names => names.map Path.Name.text)

variable [LawfulMonad m] (files : Files) {listing listing' : String → Option (List Path.Name)}

theorem Document.documents_store (paths : List String) :
    documents (files.store listing : FileStore m) paths =
      pure (paths.filter fun path =>
        files.isFile path && (DocumentFormat.ofPath? path).isSome) := by
  induction paths with
  | nil => rfl
  | cons path paths ih =>
    have asked : (files.store listing : FileStore m).isFile path = pure (files.isFile path) := rfl
    simp only [documents, asked, ih, pure_bind, List.filter_cons]

theorem Document.list_reordered {directory : String}
    (reordered : Option.Rel List.Perm (listing directory) (listing' directory)) :
    list (files.store listing : FileStore m) directory = list (files.store listing') directory := by
  have listed : ∀ listing, (files.store listing : FileStore m).names? directory =
      pure ((listing directory).map fun names => names.map Path.Name.text) := fun _ => rfl
  unfold list
  rw [listed, listed, pure_bind, pure_bind]
  cases here : listing directory <;> cases there : listing' directory <;>
    rw [here, there] at reordered <;> cases reordered
  · rfl
  · next names names' same =>
    simp only [Option.map_some, documents_store, pure_bind, List.map_map]
    exact congrArg (fun paths => pure (Except.ok paths))
      (Path.mergeSort_join_perm directory same _)

namespace Catalog

variable {α : Type} {decode? : Tree → Option α} {add : Catalog → α → Except LoadError Catalog}

omit [LawfulMonad m] in
theorem addAll_reordered (paths : List String) (c : Catalog) :
    addAll (files.store listing : FileStore m) decode? add paths c =
      addAll (files.store listing') decode? add paths c := by
  induction paths generalizing c with
  | nil => rfl
  | cons path paths ih =>
    have read : Document.load (files.store listing : FileStore m) decode? path =
        Document.load (files.store listing') decode? path := rfl
    rw [addAll, addAll, read]
    refine bind_congr fun loaded => ?_
    cases loaded.bind (add c) with
    | error e => rfl
    | ok grown => exact ih grown

theorem addFrom_reordered {directory : String}
    (reordered : Option.Rel List.Perm (listing directory) (listing' directory)) (c : Catalog) :
    addFrom (files.store listing : FileStore m) decode? add directory c =
      addFrom (files.store listing') decode? add directory c := by
  rw [addFrom, addFrom, Document.list_reordered files reordered]
  refine bind_congr fun listed => ?_
  cases listed with
  | error e => rfl
  | ok paths => exact addAll_reordered files paths c

/-- What is loaded, and the error if nothing is, does not depend on the order in which directories
list their entries. -/
theorem load_reordered {types scrapers : String}
    (typesReordered : Option.Rel List.Perm (listing types) (listing' types))
    (scrapersReordered : Option.Rel List.Perm (listing scrapers) (listing' scrapers)) :
    load (files.store listing : FileStore m) types scrapers =
      load (files.store listing') types scrapers := by
  rw [load, load, addFrom_reordered files typesReordered]
  refine bind_congr fun loaded => ?_
  cases loaded with
  | error e => rfl
  | ok c => exact addFrom_reordered files scrapersReordered c

end Catalog

end Gleaner
