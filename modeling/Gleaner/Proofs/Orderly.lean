import Gleaner.Proofs.Assurance
import Gleaner.Proofs.Dict
import Gleaner.Settings.Environment
import Gleaner.Tree.Merge

set_option autoImplicit false

/-!
Trees each of whose tables has its entries in key order, none of them twice. Laying such trees over
each other keeps that, and the values of environment variables are such trees. Main statements:
`Tree.Orderly.mergeAll`, `Environment.settings_orderly`.
-/
namespace Gleaner

/-- Each table, at any depth, has its entries in key order. -/
inductive Tree.Orderly : Tree → Prop
  | null : Orderly .null
  | boolean (value : Bool) : Orderly (.boolean value)
  | integer (value : Int) : Orderly (.integer value)
  | float (value : Binary64) : Orderly (.float value)
  | text (value : String) : Orderly (.text value)
  | list {items : List Tree} (each : ∀ item ∈ items, Orderly item) : Orderly (.list items)
  | table {entries : List (String × Tree)} (sorted : Entries.Sorted entries)
      (each : ∀ e ∈ entries, Orderly e.2) : Orderly (.table entries)

namespace Tree

namespace Orderly

variable {entries : List (String × Tree)}

theorem sorted (orderly : Orderly (.table entries)) : Entries.Sorted entries := by
  cases orderly with
  | table sorted _ => exact sorted

theorem each (orderly : Orderly (.table entries)) : ∀ e ∈ entries, Orderly e.2 := by
  cases orderly with
  | table _ each => exact each

theorem empty : Orderly (.table []) := .table .nil (List.forall_mem_nil _)

theorem found (orderly : Orderly (.table entries)) {key : String} {tree : Tree}
    (found : Entries.find? key entries = some tree) : tree.Orderly :=
  orderly.each _ ((Entries.find?_eq_some_iff orderly.sorted key tree).1 found)

theorem insert (orderly : Orderly (.table entries)) (key : String) {tree : Tree}
    (new : tree.Orderly) : Orderly (.table (Entries.insert key tree entries)) := by
  refine .table (Entries.sorted_insert key tree orderly.sorted) fun e mem => ?_
  rcases Entries.mem_insert mem with rfl | mem
  · exact new
  · exact orderly.each e mem

theorem tableOf (each : ∀ e ∈ entries, Orderly e.2) : (tableOf entries).Orderly := by
  refine List.foldlRecOn (motive := fun made => Orderly (.table made)) entries _ empty ?_
  intro made orderly e mem
  exact orderly.insert e.1 (each e mem)

mutual

theorem merge {lower : Tree} : ∀ {upper : Tree}, lower.Orderly → upper.Orderly →
    (lower.merge upper).Orderly
  | .table upper, below, above => by
    cases lower with
    | table lower => exact mergeEntries upper above.each below
    | _ => exact above
  | .null, _, above | .boolean _, _, above | .integer _, _, above | .float _, _, above
  | .text _, _, above | .list _, _, above => by cases lower <;> exact above

theorem mergeEntries : ∀ (upper : List (String × Tree)) {lower : List (String × Tree)},
    (∀ e ∈ upper, e.2.Orderly) → Orderly (.table lower) →
      Orderly (.table (Tree.mergeEntries upper lower))
  | [], _, _, below => below
  | (key, tree) :: rest, lower, above, below => by
    obtain ⟨here, above⟩ := List.forall_mem_cons.1 above
    refine mergeEntries rest above (below.insert key ?_)
    cases under : Entries.find? key lower with
    | none => exact here
    | some covered => exact merge (below.found under) here

end

/-- Layers of such documents make one. -/
theorem mergeAll {layers : List Tree} (each : ∀ layer ∈ layers, layer.Orderly) :
    (mergeAll layers).Orderly :=
  List.foldlRecOn layers _ empty fun _ below layer mem => below.merge (each layer mem)

end Orderly

end Tree

namespace Assurance

/-- Programs that may fail are run where they do not. -/
def whereDone : Assurance Option where
  Ensures x P := ∀ a, x = some a → P a
  ensures_pure holds a done := by
    cases done
    exact holds
  ensures_bind first next b done := by
    obtain ⟨a, one, rest⟩ := Option.bind_eq_some_iff.1 done
    exact next a (first a one) b rest

theorem whereDone_lenient : whereDone.Lenient := fun _ _ _ => trivial

section Parts

variable {m : Type → Type} [Monad m] {α β : Type}

/-- What holds at first and is kept by each step holds in the end. -/
theorem ensures_foldlM (assurance : Assurance m) {P : β → Prop} {step : β → α → m β}
    {items : List α}
    (kept : ∀ item ∈ items, ∀ before, P before → assurance.Ensures (step before item) P)
    {start : β} (first : P start) : assurance.Ensures (items.foldlM step start) P := by
  induction items generalizing start with
  | nil => exact assurance.ensures_pure first
  | cons item rest ih =>
    obtain ⟨here, kept⟩ := List.forall_mem_cons.1 kept
    rw [List.foldlM_cons]
    exact assurance.ensures_bind (here start first) fun next holds => ih kept holds

variable [LawfulMonad m]

theorem ensures_map {assurance : Assurance m} {x : m α} {f : α → β} {P : β → Prop}
    (each : assurance.Ensures x fun a => P (f a)) : assurance.Ensures (f <$> x) P := by
  rw [map_eq_pure_bind]
  exact assurance.ensures_bind each fun a holds => assurance.ensures_pure holds

/-- What holds of the first item and is ensured of the others holds of all. -/
theorem ensures_cons {assurance : Assurance m} {P : α → Prop} {item : α} {others : m (List α)}
    (here : P item) (rest : assurance.Ensures others fun items => ∀ item ∈ items, P item) :
    assurance.Ensures ((item :: ·) <$> others) fun items => ∀ item ∈ items, P item := by
  rw [map_eq_pure_bind]
  exact assurance.ensures_bind rest fun items all =>
    assurance.ensures_pure (List.forall_mem_cons.2 ⟨here, all⟩)

end Parts

section Readers

variable {ρ α β : Type} {P : β → Prop}

/-- Nothing is asked of a step of which nothing need be known. -/
theorem after {x : StateT ρ Option α} {f : α → StateT ρ Option β}
    (next : ∀ a, (whereDone.stateful ρ).Ensures (f a) P) :
    (whereDone.stateful ρ).Ensures (x >>= f) P :=
  (whereDone.stateful ρ).ensures_bind (whereDone_lenient.stateful ρ x) fun a _ => next a

theorem after_pure {x : StateT ρ Option α} {b : β} (holds : P b) :
    (whereDone.stateful ρ).Ensures (x >>= fun _ => pure b) P :=
  after fun _ => (whereDone.stateful ρ).ensures_pure holds

theorem ensures_failure : (whereDone.stateful ρ).Ensures failure P :=
  fun _ _ done => nomatch done

theorem ensures_orElse {x y : StateT ρ Option β} (first : (whereDone.stateful ρ).Ensures x P)
    (second : (whereDone.stateful ρ).Ensures y P) :
    (whereDone.stateful ρ).Ensures (x <|> y) P := by
  intro s ran done
  cases one : x.run s with
  | none =>
    refine second s ran (Eq.trans ?_ done)
    exact (congrArg (fun found => found <|> y.run s) one).symm
  | some found =>
    refine first s ran (one.trans (Eq.trans ?_ done))
    exact (congrArg (fun found => found <|> y.run s) one).symm

end Readers

end Assurance

/-- What is said of reading a text from the front. -/
abbrev Text.reading : Assurance Text.Scan := Assurance.whereDone.stateful (List Char)

namespace Variable

open Text Assurance

theorem bare_orderly (cs : List Char) : (bare cs).Orderly := by
  unfold bare
  dsimp only
  split
  · exact .float _
  · split
    · exact .integer _
    · exact .text _

mutual

theorem value_orderly : ∀ fuel : Nat, reading.Ensures (value fuel) Tree.Orderly
  | 0 => ensures_failure
  | fuel + 1 => by
    unfold value
    refine after fun _ => ?_
    refine reading.ensures_bind (valueHere_orderly fuel) fun tree orderly => ?_
    exact after_pure orderly

theorem valueHere_orderly : ∀ fuel : Nat, reading.Ensures (valueHere fuel) Tree.Orderly
  | 0 => ensures_failure
  | fuel + 1 => by
    unfold valueHere
    refine ensures_orElse (after_pure (.boolean _)) (ensures_orElse (after_pure (.boolean _)) ?_)
    refine after fun next => ?_
    split
    · exact after fun _ => ensures_map fun s ran done =>
        .tableOf (entries_orderly fuel s ran done)
    · exact after fun _ => ensures_map fun s ran done => .list (items_orderly fuel s ran done)
    · exact ensures_map fun _ ran _ => .text ran.1
    · exact ensures_map fun _ ran _ => .text ran.1
    · exact ensures_map fun _ ran _ => bare_orderly ran.1

theorem items_orderly : ∀ fuel : Nat,
    reading.Ensures (items fuel) fun items => ∀ item ∈ items, item.Orderly
  | 0 => ensures_failure
  | fuel + 1 => by
    unfold items
    refine after fun done => ?_
    split
    · exact reading.ensures_pure (List.forall_mem_nil _)
    · refine reading.ensures_bind (value_orderly fuel) fun first here => ?_
      refine after fun more => ?_
      split
      · exact ensures_cons here (items_orderly fuel)
      · exact after_pure (List.forall_mem_singleton.2 here)

theorem entries_orderly : ∀ fuel : Nat,
    reading.Ensures (entries fuel) fun entries => ∀ e ∈ entries, e.2.Orderly
  | 0 => ensures_failure
  | fuel + 1 => by
    unfold entries
    refine after fun done => ?_
    split
    · exact reading.ensures_pure (List.forall_mem_nil _)
    · refine after fun key => after fun _ => ?_
      refine reading.ensures_bind (value_orderly fuel) fun first here => ?_
      refine after fun more => ?_
      split
      · exact ensures_cons here (entries_orderly fuel)
      · exact after_pure (List.forall_mem_singleton.2 here)

end

theorem read_orderly (text : String) : (read text).Orderly := by
  unfold read Scan.whole?
  split
  · next tree found => exact value_orderly _ _ _ found
  · exact .text text

end Variable

namespace Environment

theorem nest_orderly {value : Tree} (orderly : value.Orderly) (keys : List String) :
    (nest value keys).Orderly := by
  induction keys with
  | nil => exact orderly
  | cons key keys ih =>
    exact .table (List.pairwise_singleton _ _) (List.forall_mem_singleton.2 ih)

/-- All that the environment sets is one orderly table. -/
theorem settings_orderly (environment : Environment) : environment.settings.Orderly := by
  refine .mergeAll fun layer mem => ?_
  obtain ⟨entry, -, set⟩ := List.mem_filterMap.1 mem
  obtain ⟨path, -, rfl⟩ := Option.map_eq_some_iff.1 set
  exact nest_orderly (Variable.read_orderly entry.2) path

end Environment

end Gleaner
