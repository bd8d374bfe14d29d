import Gleaner.Catalog
import Gleaner.Proofs.Assurance
import Gleaner.Proofs.Dict
import Gleaner.Proofs.Preparation

set_option autoImplicit false

/-!
Which scraper of a catalog is chosen for a location: of those that recognise it the one with the
least name. Scrapers that do not recognise it, or that come later, do not count. Main statements:
`Catalog.Built.of_load`, `Catalog.chosen_or_refuses`, `Catalog.Bystander.sameChoice`.
-/
namespace Gleaner

/-- The definition can be prepared, and its name pattern matches the location. -/
def Definition.Recognises (d : Definition) (defaultsOf : String → Option Details)
    (location : String) : Prop :=
  ∃ fileName defaults, d.Accepted defaultsOf fileName defaults ∧
    (fileName.first? location).isSome = true

namespace Definition

/-- Whether a definition recognises a location, found out by preparing it. -/
def recognises (d : Definition) (defaultsOf : String → Option Details) (location : String) : Bool :=
  match Scraper.examine d defaultsOf with
  | .ok prepared => (prepared.1.first? location).isSome
  | .error _ => false

theorem recognises_iff (d : Definition) (defaultsOf : String → Option Details)
    (location : String) :
    d.recognises defaultsOf location = true ↔ d.Recognises defaultsOf location := by
  unfold recognises
  cases examined : Scraper.examine d defaultsOf with
  | error e =>
    refine iff_of_false nofun ?_
    rintro ⟨fileName, defaults, accepted, -⟩
    rw [(Scraper.examine_eq_ok_iff d defaultsOf fileName defaults).2 accepted] at examined
    cases examined
  | ok prepared =>
    have accepted := (Scraper.examine_eq_ok_iff d defaultsOf prepared.1 prepared.2).1 examined
    refine ⟨fun matched => ⟨_, _, accepted, matched⟩, ?_⟩
    rintro ⟨fileName, defaults, accepted, matched⟩
    rw [(Scraper.examine_eq_ok_iff d defaultsOf fileName defaults).2 accepted] at examined
    cases examined
    exact matched

instance (d : Definition) (defaultsOf : String → Option Details) (location : String) :
    Decidable (d.Recognises defaultsOf location) :=
  decidable_of_iff _ (d.recognises_iff defaultsOf location)

end Definition

namespace Catalog

/-- Catalogs come about by adding to the empty one. -/
inductive Built : Catalog → Prop
  | empty : Built {}
  | addType {c grown : Catalog} {t : MediaType} (built : Built c)
      (added : c.addType t = .ok grown) : Built grown
  | addScraper {c grown : Catalog} {d : Definition} (built : Built c)
      (added : c.addScraper d = .ok grown) : Built grown

/-- Definitions stand under their names. -/
def Named (c : Catalog) : Prop :=
  ∀ e ∈ c.scrapers.entries, e.1 = e.2.name

/-- The catalog with the scraper of a name taken out of it. -/
def without (c : Catalog) (name : String) : Catalog :=
  { c with scrapers := c.scrapers.erase name }

variable {c grown : Catalog} {d e : Definition}

theorem defaults?_congr {c' : Catalog} (types : c.types = c'.types) :
    c'.defaults? = c.defaults? :=
  funext fun name => congrArg (Dict.find? · name) types.symm

theorem addType_scrapers {t : MediaType} (added : c.addType t = .ok grown) :
    grown.scrapers = c.scrapers := by
  unfold addType at added
  split at added
  · cases added
  · cases added
    rfl

theorem addScraper_eq_ok (added : c.addScraper d = .ok grown) :
    c.scraper? d.name = none ∧ grown = { c with scrapers := c.scrapers.insert d.name d } := by
  unfold addScraper at added
  split at added
  · cases added
  · next fresh =>
    cases added
    exact ⟨Option.not_isSome_iff_eq_none.1 fresh, rfl⟩

theorem Named.added (named : c.Named) (added : c.addScraper e = .ok grown) : grown.Named := by
  obtain ⟨-, rfl⟩ := addScraper_eq_ok added
  intro entry mem
  cases Entries.mem_insert mem with
  | inl new => rw [new]
  | inr old => exact named entry old

theorem Named.without (named : c.Named) (name : String) : (c.without name).Named :=
  fun entry mem => named entry (List.mem_filter.1 mem).1

namespace Built

theorem named (built : c.Built) : c.Named := by
  induction built with
  | empty => exact List.forall_mem_nil _
  | addType built added ih =>
    rw [Named, addType_scrapers added]
    exact ih
  | addScraper built added ih => exact ih.added added

section Load

variable {m : Type → Type} [Monad m] {assurance : Assurance m} (lenient : assurance.Lenient)
  {α : Type} {decode? : Tree → Option α} {add : Catalog → α → Except LoadError Catalog}

include lenient

theorem of_addAll
    (grows : ∀ {c grown : Catalog} {a : α}, c.Built → add c a = .ok grown → grown.Built)
    (store : FileStore m) (paths : List String) (built : c.Built) :
    assurance.Ensures (addAll store decode? add paths c) fun loaded =>
      ∀ grown, loaded = .ok grown → grown.Built := by
  induction paths generalizing c with
  | nil =>
    refine assurance.ensures_pure fun grown loaded => ?_
    cases loaded
    exact built
  | cons path paths ih =>
    refine assurance.ensures_bind (lenient _) fun read _ => ?_
    cases read with
    | error e => exact assurance.ensures_pure fun grown loaded => nomatch loaded
    | ok a =>
      simp only [Except.bind]
      split
      · next grown added => exact ih (grows built added)
      · exact assurance.ensures_pure fun grown loaded => nomatch loaded

theorem of_addFrom
    (grows : ∀ {c grown : Catalog} {a : α}, c.Built → add c a = .ok grown → grown.Built)
    (store : FileStore m) (directory : String) (built : c.Built) :
    assurance.Ensures (addFrom store decode? add directory c) fun loaded =>
      ∀ grown, loaded = .ok grown → grown.Built := by
  refine assurance.ensures_bind (lenient _) fun listed _ => ?_
  cases listed with
  | ok paths => exact of_addAll lenient grows store paths built
  | error e => exact assurance.ensures_pure fun grown loaded => nomatch loaded

/-- What is loaded is built. -/
theorem of_load (store : FileStore m) (types scrapers : String) :
    assurance.Ensures (load store types scrapers) fun loaded =>
      ∀ c, loaded = .ok c → c.Built := by
  refine assurance.ensures_bind (of_addFrom lenient addType store types empty) fun loaded built => ?_
  cases loaded with
  | ok c => exact of_addFrom lenient addScraper store scrapers (built c rfl)
  | error e => exact assurance.ensures_pure fun grown loaded => nomatch loaded

end Load

end Built

/-- What a catalog lists is what it has under its names. -/
theorem Named.mem_definitions_iff (named : c.Named) (d : Definition) :
    d ∈ c.definitions ↔ c.scraper? d.name = some d := by
  rw [scraper?, Dict.find?_eq_some_iff]
  constructor
  · intro listed
    obtain ⟨e, mem, same⟩ := List.mem_map.1 listed
    rw [← same, ← named e mem]
    exact mem
  · intro mem
    exact List.mem_map.2 ⟨(d.name, d), mem, rfl⟩

/-- Definitions are listed in the order of their names. -/
theorem Named.sorted (named : c.Named) :
    c.definitions.Pairwise fun d e => d.name < e.name := by
  refine List.pairwise_map.2 (c.scrapers.sorted.imp_of_mem fun here there less => ?_)
  rwa [← named _ here, ← named _ there]

theorem Named.eq_of_name_eq (named : c.Named) (here : d ∈ c.definitions)
    (there : e ∈ c.definitions) (same : d.name = e.name) : d = e := by
  rw [named.mem_definitions_iff] at here there
  rw [same] at here
  exact Option.some.inj (here.symm.trans there)

theorem Named.mem_definitions_added_iff (named : c.Named) (added : c.addScraper e = .ok grown)
    (d : Definition) : d ∈ grown.definitions ↔ d = e ∨ d ∈ c.definitions := by
  have named' := named.added added
  obtain ⟨fresh, rfl⟩ := addScraper_eq_ok added
  rw [named'.mem_definitions_iff, named.mem_definitions_iff, scraper?, Dict.find?_insert]
  by_cases same : e.name = d.name
  · rw [if_pos same, ← same, fresh, Option.some_inj]
    exact ⟨fun equal => .inl equal.symm, fun equal => (equal.resolve_right nofun).symm⟩
  · rw [if_neg same]
    exact ⟨.inr, fun listed => listed.resolve_left fun equal => same (equal ▸ rfl)⟩

theorem Named.mem_definitions_without_iff (named : c.Named) (name : String) (d : Definition) :
    d ∈ (c.without name).definitions ↔ name ≠ d.name ∧ d ∈ c.definitions := by
  rw [(named.without name).mem_definitions_iff, named.mem_definitions_iff, scraper?, Catalog.without,
    Dict.find?_erase]
  by_cases same : name = d.name
  · rw [if_pos same]
    exact iff_of_false nofun fun listed => listed.1 same
  · rw [if_neg same]
    exact (and_iff_right same).symm

/-- The scraper that is chosen for a location: among those that recognise it none has a lesser
name. -/
structure Chosen (c : Catalog) (location : String) (d : Definition) : Prop where
  listed : d ∈ c.definitions
  recognises : d.Recognises c.defaults? location
  least : ∀ e ∈ c.definitions, e.Recognises c.defaults? location → d.name ≤ e.name

/-- No scraper of the catalog recognises the location. -/
def Refuses (c : Catalog) (location : String) : Prop :=
  ∀ d ∈ c.definitions, ¬d.Recognises c.defaults? location

/-- The scraper cannot be prepared, or does not match the location, or comes after the one that is
chosen for it. -/
def Bystander (c : Catalog) (location : String) (e : Definition) : Prop :=
  ¬e.Recognises c.defaults? location ∨ ∃ d, c.Chosen location d ∧ d.name < e.name

variable {location : String}

theorem le_of_name_lt {name other : String} (less : name < other) : name ≤ other :=
  String.not_lt.1 fun back => String.lt_irrefl name (String.lt_trans less back)

/-- In the order of their names, the first definition with a property is the least. -/
theorem exists_least_or_none (P : Definition → Prop) {ds : List Definition}
    (sorted : ds.Pairwise fun d e => d.name < e.name) :
    (∃ d ∈ ds, P d ∧ ∀ e ∈ ds, P e → d.name ≤ e.name) ∨ ∀ d ∈ ds, ¬P d := by
  induction ds with
  | nil => exact .inr (List.forall_mem_nil _)
  | cons d ds ih =>
    obtain ⟨below, sorted⟩ := List.pairwise_cons.1 sorted
    by_cases here : P d
    · refine .inl ⟨d, .head _, here, List.forall_mem_cons.2 ⟨fun _ => String.le_refl _, ?_⟩⟩
      exact fun e mem _ => le_of_name_lt (below e mem)
    · cases ih sorted with
      | inl found =>
        obtain ⟨least, mem, holds, least_le⟩ := found
        refine .inl ⟨least, .tail _ mem, holds, List.forall_mem_cons.2 ⟨?_, least_le⟩⟩
        exact fun holds => absurd holds here
      | inr none => exact .inr (List.forall_mem_cons.2 ⟨here, none⟩)

theorem chosen_or_refuses (named : c.Named) (location : String) :
    (∃ d, c.Chosen location d) ∨ c.Refuses location := by
  refine (exists_least_or_none (Definition.Recognises · c.defaults? location) named.sorted).imp
    (fun found => ?_) id
  obtain ⟨d, listed, recognises, least⟩ := found
  exact ⟨d, listed, recognises, least⟩

theorem Chosen.eq (named : c.Named) (chosen : c.Chosen location d) (other : c.Chosen location e) :
    d = e :=
  named.eq_of_name_eq chosen.listed other.listed <| String.le_antisymm
    (chosen.least e other.listed other.recognises) (other.least d chosen.listed chosen.recognises)

/-- The definitions before the one that is chosen do not recognise the location. -/
theorem Chosen.split (named : c.Named) (chosen : c.Chosen location d) :
    ∃ before after, c.definitions = before ++ d :: after ∧
      ∀ e ∈ before, ¬e.Recognises c.defaults? location := by
  obtain ⟨before, after, parts⟩ := List.append_of_mem chosen.listed
  refine ⟨before, after, parts, fun e mem recognises => ?_⟩
  have sorted := named.sorted
  rw [parts] at sorted
  have less : e.name < d.name := (List.pairwise_append.1 sorted).2.2 e mem d (.head _)
  have listed : e ∈ c.definitions := parts ▸ List.mem_append_left _ mem
  exact String.not_lt.2 (chosen.least e listed recognises) less

/-- Two catalogs of the same types choose the same scraper for a location, or neither has one. -/
structure SameChoice (location : String) (c c' : Catalog) : Prop where
  types : c.types = c'.types
  choice : (∃ d, c.Chosen location d ∧ c'.Chosen location d) ∨
    (c.Refuses location ∧ c'.Refuses location)

namespace Bystander

variable (named : c.Named) (bystander : c.Bystander location e)

include named bystander

/-- A bystander that recognises the location comes after the one that is chosen. -/
theorem lt_of_recognises (chosen : c.Chosen location d)
    (recognises : e.Recognises c.defaults? location) : d.name < e.name := by
  obtain ⟨other, first, less⟩ := bystander.resolve_left (not_not_intro recognises)
  rwa [chosen.eq named first]

/-- It makes no difference to the choice whether a bystander is in the catalog. -/
theorem sameChoice {c' : Catalog} (types : c.types = c'.types)
    (apart : ∀ f, f ≠ e → (f ∈ c'.definitions ↔ f ∈ c.definitions)) :
    SameChoice location c c' := by
  have known : c'.defaults? = c.defaults? := defaults?_congr types
  refine ⟨types, ?_⟩
  cases chosen_or_refuses named location with
  | inl found =>
    obtain ⟨d, chosen⟩ := found
    have other : d ≠ e := by
      rintro rfl
      have less := lt_of_recognises named bystander chosen chosen.recognises
      exact String.lt_irrefl d.name less
    refine .inl ⟨d, chosen, (apart d other).2 chosen.listed, known ▸ chosen.recognises, ?_⟩
    -- It stays the least: all but the bystander are in both catalogs, and that one comes after it.
    intro f listed recognises
    rw [known] at recognises
    by_cases new : f = e
    · subst new
      exact le_of_name_lt (lt_of_recognises named bystander chosen recognises)
    · exact chosen.least f ((apart f new).1 listed) recognises
  | inr refuses =>
    refine .inr ⟨refuses, fun f listed recognises => ?_⟩
    rw [known] at recognises
    by_cases new : f = e
    · subst new
      obtain ⟨first, chosen, -⟩ := bystander.resolve_left (not_not_intro recognises)
      exact refuses first chosen.listed chosen.recognises
    · exact refuses f ((apart f new).1 listed) recognises

theorem sameChoice_added (added : c.addScraper e = .ok grown) : SameChoice location c grown := by
  refine sameChoice named bystander ?_ fun f other => ?_
  · obtain ⟨-, rfl⟩ := addScraper_eq_ok added
    rfl
  · rw [named.mem_definitions_added_iff added]
    exact or_iff_right other

theorem sameChoice_without (listed : e ∈ c.definitions) :
    SameChoice location c (c.without e.name) := by
  refine sameChoice named bystander rfl fun f other => ?_
  rw [named.mem_definitions_without_iff, and_iff_right_iff_imp]
  exact fun there same => other (named.eq_of_name_eq there listed same.symm)

end Bystander

end Catalog

end Gleaner
