import Gleaner.Proofs.ByteOrder
import Gleaner.Proofs.Choosing
import Gleaner.Proofs.Listing
import Mathlib.Data.List.Nodup

set_option autoImplicit false

/-!
A catalog is what was added to it, the first document of each name. It does not depend on the order
of documents that have different names, nor on that of the entries of directories. Main statement:
`Catalog.first_wins`.
-/
namespace Gleaner

/-- A document that is added to a catalog. -/
inductive Addition where
  | type (t : MediaType)
  | scraper (d : Definition)

namespace Addition

inductive Kind where
  | type
  | scraper
  deriving DecidableEq

/-- The kind and the name of a document. -/
def key : Addition → Kind × String
  | type t => (.type, t.name)
  | scraper d => (.scraper, d.name)

/-- The error when there is a document of that kind and name already. -/
def duplicate : Addition → LoadError
  | type t => .duplicateType t.name
  | scraper d => .duplicateScraper d.name

/-- The scraper of the given name, if that is what is added. -/
def scraper? (name : String) : Addition → Option Definition
  | scraper d => if d.name = name then some d else none
  | type _ => none

/-- The defaults of the media type of the given name, if that is what is added. -/
def defaults? (name : String) : Addition → Option Details
  | type t => if t.name = name then some t.defaults else none
  | scraper _ => none

theorem key_of_scraper? {a : Addition} {name : String} {d : Definition}
    (found : a.scraper? name = some d) : a.key = (.scraper, name) := by
  cases a with
  | type t => cases found
  | scraper other => rw [key, (Option.ite_none_right_eq_some.1 found).1]

theorem key_of_defaults? {a : Addition} {name : String} {defaults : Details}
    (found : a.defaults? name = some defaults) : a.key = (.type, name) := by
  cases a with
  | type t => rw [key, (Option.ite_none_right_eq_some.1 found).1]
  | scraper d => cases found

theorem duplicate_kind (a : Addition) : a.duplicate.kind = .invalidDocument := by
  cases a <;> rfl

end Addition

namespace Catalog

def add (c : Catalog) : Addition → Except LoadError Catalog
  | .type t => c.addType t
  | .scraper d => c.addScraper d

/-- The catalog after an addition was tried. -/
def attempt (c : Catalog) (a : Addition) : Catalog :=
  match c.add a with
  | .ok grown => grown
  | .error _ => c

/-- The catalog after additions were tried, one after the other. -/
def attemptAll (c : Catalog) (history : List Addition) : Catalog :=
  history.foldl attempt c

/-- Those of the additions that succeed. -/
def accepted (c : Catalog) : List Addition → List Addition
  | [] => []
  | a :: rest =>
      match c.add a with
      | .ok grown => a :: accepted grown rest
      | .error _ => accepted c rest

/-- There is a document of a kind and name. -/
def Holds (c : Catalog) : Addition.Kind × String → Prop
  | (.type, name) => c.types.contains name = true
  | (.scraper, name) => c.scrapers.contains name = true

/-- The names of a kind that were accepted, each once, in the order of their bytes. -/
structure Lists (kind : Addition.Kind) (added : List Addition) (names : List String) : Prop where
  increasing : names.Pairwise fun name other => Text.bytes name < Text.bytes other
  mem_iff : ∀ name, name ∈ names ↔ ∃ a ∈ added, a.key = (kind, name)

/-- A catalog after additions were tried: it holds those that were accepted, and accepts no second
document of a name. -/
structure Lawful (history : List Addition) : Prop where
  refuses : ∀ a, (∃ e, (attemptAll {} history).add a = .error e) ↔
    ∃ b ∈ accepted {} history, b.key = a.key
  unchanged : ∀ a e, (attemptAll {} history).add a = .error e →
    e = a.duplicate ∧ e.kind = .invalidDocument ∧
      attemptAll {} (history ++ [a]) = attemptAll {} history
  scraperNames : Lists .scraper (accepted {} history)
    ((attemptAll {} history).definitions.map Definition.name)
  typeNames : Lists .type (accepted {} history) (attemptAll {} history).typeNames
  scraper? : ∀ name, (attemptAll {} history).scraper? name =
    (accepted {} history).findSome? (Addition.scraper? name)
  defaults? : ∀ name, (attemptAll {} history).defaults? name =
    (accepted {} history).findSome? (Addition.defaults? name)
  scraperKept : ∀ more name d, (attemptAll {} history).scraper? name = some d →
    (attemptAll {} (history ++ more)).scraper? name = some d
  defaultsKept : ∀ more name defaults, (attemptAll {} history).defaults? name = some defaults →
    (attemptAll {} (history ++ more)).defaults? name = some defaults

variable {c grown : Catalog} {a : Addition}

/-- What an addition that succeeds makes of a catalog. -/
structure Grown (c : Catalog) (a : Addition) (grown : Catalog) : Prop where
  fresh : ¬c.Holds a.key
  holds_iff : ∀ key, grown.Holds key ↔ c.Holds key ∨ a.key = key
  scraper? : ∀ name, grown.scraper? name = (c.scraper? name).or (a.scraper? name)
  defaults? : ∀ name, grown.defaults? name = (c.defaults? name).or (a.defaults? name)

theorem grown_of_add (added : c.add a = .ok grown) : c.Grown a grown := by
  cases a with
  | type t =>
    simp only [add, addType] at added
    split at added
    · cases added
    · next fresh =>
      cases added
      refine ⟨fresh, ?_, fun name => Option.or_none.symm, fun name => ?_⟩
      · rintro ⟨kind, name⟩
        cases kind <;> simp [Holds, Addition.key, Dict.contains_insert, or_comm]
      · exact Dict.find?_insert_of_missing (Bool.eq_false_iff.2 fresh) t.defaults name
  | scraper d =>
    simp only [add, addScraper] at added
    split at added
    · cases added
    · next fresh =>
      cases added
      refine ⟨fresh, ?_, fun name => ?_, fun name => Option.or_none.symm⟩
      · rintro ⟨kind, name⟩
        cases kind <;> simp [Holds, Addition.key, Dict.contains_insert, or_comm]
      · exact Dict.find?_insert_of_missing (Bool.eq_false_iff.2 fresh) d name

theorem add_eq_error_iff {e : LoadError} :
    c.add a = .error e ↔ c.Holds a.key ∧ e = a.duplicate := by
  cases a with
  | type t =>
    simp only [add, addType, Addition.key, Holds, Addition.duplicate]
    split
    · next held => simp [held, eq_comm]
    · next fresh => simp [fresh]
  | scraper d =>
    simp only [add, addScraper, Addition.key, Holds, Addition.duplicate]
    split
    · next held => simp [held, eq_comm]
    · next fresh => simp [fresh]

theorem attemptAll_cons_of_ok (added : c.add a = .ok grown) (rest : List Addition) :
    c.attemptAll (a :: rest) = grown.attemptAll rest := by
  rw [attemptAll, List.foldl_cons, attempt, added]
  rfl

theorem attemptAll_cons_of_error {e : LoadError} (refused : c.add a = .error e)
    (rest : List Addition) : c.attemptAll (a :: rest) = c.attemptAll rest := by
  rw [attemptAll, List.foldl_cons, attempt, refused]
  rfl

theorem attemptAll_append (c : Catalog) (history more : List Addition) :
    c.attemptAll (history ++ more) = (c.attemptAll history).attemptAll more :=
  List.foldl_append

/-- What a catalog holds after additions are what it held and what was accepted. -/
structure Held (c : Catalog) (added : List Addition) (after : Catalog) : Prop where
  holds_iff : ∀ key, after.Holds key ↔ c.Holds key ∨ ∃ a ∈ added, a.key = key
  scraper? : ∀ name,
    after.scraper? name = (c.scraper? name).or (added.findSome? (Addition.scraper? name))
  defaults? : ∀ name,
    after.defaults? name = (c.defaults? name).or (added.findSome? (Addition.defaults? name))

theorem held_of_accepted (c : Catalog) (history : List Addition) :
    c.Held (c.accepted history) (c.attemptAll history) := by
  induction history generalizing c with
  | nil => exact ⟨by simp [accepted, attemptAll], fun _ => Option.or_none.symm, fun _ =>
      Option.or_none.symm⟩
  | cons a rest ih =>
    cases added : c.add a with
    | error e =>
      rw [attemptAll_cons_of_error added, accepted, added]
      exact ih c
    | ok grown =>
      rw [attemptAll_cons_of_ok added, accepted, added]
      have first := grown_of_add added
      have others := ih grown
      refine ⟨fun key => ?_, fun name => ?_, fun name => ?_⟩
      · rw [others.holds_iff, first.holds_iff, List.exists_mem_cons_iff, or_assoc]
      · rw [others.scraper?, first.scraper?, Option.or_assoc, List.findSome?_cons]
        cases a.scraper? name <;> rfl
      · rw [others.defaults?, first.defaults?, Option.or_assoc, List.findSome?_cons]
        cases a.defaults? name <;> rfl

theorem built_attempt (built : c.Built) (a : Addition) : (c.attempt a).Built := by
  unfold attempt
  split
  · next grown added =>
    cases a with
    | type t => exact built.addType added
    | scraper d => exact built.addScraper added
  · exact built

theorem built_attemptAll (built : c.Built) (history : List Addition) :
    (c.attemptAll history).Built := by
  induction history generalizing c with
  | nil => exact built
  | cons a rest ih => exact ih (built_attempt built a)

theorem not_holds_empty (key : Addition.Kind × String) : ¬Holds {} key := by
  obtain ⟨kind, name⟩ := key
  cases kind <;> exact Bool.false_ne_true

/-- Definitions stand under their names, so that the names that are listed are the keys. -/
theorem Named.names_eq (named : c.Named) :
    c.definitions.map Definition.name = c.scrapers.keys := by
  rw [definitions, Dict.values, Dict.keys, List.map_map]
  exact List.map_congr_left fun e mem => (named e mem).symm

theorem lists_of_keys {α : Type} {d : Dict α} {kind : Addition.Kind} {added : List Addition}
    (held : ∀ name, d.contains name = true ↔ ∃ a ∈ added, a.key = (kind, name)) :
    Lists kind added d.keys where
  increasing := d.keys_sorted.imp fun {name other} less => (Text.lt_iff_bytes_lt name other).1 less
  mem_iff name := (d.contains_iff_mem_keys name).symm.trans (held name)

theorem lawful_of_history (history : List Addition) : Lawful history := by
  have held := held_of_accepted {} history
  have holds : ∀ key, (attemptAll {} history).Holds key ↔
      ∃ a ∈ accepted {} history, a.key = key := fun key =>
    (held.holds_iff key).trans (or_iff_right (not_holds_empty key))
  have later := fun more => held_of_accepted (attemptAll {} history) more
  refine {
    refuses := fun a => ?_
    unchanged := fun a e refused => ?_
    scraperNames := ?_
    typeNames := lists_of_keys fun name => holds (.type, name)
    scraper? := fun name => (held.scraper? name).trans Option.none_or
    defaults? := fun name => (held.defaults? name).trans Option.none_or
    scraperKept := fun more name d found => ?_
    defaultsKept := fun more name defaults found => ?_ }
  · rw [← holds]
    constructor
    · rintro ⟨e, refused⟩
      exact (add_eq_error_iff.1 refused).1
    · intro there
      exact ⟨a.duplicate, add_eq_error_iff.2 ⟨there, rfl⟩⟩
  · obtain ⟨-, rfl⟩ := add_eq_error_iff.1 refused
    refine ⟨rfl, a.duplicate_kind, ?_⟩
    rw [attemptAll_append, attemptAll_cons_of_error refused]
    rfl
  · rw [(built_attemptAll .empty history).named.names_eq]
    exact lists_of_keys fun name => holds (.scraper, name)
  · rw [attemptAll_append, (later more).scraper?, found, Option.some_or]
  · rw [attemptAll_append, (later more).defaults?, found, Option.some_or]

/-- Additions of different kinds or names are all accepted. -/
theorem accepted_of_nodup {history : List Addition} (apart : (history.map Addition.key).Nodup)
    (fresh : ∀ a ∈ history, ¬c.Holds a.key) : c.accepted history = history := by
  induction history generalizing c with
  | nil => rfl
  | cons a rest ih =>
    obtain ⟨new, others⟩ := List.forall_mem_cons.1 fresh
    obtain ⟨alone, apart⟩ := List.nodup_cons.1 apart
    cases added : c.add a with
    | error e => exact absurd (add_eq_error_iff.1 added).1 new
    | ok grown =>
      have first := grown_of_add added
      have still : ∀ b ∈ rest, ¬grown.Holds b.key := by
        intro b mem there
        rcases (first.holds_iff b.key).1 there with before | same
        · exact others b mem before
        · exact alone (same ▸ List.mem_map_of_mem mem)
      rw [accepted, added]
      exact congrArg (a :: ·) (ih apart still)

/-- Of documents with different names at most one has the name that is looked for. -/
theorem findSome?_of_perm {α : Type} {find : Addition → Option α} {key : Addition.Kind × String}
    (only : ∀ a found, find a = some found → a.key = key) {history history' : List Addition}
    (apart : (history.map Addition.key).Nodup) (reordered : history.Perm history') :
    history.findSome? find = history'.findSome? find := by
  have unique : ∀ {history : List Addition}, (history.map Addition.key).Nodup → ∀ found,
      history.findSome? find = some found ↔ ∃ a ∈ history, find a = some found := by
    intro history apart found
    refine ⟨List.exists_of_findSome?_eq_some, ?_⟩
    rintro ⟨a, mem, here⟩
    have some : (history.findSome? find).isSome = true :=
      List.findSome?_isSome_iff.2 ⟨a, mem, here ▸ rfl⟩
    obtain ⟨first, chosen⟩ := Option.isSome_iff_exists.1 some
    obtain ⟨b, mem', there⟩ := List.exists_of_findSome?_eq_some chosen
    have same : a = b := List.inj_on_of_nodup_map apart mem mem'
      ((only a found here).trans (only b first there).symm)
    rw [chosen, ← there, ← same, here]
  refine Option.ext fun found => ?_
  rw [unique apart, unique ((reordered.map Addition.key).nodup_iff.1 apart)]
  simp only [reordered.mem_iff]

theorem ext_find? {c' : Catalog} (scrapers : ∀ name, c.scraper? name = c'.scraper? name)
    (types : ∀ name, c.defaults? name = c'.defaults? name) : c = c' := by
  cases c
  cases c'
  exact congrArg₂ Catalog.mk (Dict.ext_find? types) (Dict.ext_find? scrapers)

theorem attemptAll_of_perm {history history' : List Addition}
    (apart : (history.map Addition.key).Nodup) (reordered : history.Perm history') :
    attemptAll {} history = attemptAll {} history' := by
  have apart' := (reordered.map Addition.key).nodup_iff.1 apart
  have held := held_of_accepted {} history
  have held' := held_of_accepted {} history'
  rw [accepted_of_nodup apart fun a _ => not_holds_empty a.key] at held
  rw [accepted_of_nodup apart' fun a _ => not_holds_empty a.key] at held'
  refine ext_find? (fun name => ?_) fun name => ?_
  · rw [held.scraper?, held'.scraper?]
    exact congrArg _ (findSome?_of_perm (fun _ _ => Addition.key_of_scraper?) apart reordered)
  · rw [held.defaults?, held'.defaults?]
    exact congrArg _ (findSome?_of_perm (fun _ _ => Addition.key_of_defaults?) apart reordered)

end Catalog

/-- A catalog holds the first document of each name, and lists the names in the order of their
bytes. Documents with different names may be added in any order; and what is loaded, or why nothing
is, does not depend on the order in which directories list their entries. -/
theorem Catalog.first_wins :
    (∀ history : List Addition, Catalog.Lawful history) ∧
    (∀ history history' : List Addition, (history.map Addition.key).Nodup →
      history.Perm history' → attemptAll {} history = attemptAll {} history') ∧
    ∀ {m : Type → Type} [Monad m] [LawfulMonad m] (files : Files)
      (listing listing' : String → Option (List Path.Name)),
      (∀ directory, Option.Rel List.Perm (listing directory) (listing' directory)) →
      ∀ types scrapers, load (files.store listing : FileStore m) types scrapers =
        load (files.store listing') types scrapers :=
  ⟨lawful_of_history, fun _ _ apart reordered => attemptAll_of_perm apart reordered,
    fun files _ _ reordered types scrapers =>
      load_reordered files (reordered types) (reordered scrapers)⟩

/-- Two documents of media types, and one that is none. -/
def typeFiles : Files where
  read path :=
    if path = "types/album.toml" then .ok (Text.bytes "name = 'album'")
    else if path = "types/movie.toml" then .ok (Text.bytes "name = 'movie'")
    else .error .missing
  isFile path := path = "types/album.toml" ∨ path = "types/movie.toml" ∨ path = "types/notes"
  isDirectory path := path = "types" ∨ path = "scrapers"

def typeListing (directory : String) : Option (List Path.Name) :=
  if directory = "types" then
    some [⟨"movie.toml", by decide, by decide⟩, ⟨"notes", by decide, by decide⟩,
      ⟨"album.toml", by decide, by decide⟩]
  else if directory = "scrapers" then some []
  else none

/-- Media types and a scraper come to the same catalog in either order, added or loaded. -/
theorem Catalog.first_wins_albums :
    let history : List Addition :=
      [.type ⟨"movie", Dict.empty⟩, .scraper albums, .type ⟨"album", albumDetails⟩]
    let back := fun directory => (typeListing directory).map List.reverse
    Catalog.Lawful history ∧ (history.map Addition.key).Nodup ∧
      history.Perm history.reverse ∧
      attemptAll {} history = attemptAll {} history.reverse ∧
      (attemptAll {} history).typeNames = ["album", "movie"] ∧
      (∀ directory, Option.Rel List.Perm (typeListing directory) (back directory)) ∧
      load (typeFiles.store back : FileStore Id) "types" "scrapers" =
        load (typeFiles.store typeListing) "types" "scrapers" := by
  intro history back
  have apart : (history.map Addition.key).Nodup := by decide
  have reversed : history.Perm history.reverse := (List.reverse_perm history).symm
  have reordered : ∀ directory, Option.Rel List.Perm (typeListing directory) (back directory) := by
    intro directory
    cases listed : typeListing directory with
    | none =>
      simp only [back, listed]
      exact .none
    | some names =>
      simp only [back, listed]
      exact .some (List.reverse_perm names).symm
  obtain ⟨lawful, order, loads⟩ := first_wins
  exact ⟨lawful history, apart, reversed, order history history.reverse apart reversed,
    by decide +kernel, reordered,
    (loads typeFiles typeListing back reordered "types" "scrapers").symm⟩

end Gleaner
