import Gleaner.Proofs.Assurance
import Gleaner.Proofs.Items
import Gleaner.Proofs.Reach

set_option autoImplicit false

/-!
References of a valid definition. The bounds that are checked before a scrape hold in it: captures
have every group that is referred to, as far as the pattern that they match does not depend on
captured text itself. Main statement: `Scraper.references_in_bounds`.
-/
namespace Gleaner

namespace Regex

theorem groupCount_pos {text : String} {regex : Regex} (compiled : compile? text = some regex) :
    0 < regex.groupCount := by
  obtain ⟨e, -, fits⟩ := Option.bind_eq_some_iff.1 compiled
  obtain ⟨-, same⟩ := Option.ite_none_right_eq_some.1 fits
  cases same
  exact Nat.succ_pos e.lastGroup

/-- A match has as many groups as its pattern. -/
theorem length_groups_of_mem_all {regex : Regex} {text : String} {captures : Captures}
    (matched : captures ∈ regex.all text) : captures.groups.length = regex.groupCount := by
  obtain ⟨slots, -, rfl⟩ := List.mem_map.1 matched
  simp only [capturesOf, List.length_map, List.length_range]

end Regex

/-- The captures have every group that a template refers to. -/
def Captures.Supply (captures : Captures) (template : String) : Prop :=
  ∀ group ∈ Template.references template, group < captures.groups.length

/-- A template within the groups of a pattern is supplied by every match. -/
theorem Captures.supply_of_within {regex : Regex} {pattern text template : String}
    {captures : Captures} (compiled : Regex.compile? pattern = some regex)
    (matched : captures ∈ regex.all text)
    (within : Template.Within (some (regex.groupCount - 1)) template) :
    captures.Supply template := by
  intro group referred
  have below := within (regex.groupCount - 1) rfl group referred
  have positive := Regex.groupCount_pos compiled
  rw [Regex.length_groups_of_mem_all matched]
  omega

namespace Procedure

/-- Without references in its pattern, what was checked of a procedure holds of each match. -/
theorem groupBound_of_static {searchFor : String} (static : Template.references searchFor = [])
    {given : Captures} {regex : Regex}
    (compiled : Regex.compile? (Template.expand searchFor given).text = some regex) :
    groupBound searchFor = some (regex.groupCount - 1) := by
  have same : Template.expand searchFor Captures.empty = Template.expand searchFor given :=
    Template.expand_congr (static ▸ List.forall_mem_nil _)
  rw [groupBound, same, compiled]
  rfl

end Procedure

namespace Evaluation

def procedure : Evaluation → Procedure
  | failed procedure _ _ => procedure
  | matched procedure _ _ => procedure

/-- The captures that the procedure was given. -/
def given : Evaluation → Captures
  | failed _ given _ => given
  | matched _ given _ => given

/-- The source and the pattern of the procedure refer to groups of the captures that it was given. -/
structure Supplied (e : Evaluation) : Prop where
  source : e.given.Supply e.procedure.source
  searchFor : e.given.Supply e.procedure.searchFor

/-- Everywhere in an evaluation, below each match of a pattern without references, the children and
the assignments of the procedure refer to groups of that match. -/
inductive InBounds : Evaluation → Prop
  | failed (procedure : Procedure) (given : Captures) (failure : Failure) :
      InBounds (.failed procedure given failure)
  | matched {procedure : Procedure} {given : Captures}
      {branches : List (Captures × List Evaluation)}
      (passed : ∀ branch ∈ branches, ∀ e ∈ branch.2,
        e.given = branch.1 ∧ e.procedure ∈ procedure.children)
      (children : Template.references procedure.searchFor = [] → ∀ branch ∈ branches,
        ∀ e ∈ branch.2, e.Supplied)
      (assignments : Template.references procedure.searchFor = [] → ∀ branch ∈ branches,
        ∀ a ∈ procedure.assignments, ∀ template, a.value = .string template →
          branch.1.Supply template)
      (below : ∀ branch ∈ branches, ∀ e ∈ branch.2, InBounds e) :
      InBounds (.matched procedure given branches)

theorem supplied_of_wellFormed {regex : Regex} {pattern text : String} {e : Evaluation}
    (compiled : Regex.compile? pattern = some regex) (matched : e.given ∈ regex.all text)
    (wellFormed : e.procedure.WellFormed (some (regex.groupCount - 1))) : e.Supplied where
  source := Captures.supply_of_within compiled matched wellFormed.source
  searchFor := Captures.supply_of_within compiled matched wellFormed.searchFor

open Procedure (WellFormed groupBound_of_static)

/-- What was checked of a procedure carries over to the branches below its matches. -/
theorem InBounds.of_wellFormed {last : Option Nat} {procedure : Procedure} {given : Captures}
    {branches : List (Captures × List Evaluation)} (wellFormed : procedure.WellFormed last)
    {regex : Regex} {text : String}
    (compiled : Regex.compile? (Template.expand procedure.searchFor given).text = some regex)
    (all : ∀ branch ∈ branches, branch.1 ∈ regex.all text ∧ ∀ e ∈ branch.2,
      e.procedure ∈ procedure.children ∧ e.given = branch.1 ∧ e.InBounds) :
    InBounds (.matched procedure given branches) := by
  refine .matched ?_ ?_ ?_ ?_
  · intro branch mem e here
    obtain ⟨child, passed, -⟩ := (all branch mem).2 e here
    exact ⟨passed, child⟩
  · intro static branch mem e here
    obtain ⟨child, passed, -⟩ := (all branch mem).2 e here
    have checked := wellFormed.children e.procedure child
    rw [groupBound_of_static static compiled] at checked
    exact supplied_of_wellFormed compiled (passed ▸ (all branch mem).1) checked
  · intro static branch mem a assigned template string
    have within := wellFormed.assignments a assigned template string
    rw [groupBound_of_static static compiled] at within
    exact Captures.supply_of_within compiled (all branch mem).1 within
  · intro branch mem e here
    exact ((all branch mem).2 e here).2.2

end Evaluation

namespace Assurance.Sound

variable {m : Type → Type} [Monad m] {assurance : Assurance m} {access : Access m}

mutual

theorem evaluate_inBounds [LawfulMonad m] (sound : assurance.Sound access) (given : Captures) :
    ∀ {last : Option Nat} (procedure : Procedure), procedure.WellFormed last →
      assurance.Ensures (procedure.evaluate access given) fun e =>
        e.procedure = procedure ∧ e.given = given ∧ e.InBounds
  | _, .node source searchFor repeats askUser importing assignments children, wellFormed => by
    simp only [Procedure.evaluate]
    refine assurance.ensures_bind (sound.find given _) fun found matched => ?_
    cases found with
    | error failure => exact assurance.ensures_pure ⟨rfl, rfl, .failed _ _ _⟩
    | ok selected =>
      obtain ⟨regex, text, compiled, ofPattern⟩ := matched selected rfl
      have each : ∀ captures ∈ selected, assurance.Ensures
          (do
            let found ← Procedure.evaluateAll access captures children
            pure (captures, found))
          fun branch => branch.1 ∈ regex.all text ∧ ∀ e ∈ branch.2,
            e.procedure ∈ children ∧ e.given = branch.1 ∧ e.InBounds := by
        intro captures mem
        have inside := sound.evaluateAll_inBounds captures children wellFormed.children
        exact assurance.ensures_bind inside fun found all =>
          assurance.ensures_pure ⟨ofPattern captures mem, all⟩
      refine assurance.ensures_bind (ensures_mapM each) fun branches all => ?_
      exact assurance.ensures_pure ⟨rfl, rfl, .of_wellFormed wellFormed compiled all⟩

/-- Siblings are evaluated with what they are given, each in bounds. -/
theorem evaluateAll_inBounds [LawfulMonad m] (sound : assurance.Sound access) (given : Captures) :
    ∀ {last : Option Nat} (procedures : List Procedure),
      (∀ procedure ∈ procedures, procedure.WellFormed last) →
      assurance.Ensures (Procedure.evaluateAll access given procedures) fun found =>
        ∀ e ∈ found, e.procedure ∈ procedures ∧ e.given = given ∧ e.InBounds
  | _, [], _ => assurance.ensures_pure (List.forall_mem_nil _)
  | _, p :: ps, wellFormed => by
    obtain ⟨first, others⟩ := List.forall_mem_cons.1 wellFormed
    refine assurance.ensures_bind (sound.evaluate_inBounds given p first) fun e holds => ?_
    refine assurance.ensures_bind (sound.evaluateAll_inBounds given ps others) fun es all => ?_
    refine assurance.ensures_pure (List.forall_mem_cons.2 ⟨?_, ?_⟩)
    · exact ⟨holds.1 ▸ List.mem_cons_self, holds.2⟩
    · exact fun e mem => ⟨List.mem_cons_of_mem p (all e mem).1, (all e mem).2⟩

end

end Assurance.Sound

namespace Scraper

variable {m : Type → Type} [Monad m] {assurance : Assurance m} {s : Scraper m}

/-- An operator who is asked chooses among what he is offered, and reading does not change that. -/
structure Trusts (assurance : Assurance m) (s : Scraper m) : Prop where
  reader : ∀ reference, assurance.Ensures (s.reader.read reference) fun _ => True
  prompter : ∀ prompter, s.prompter = some prompter →
    ∀ request, assurance.Ensures (prompter.choose request) request.Offers

theorem Trusts.access (trusts : s.Trusts assurance) (options : ScrapeOptions) :
    assurance.cached.Sound (s.access options) where
  resolve reference cache compiled := by
    show assurance.Ensures (cache.resolve s.reader reference) _
    unfold SourceCache.resolve
    split
    · exact assurance.ensures_pure ⟨trivial, compiled⟩
    · refine assurance.ensures_bind (trusts.reader reference) fun found _ => ?_
      cases found with
      | error e => exact assurance.ensures_pure ⟨trivial, compiled⟩
      | ok text => exact assurance.ensures_pure ⟨trivial, compiled⟩
  compile text cache compiled :=
    assurance.ensures_pure ⟨compiled.pattern_fst text, compiled.pattern_snd text⟩
  prompter prompter asked request cache compiled := by
    obtain ⟨-, plain, there, rfl⟩ := access_prompter asked
    exact assurance.ensures_bind (trusts.prompter plain there request) fun answer offers =>
      assurance.ensures_pure ⟨offers, compiled⟩

/-- The seeds of a location are matches of the name pattern. -/
theorem mem_all_of_mem_seeds {definition : Definition} {fileName : Regex} {location : String}
    {seed : Captures} (mem : seed ∈ seeds definition fileName location) :
    seed ∈ fileName.all location := by
  rw [seeds, Procedure.keep_all] at mem
  exact Procedure.mem_of_keep mem

theorem Trusts.chooseSeed (trusts : s.Trusts assurance) (options : ScrapeOptions)
    (location : String) (candidates : List Captures) :
    assurance.Ensures (s.chooseSeed options location candidates) fun seed =>
      ∀ chosen, seed = some chosen → chosen ∈ candidates := by
  unfold Scraper.chooseSeed
  split
  · exact assurance.ensures_pure fun chosen first => List.mem_of_head? first
  · next prompter asked =>
    have there := (Option.ite_none_right_eq_some.1 asked).2
    refine assurance.ensures_bind (trusts.prompter prompter there _) fun answer offers => ?_
    exact assurance.ensures_pure fun chosen first => offers.mem_of_getD (List.mem_of_head? first)

/-- The rules of an item are given its seed, which has the groups that they refer to, and so it
goes on below them. -/
def Rooted (seed : Captures) (found : List Evaluation) : Prop :=
  ∀ e ∈ found, e.given = seed ∧ e.Supplied ∧ e.InBounds

variable [LawfulMonad m]

theorem Trusts.evaluate (trusts : s.Trusts assurance) {fileName : Regex}
    (valid : s.definition.Valid fileName) (options : ScrapeOptions) {location : String}
    {seed : Captures} (mem : seed ∈ seeds s.definition fileName location) :
    assurance.Ensures (s.evaluate options seed) (Rooted seed) := by
  have inside := (trusts.access options).evaluateAll_inBounds seed s.definition.procedures
    valid.procedures {} SourceCache.empty_compiled
  refine assurance.ensures_bind inside fun found all => assurance.ensures_pure fun e here => ?_
  obtain ⟨root, given, inBounds⟩ := all.1 e here
  have matched : e.given ∈ fileName.all location := given ▸ mem_all_of_mem_seeds mem
  exact ⟨given, Evaluation.supplied_of_wellFormed valid.compiled matched (valid.procedures _ root),
    inBounds⟩

theorem Trusts.evaluations (trusts : s.Trusts assurance) {fileName : Regex} {defaults : Details}
    (valid : s.definition.Valid fileName) (ready : s.ready = .ok (fileName, defaults))
    (options : ScrapeOptions) (location : String) :
    assurance.Ensures (s.evaluations options location) fun answer => ∀ found, answer = some found →
      ∃ seed ∈ seeds s.definition fileName location, Rooted seed found := by
  simp only [Scraper.evaluations, ready]
  refine assurance.ensures_bind (trusts.chooseSeed options location _) fun seed chosen => ?_
  cases seed with
  | none =>
    refine assurance.ensures_pure fun found same => ?_
    cases same
  | some seed =>
    have mem := chosen seed rfl
    refine assurance.ensures_bind (trusts.evaluate valid options mem) fun found rooted => ?_
    refine assurance.ensures_pure fun found' same => ⟨seed, mem, ?_⟩
    cases same
    exact rooted

theorem Trusts.evaluationsEach (trusts : s.Trusts assurance) {fileName : Regex}
    {defaults : Details} (valid : s.definition.Valid fileName)
    (ready : s.ready = .ok (fileName, defaults)) (options : ScrapeOptions) (location : String) :
    assurance.Ensures (s.evaluationsEach options location) fun items =>
      ∀ item ∈ items, item.1 ∈ seeds s.definition fileName location ∧ Rooted item.1 item.2 := by
  simp only [Scraper.evaluationsEach, ready]
  refine Assurance.ensures_mapM fun seed mem => ?_
  exact assurance.ensures_bind (trusts.evaluate valid options mem) fun found rooted =>
    assurance.ensures_pure ⟨mem, rooted⟩

/-- The states that the outside may come to while a scraper reads and asks. -/
inductive Reaches {σ : Type} (s : Scraper (StateM σ)) (w : σ) : σ → Prop
  | start : Reaches s w w
  | read {w' : σ} (reached : Reaches s w w') (reference : String) :
      Reaches s w ((s.reader.read reference).run w').2
  | asked {w' : σ} (reached : Reaches s w w') {prompter : Prompter (StateM σ)}
      (there : s.prompter = some prompter) (request : PromptRequest) :
      Reaches s w ((prompter.choose request).run w').2

end Scraper

/-- The bounds of a valid definition hold in every scrape where the operator, if there is one,
chooses among what he is offered. The rules refer to groups of the seed; and below each match of a
pattern without references, all that is referred to are groups of that match. -/
theorem Scraper.references_in_bounds {σ : Type} {s : Scraper (StateM σ)} {fileName : Regex}
    {defaults : Details} (valid : s.definition.validate = .ok fileName)
    (ready : s.preparation = .ready fileName defaults) {w : σ}
    (offered : ∀ w', s.Reaches w w' → ∀ prompter, s.prompter = some prompter →
      ∀ request : PromptRequest, request.Offers ((prompter.choose request).run w').1)
    (options : ScrapeOptions) :
    (∀ record,
      let ran := (s.evaluations options record.location).run w
      (s.seen options record).run w =
          (answerFrom s.definition options defaults record ran.1, ran.2) ∧
        ∀ found, ran.1 = some found →
          ∃ seed ∈ seeds s.definition fileName record.location, Rooted seed found) ∧
    ∀ location create,
      let ran := (s.evaluationsEach options location).run w
      (s.seenEach options location create).run w =
          (.ok (itemsFrom s.definition options defaults create ran.1), ran.2) ∧
        ∀ item ∈ ran.1,
          item.1 ∈ seeds s.definition fileName location ∧ Rooted item.1 item.2 := by
  have prepared := ready_of_preparation ready
  have isValid := (s.definition.validate_eq_ok_iff fileName).1 valid
  have trusts : s.Trusts (Assurance.within (s.Reaches w)) := {
    reader := fun reference w' reached => ⟨trivial, reached.read reference⟩
    prompter := fun prompter there request w' reached =>
      ⟨offered w' reached prompter there request, reached.asked there request⟩ }
  constructor
  · intro record ran
    refine ⟨?_, (trusts.evaluations isValid prepared options record.location w .start).1⟩
    rw [seen_eq prepared, StateT.run_map]
    rfl
  · intro location create ran
    refine ⟨?_, (trusts.evaluationsEach isValid prepared options location w .start).1⟩
    rw [seenEach_eq prepared, StateT.run_map]
    rfl

/-- Albums with tracks of which the operator may choose some, and lyrics for each of these. -/
def lyricAlbums : Definition where
  name := albums.name
  targetType := albums.targetType
  fileName := albums.fileName
  procedures := [
    .node "$0.txt" "Track: ([a-z]+)" true true false [⟨.name, .string "$1"⟩]
      [.node "$1.nfo" "Lyrics of $1" false false false [] []]]

theorem lyricAlbums_validate : lyricAlbums.validate = .ok albumName := by
  have accepted : lyricAlbums.validate.isOk = true := by decide +kernel
  cases valid : lyricAlbums.validate with
  | error e =>
    rw [valid] at accepted
    cases accepted
  | ok fileName =>
    have compiled := ((lyricAlbums.validate_eq_ok_iff fileName).1 valid).compiled
    exact congrArg Except.ok (Option.get_of_eq_some _ compiled).symm

/-- The scraper of albums with lyrics as it is when it was prepared. -/
def readyLyricAlbums : Scraper (StateM World) :=
  { World.scraper lyricAlbums true with preparation := .ready albumName albumDetails }

/-- A shelf whose operator takes all that he is offered. -/
def generousShelf : World :=
  { shelf with operator := fun requests => requests.getLast?.map (·.candidates) }

/-- The lyrics of both tracks that the operator takes are looked for where the tracks say. -/
theorem Scraper.references_in_bounds_albums :
    let asking : ScrapeOptions := { askUser := true }
    let album := Record.fresh "one" Dict.empty
    readyLyricAlbums.definition.validate = .ok albumName ∧
      ∃ found,
        ((readyLyricAlbums.evaluations asking album.location).run generousShelf).1 = some found ∧
        (Evaluation.visitsAll found).length = 2 ∧ Evaluation.failuresAll found = 2 ∧
        Rooted ⟨[some "one"]⟩ found := by
  intro asking album
  have valid : readyLyricAlbums.definition.validate = .ok albumName := lyricAlbums_validate
  have ready : readyLyricAlbums.preparation = .ready albumName albumDetails := rfl
  have operator : ∀ w, readyLyricAlbums.Reaches generousShelf w →
      w.operator = generousShelf.operator := by
    intro w reached
    induction reached with
    | start => rfl
    | read reached reference ih => exact ih
    | asked reached there request ih =>
      cases there
      exact ih
  have offered : ∀ w, readyLyricAlbums.Reaches generousShelf w →
      ∀ prompter, readyLyricAlbums.prompter = some prompter →
      ∀ request : PromptRequest, request.Offers ((prompter.choose request).run w).1 := by
    intro w reached prompter there request chosen answered captures mem
    cases there
    have answer : w.operator (w.requests ++ [request]) = some request.candidates := by
      rw [operator w reached]
      simp only [generousShelf, List.getLast?_concat, Option.map_some]
    cases answer.symm.trans answered
    exact mem
  obtain ⟨-, rooted⟩ := (references_in_bounds valid ready offered asking).1 album
  have counts : ((readyLyricAlbums.evaluations asking album.location).run generousShelf).1.map
      (fun found => ((Evaluation.visitsAll found).length, Evaluation.failuresAll found)) =
        some (2, 2) := by decide +kernel
  obtain ⟨found, evaluated, both⟩ := Option.map_eq_some_iff.1 counts
  obtain ⟨visits, failures⟩ := Prod.mk.inj both
  have only : seeds lyricAlbums albumName album.location = [⟨[some "one"]⟩] := by decide +kernel
  obtain ⟨seed, mem, rooted⟩ := rooted found evaluated
  have same : seed = ⟨[some "one"]⟩ := List.mem_singleton.1 (only ▸ mem)
  exact ⟨valid, found, evaluated, visits, failures, same ▸ rooted⟩

end Gleaner
