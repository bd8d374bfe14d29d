import Gleaner.Proofs.Accounts
import Gleaner.Proofs.Assigning
import Gleaner.Proofs.Harvest
import Gleaner.Proofs.Matches
import Gleaner.Proofs.Recording
import Mathlib.Data.List.Flatten

set_option autoImplicit false

/-!
A procedure that does not repeat goes on in one match at most, whatever an operator answers. Where
no procedure repeats, each is evaluated at most once for an item, and this bounds what is read and
by how much lists grow. Main statement: `Scraper.evaluated_at_most_once`.
-/
namespace Gleaner

/-- A search is the one that its procedure asks for, and those of its matches are kept that the
procedure may keep. -/
structure Search.Lawful (exchanges : List Exchange) (procedure : Procedure) (given : Captures)
    (search : Search) (kept : List Captures) : Prop where
  reference : search.reference = (Template.expand procedure.source given).text
  read : .read search.reference (.ok search.text) ∈ exchanges
  pattern : search.pattern = (Template.expand procedure.searchFor given).text
  compiled : Regex.compile? search.pattern = some search.regex
  /-- There is no answer but that of an operator who was asked. -/
  asked : ∀ chosen, search.answer = some chosen →
    procedure.askUser = true ∧ ∃ request, .asked request (some chosen) ∈ exchanges
  single : procedure.repeats = false → kept.length ≤ 1
  all : procedure.repeats = true → search.answer = none →
    kept = search.regex.all search.text ∧
      (search.regex.allSlots search.text.toList.toArray).Pairwise Pattern.Behind

namespace Account

/-- Everywhere in an account the searches are lawful, and every child is evaluated in every match
that is kept. -/
inductive Lawful (exchanges : List Exchange) : Account → Prop
  | failed (procedure : Procedure) (given : Captures) (failure : Failure) :
      Lawful exchanges (.failed procedure given failure)
  | searched {procedure : Procedure} {given : Captures} {search : Search}
      {branches : List (Captures × List Account)}
      (lawful : search.Lawful exchanges procedure given (branches.map Prod.fst))
      (children : ∀ branch ∈ branches, branch.2.map Account.procedure = procedure.children)
      (passed : ∀ branch ∈ branches, ∀ a ∈ branch.2, a.given = branch.1)
      (below : ∀ branch ∈ branches, ∀ a ∈ branch.2, Lawful exchanges a) :
      Lawful exchanges (.searched procedure given search branches)

end Account

variable {exchanges exchanges' : List Exchange}

theorem Search.Lawful.mono {procedure : Procedure} {given : Captures} {search : Search}
    {kept : List Captures} (lawful : search.Lawful exchanges procedure given kept)
    (more : exchanges ⊆ exchanges') : search.Lawful exchanges' procedure given kept where
  reference := lawful.reference
  read := more lawful.read
  pattern := lawful.pattern
  compiled := lawful.compiled
  asked chosen answered := by
    obtain ⟨asks, request, mem⟩ := lawful.asked chosen answered
    exact ⟨asks, request, more mem⟩
  single := lawful.single
  all := lawful.all

theorem Account.Lawful.mono {a : Account} (lawful : a.Lawful exchanges)
    (more : exchanges ⊆ exchanges') : a.Lawful exchanges' := by
  induction lawful with
  | failed procedure given failure => exact .failed procedure given failure
  | searched lawful children passed below ih =>
    exact .searched (lawful.mono more) children passed ih

/-- Siblings are accounted for lawfully, and each of the new reads was for one of those
evaluated. -/
structure Account.Cover (procedures : List Procedure) (given : Captures)
    (since : List Exchange) (accounts : List Account) (new : List Exchange) : Prop where
  procedures : accounts.map procedure = procedures
  given : ∀ a ∈ accounts, a.given = given
  lawful : ∀ a ∈ accounts, a.Lawful (since ++ new)
  reads : ∀ path index,
    (Exchange.reads new).length ≤ (evaluatedAll path index accounts).length

namespace Procedure

theorem length_keep_le (candidates : List Captures) : (keep false candidates).length ≤ 1 :=
  List.length_take_le 1 candidates

variable {σ : Type}

/-- Branches are accounted for when what is below each of them is. -/
theorem tells_branches {procedures : List Procedure}
    {inner : Captures → StateT SourceCache (Recorded σ) (List Account)}
    (each : ∀ captures, Tells (inner captures) (Account.Cover procedures captures))
    (selected : List Captures) :
    Tells (selected.mapM fun captures => do
        let below ← inner captures
        pure (captures, below))
      fun since branches new => branches.map Prod.fst = selected ∧
        (∀ branch ∈ branches, branch.2.map Account.procedure = procedures ∧
          ∀ a ∈ branch.2, a.given = branch.1 ∧ a.Lawful (since ++ new)) ∧
        ∀ path, (Exchange.reads new).length ≤
          (Account.evaluatedBranches path branches).length := by
  induction selected with
  | nil => exact Tells.pure fun since => ⟨rfl, List.forall_mem_nil _, fun _ => Nat.le_refl 0⟩
  | cons captures rest ih =>
    rw [List.mapM_cons, bind_assoc]
    refine (each captures).seq fun below => ?_
    rw [pure_bind]
    refine ih.seq fun branches => Tells.pure ?_
    rintro so since' more rfl ⟨firsts, lawful, reads⟩ since new rfl cover
    rw [List.append_nil]
    refine ⟨?_, ?_, fun path => ?_⟩
    · rw [List.map_cons, firsts]
    · refine List.forall_mem_cons.2 ⟨⟨cover.procedures, fun a mem => ?_⟩, ?_⟩
      · refine ⟨cover.given a mem, (cover.lawful a mem).mono ?_⟩
        rw [← List.append_assoc]
        exact List.subset_append_left _ _
      · rw [← List.append_assoc]
        exact lawful
    · have here := cover.reads path 0
      have there := reads path
      simp only [Account.evaluatedBranches, Exchange.reads_append, List.length_append]
      omega

variable {access : Access (StateT SourceCache (Recorded σ))}

theorem tells_consult (told : access.Told) (repeats askUser : Bool) (reference pattern : String)
    (candidates : List Captures) :
    Tells (consult access repeats askUser reference pattern candidates) fun _ answer new =>
      Exchange.reads new = [] ∧ ∀ chosen, answer = some chosen →
        askUser = true ∧ ∃ request, .asked request (some chosen) ∈ new := by
  unfold consult
  split
  · next prompter first rest there =>
    obtain ⟨asks, given⟩ := Option.ite_none_right_eq_some.1 there
    refine (told.prompter prompter given _).mono fun since answer new same => ?_
    subst same
    refine ⟨rfl, fun chosen answered => ?_⟩
    subst answered
    exact ⟨asks, ⟨access.scraper, reference, pattern, first :: rest, repeats⟩,
      List.mem_singleton.2 rfl⟩
  · exact Tells.pure fun since => ⟨rfl, nofun⟩

/-- What is searched is read and compiled as the templates say, with one read at most. -/
theorem tells_look (told : access.Told) (given : Captures) (procedure : Procedure) :
    Tells (look access given procedure) fun since looked new =>
      (Exchange.reads new).length ≤ 1 ∧ ∀ search, looked = .ok search →
        search.Lawful (since ++ new) procedure given (search.selected procedure.repeats) := by
  unfold look
  refine (told.resolve _).seq fun found => ?_
  cases found with
  | error e =>
    refine Tells.pure fun so since new same read => ?_
    rw [List.append_nil]
    exact ⟨read.2, nofun⟩
  | ok text =>
    refine (told.compile _).seq fun compiled => ?_
    cases compiled with
    | none =>
      refine Tells.pure fun so since new same compiled since' new' same' read => ?_
      obtain ⟨-, rfl⟩ := compiled
      rw [List.append_nil, List.append_nil]
      exact ⟨read.2, nofun⟩
    | some regex =>
      refine (tells_consult told _ _ _ _ _).seq fun answer => Tells.pure ?_
      rintro so since' asked rfl ⟨quiet, answered⟩ since compile rfl ⟨compiled, rfl⟩ before read rfl
        ⟨held, few⟩
      rw [List.append_nil, List.nil_append]
      refine ⟨?_, fun search looked => ?_⟩
      · rw [Exchange.reads_append, quiet, List.append_nil]
        exact few
      · cases looked
        exact {
          reference := rfl
          pattern := rfl
          compiled := compiled.symm
          read := by
            rw [← List.append_assoc]
            exact List.mem_append_left _ (held text rfl)
          asked := by
            intro chosen chose
            obtain ⟨asks, request, mem⟩ := answered chosen chose
            exact ⟨asks, request, List.mem_append_right _ (List.mem_append_right _ mem)⟩
          single := by
            intro single
            rw [Search.selected, single]
            exact length_keep_le _
          all := by
            intro repeats declined
            have none : answer = none := declined
            subst none
            refine ⟨?_, regex.allSlots_behind _⟩
            rw [Search.selected, repeats]
            rfl }

mutual

theorem tells_account (told : access.Told) (given : Captures) : ∀ procedure : Procedure,
    Tells (account access given procedure) fun since a new => a.procedure = procedure ∧
      a.given = given ∧ a.Lawful (since ++ new) ∧
      ∀ path, (Exchange.reads new).length ≤ (a.evaluated path).length
  | .node source searchFor repeats askUser importing assignments children => by
    rw [account]
    refine (tells_look told given _).seq fun looked => ?_
    cases looked with
    | error failure =>
      refine Tells.pure ?_
      rintro so since new rfl ⟨reads, -⟩
      exact ⟨rfl, rfl, .failed _ _ _, fun path => by
        rw [List.append_nil]
        exact reads⟩
    | ok search =>
      refine (tells_branches (fun captures => tells_accountAll told captures children) _).seq
        fun branches => Tells.pure ?_
      rintro so since' more rfl ⟨firsts, lawful, reads⟩ since new rfl ⟨few, searched⟩
      rw [List.append_nil, ← List.append_assoc]
      have holds := searched search rfl
      refine ⟨rfl, rfl, .searched ?_ ?_ ?_ ?_, fun path => ?_⟩
      · rw [firsts]
        exact holds.mono (List.subset_append_left _ _)
      · exact fun branch mem => (lawful branch mem).1
      · exact fun branch mem a here => ((lawful branch mem).2 a here).1
      · exact fun branch mem a here => ((lawful branch mem).2 a here).2
      · have below := reads path
        simp only [Account.evaluated, Exchange.reads_append, List.length_append, List.length_cons]
        omega

/-- Evaluations are accounted for lawfully, and each read was for one of them. -/
theorem tells_accountAll (told : access.Told) (given : Captures) :
    ∀ procedures : List Procedure,
      Tells (accountAll access given procedures) (Account.Cover procedures given)
  | [] => by
    rw [accountAll]
    exact Tells.pure fun since =>
      ⟨rfl, List.forall_mem_nil _, List.forall_mem_nil _, fun _ _ => Nat.le_refl 0⟩
  | p :: ps => by
    rw [accountAll]
    refine (tells_account told given p).seq fun first => ?_
    refine (tells_accountAll told given ps).seq fun others => Tells.pure ?_
    rintro so since' more rfl cover since new rfl ⟨same, passed, lawful, reads⟩
    rw [List.append_nil]
    refine ⟨?_, List.forall_mem_cons.2 ⟨passed, cover.given⟩, ?_, fun path index => ?_⟩
    · rw [List.map_cons, same, cover.procedures]
    · rw [← List.append_assoc]
      exact List.forall_mem_cons.2 ⟨lawful.mono (List.subset_append_left _ _), cover.lawful⟩
    · have here := reads (path ++ [index])
      have later := cover.reads path (index + 1)
      simp only [Account.evaluatedAll, Exchange.reads_append, List.length_append]
      omega

end

end Procedure

namespace Account

/-- No procedure is evaluated that is not there, nor one more often than it is; and so it is with
visits. -/
structure Sparse (procedures : List Procedure) (accounts : List Account) : Prop where
  evaluated : ∀ path index, (evaluatedAll path index accounts).Sublist
    (Procedure.placedAll path index procedures)
  visited : ((Evaluation.visitsAll (evaluationAll accounts)).map Visit.procedure).Sublist
    (Procedure.nodesAll procedures)

mutual

theorem sparse_of_single (path : ProcedurePath) :
    ∀ (procedure : Procedure) (a : Account), a.procedure = procedure → a.Lawful exchanges →
      (∀ node ∈ procedure.nodes, node.repeats = false) →
      (a.evaluated path).Sublist (procedure.placed path) ∧
        (a.evaluation.visits.map Visit.procedure).Sublist procedure.nodes
  | .node source searchFor repeats askUser importing assignments children, a, same, lawful,
      single => by
    rw [Procedure.nodes] at single
    obtain ⟨here, others⟩ := List.forall_mem_cons.1 single
    cases lawful with
    | failed procedure given failure =>
      cases same
      exact ⟨(List.nil_sublist _).cons_cons _, List.nil_sublist _⟩
    | @searched procedure given search branches lawful below passed accounts =>
      cases same
      have few := lawful.single here
      match branches with
      | [] => exact ⟨(List.nil_sublist _).cons_cons _, List.nil_sublist _⟩
      | [branch] =>
        have only := List.mem_singleton.2 (Eq.refl branch)
        have sparse := sparseAll_of_single children branch.2 (below branch only)
          (accounts branch only) others
        constructor
        · rw [evaluated, evaluatedBranches, evaluatedBranches, List.append_nil, Procedure.placed]
          exact (sparse.evaluated path 0).cons_cons _
        · simp only [evaluation, evaluationBranches, List.isEmpty_cons, Bool.false_eq_true,
            ↓reduceIte, Evaluation.visits, Evaluation.visitsBranches, List.append_nil,
            List.map_cons, Procedure.nodes]
          exact sparse.visited.cons_cons _
      | first :: second :: rest =>
        simp only [List.map_cons, List.length_cons] at few
        omega

/-- Where no procedure repeats, lawful accounts of siblings are sparse. -/
theorem sparseAll_of_single :
    ∀ (procedures : List Procedure) (accounts : List Account),
      accounts.map procedure = procedures → (∀ a ∈ accounts, a.Lawful exchanges) →
      (∀ node ∈ Procedure.nodesAll procedures, node.repeats = false) →
      Sparse procedures accounts
  | [], accounts, same, _, _ => by
    have none : accounts = [] := List.map_eq_nil_iff.1 same
    subst none
    exact ⟨fun _ _ => .slnil, .slnil⟩
  | p :: ps, accounts, same, lawful, single => by
    obtain ⟨first, others, rfl, this, rest⟩ := List.map_eq_cons_iff.1 same
    rw [Procedure.nodesAll, List.forall_mem_append] at single
    obtain ⟨lawful, lawfulAll⟩ := List.forall_mem_cons.1 lawful
    have here := fun path => sparse_of_single path p first this lawful single.1
    have later := sparseAll_of_single ps others rest lawfulAll single.2
    refine ⟨fun path index => ?_, ?_⟩
    · exact (here (path ++ [index])).1.append (later.evaluated path (index + 1))
    · rw [evaluationAll, Evaluation.visitsAll, List.map_append]
      exact (here []).2.append later.visited

end

end Account

/-- The assignments of a procedure to a field. -/
def Procedure.assignmentsTo (field : Field) (procedure : Procedure) : List Assignment :=
  procedure.assignments.filter fun a => a.field = field

namespace Definition

/-- No procedure repeats. -/
def Single (definition : Definition) : Prop :=
  ∀ node ∈ Procedure.nodesAll definition.procedures, node.repeats = false

/-- The assignments to a field, in all procedures. -/
def assignmentsTo (definition : Definition) (field : Field) : List Assignment :=
  (Procedure.nodesAll definition.procedures).flatMap (Procedure.assignmentsTo field)

end Definition

/-- The values of visits to few procedures are as few as the assignments of these. -/
theorem length_values_le {visits : List Visit} {nodes : List Procedure}
    (few : (visits.map Visit.procedure).Sublist nodes) (field : Field) :
    (visits.flatMap (Visit.values · field)).length ≤
      (nodes.flatMap (Procedure.assignmentsTo field)).length := by
  have values : (visits.flatMap (Visit.values · field)).length =
      ((visits.map Visit.procedure).flatMap (Procedure.assignmentsTo field)).length := by
    rw [List.flatMap_map, List.length_flatMap, List.length_flatMap]
    refine congrArg List.sum (List.map_congr_left fun visit _ => ?_)
    rw [Visit.values, List.length_map]
    rfl
  rw [values]
  exact (few.flatMap _).length_le

/-- What was evaluated for an item, and what was exchanged for it. -/
structure ItemAccount where
  seed : Captures
  accounts : List Account
  exchanges : List Exchange

namespace Scraper

/-- Accounts of the rules for an item are lawful and leave out none. -/
structure Accounted (definition : Definition) (exchanges : List Exchange)
    (accounts : List Account) : Prop where
  procedures : accounts.map Account.procedure = definition.procedures
  lawful : ∀ a ∈ accounts, a.Lawful exchanges

/-- An item takes no more than one evaluation of each procedure, and what comes with it. -/
structure Sparing (definition : Definition) (options : ScrapeOptions) (defaults : Details)
    (exchanges : List Exchange) (accounts : List Account) (record : Record) : Prop where
  placed : (Account.evaluatedAll [] 0 accounts).Sublist
    (Procedure.placedAll [] 0 definition.procedures)
  once : ((Account.evaluatedAll [] 0 accounts).map Prod.fst).Nodup
  reads : (Exchange.reads exchanges).length ≤ (Procedure.nodesAll definition.procedures).length
  growth : ∀ key items, ¬Inherits definition options key →
    defaults.find? key = some (.array items) →
    ∃ more, record.detail? key = some (.array (items ++ more)) ∧
      more.length ≤ (definition.assignmentsTo (.detail key)).length

section Programs

variable {m : Type → Type} [Monad m]

/-- Evaluates the rules for one item, from an empty cache, and gives an account of it. -/
def account (s : Scraper m) (options : ScrapeOptions) (seed : Captures) : m (List Account) := do
  let (accounts, _) ← (Procedure.accountAll (s.access options) seed s.definition.procedures).run {}
  pure accounts

/-- Evaluates the rules for the item at a location, if it has a seed. -/
def accounts (s : Scraper m) (options : ScrapeOptions) (location : String) :
    m (Option (List Account)) :=
  match s.ready with
  | .error _ => pure none
  | .ok (fileName, _) => do
      match ← s.chooseSeed options location (seeds s.definition fileName location) with
      | none => pure none
      | some seed => do
          let accounts ← s.account options seed
          pure (some accounts)

variable [LawfulMonad m] {s : Scraper m} {options : ScrapeOptions}

theorem evaluate_eq_account (seed : Captures) :
    s.evaluate options seed = Account.evaluationAll <$> s.account options seed := by
  rw [evaluate, account, Procedure.evaluateAll_eq, StateT.run_map]
  simp only [map_eq_pure_bind, bind_assoc, pure_bind]

theorem evaluations_eq_accounts (location : String) :
    s.evaluations options location =
      Option.map Account.evaluationAll <$> s.accounts options location := by
  unfold evaluations accounts
  cases s.ready with
  | error e => simp only [map_pure, Option.map_none]
  | ok prepared =>
    simp only [evaluate_eq_account, map_eq_pure_bind, bind_assoc]
    refine bind_congr fun seed => ?_
    cases seed with
    | none => simp only [pure_bind, Option.map_none]
    | some seed => simp only [bind_assoc, pure_bind, Option.map_some]

end Programs

variable {σ : Type} {s : Scraper (Recorded σ)} {options : ScrapeOptions}

/-- Evaluates the rules for every item of a location; each item has a log of its own. -/
def accountsEach (s : Scraper (Recorded σ)) (options : ScrapeOptions) (location : String) :
    Recorded σ (List ItemAccount) :=
  match s.ready with
  | .error _ => pure []
  | .ok (fileName, _) => (seeds s.definition fileName location).mapM fun seed => do
      let (accounts, own) ← apart (s.account options seed)
      pure ⟨seed, accounts, own⟩

theorem Records.run_account (records : s.Records) (options : ScrapeOptions) (seed : Captures)
    (w : σ) :
    ∃ accounts own w', Account.Cover s.definition.procedures seed [] accounts own ∧
      ∀ log, (s.account options seed).run (log, w) = (accounts, log ++ own, w') := by
  obtain ⟨accounts, cache, own, w', ran, -, cover⟩ :=
    Procedure.tells_accountAll (records.told options) seed s.definition.procedures {} [] w
      SourceCache.empty_mirrors
  refine ⟨accounts, own, w', cover, fun log => ?_⟩
  rw [account, StateT.run_bind, ran log]
  rfl

/-- To choose a seed nothing is read. -/
theorem Records.run_chooseSeed (records : s.Records) (options : ScrapeOptions)
    (location : String) (candidates : List Captures) (w : σ) :
    ∃ seed asked w', Exchange.reads asked = [] ∧
      (s.chooseSeed options location candidates).run ([], w) = (seed, asked, w') := by
  unfold chooseSeed
  split
  · exact ⟨candidates.head?, [], w, rfl, rfl⟩
  · next prompter there =>
    obtain ⟨recorded, same⟩ := records.prompter
    rw [same] at there
    obtain ⟨operator, -, rfl⟩ :=
      Option.map_eq_some_iff.1 (Option.ite_none_right_eq_some.1 there).2
    exact ⟨_, [.asked _ _], _, rfl, rfl⟩

/-- Accounts that cover the rules are lawful. -/
theorem accounted_of_cover {seed : Captures} {accounts : List Account} {own : List Exchange}
    (cover : Account.Cover s.definition.procedures seed [] accounts own) (asked : List Exchange) :
    Accounted s.definition (asked ++ own) accounts where
  procedures := cover.procedures
  lawful a mem := (cover.lawful a mem).mono (List.subset_append_right asked own)

/-- Where no procedure repeats, an item is spared more than one evaluation of each. -/
theorem sparing_of_cover {seed : Captures} {accounts : List Account} {own : List Exchange}
    (cover : Account.Cover s.definition.procedures seed [] accounts own)
    (single : s.definition.Single) {asked : List Exchange} (quiet : Exchange.reads asked = [])
    (defaults : Details) (record : Record) :
    Sparing s.definition options defaults (asked ++ own) accounts
      (itemFrom s.definition options defaults record (Account.evaluationAll accounts)).record := by
  have sparse := Account.sparseAll_of_single _ _ cover.procedures cover.lawful single
  have placed := sparse.evaluated [] 0
  refine ⟨placed, ?_, ?_, fun key items notInherited array => ?_⟩
  · exact (placed.map Prod.fst).nodup (Procedure.placedAll_nodup [] 0 _)
  · rw [Exchange.reads_append, quiet, List.nil_append, ← Procedure.placedAll_snd [] 0,
      List.length_map]
    exact (cover.reads [] 0).trans placed.length_le
  · have own := (inherited?_eq_none_iff s.definition options key).2 notInherited
    refine ⟨_, ?_, length_values_le sparse.visited (.detail key)⟩
    have start : (record.reset defaults).detail? key = some (.array items) := array
    rw [← FieldView.foldl_effects_array, ← start,
      ← (Evaluation.walkAll_tells (Account.evaluationAll accounts)).visits]
    exact (FieldView.detail key).view_writeAll own _ _

/-- The item at a location, scraped and accounted for. -/
theorem Records.run_accounts (records : s.Records) {fileName : Regex} {defaults : Details}
    (ready : s.ready = .ok (fileName, defaults)) (options : ScrapeOptions) (record : Record)
    (w : σ) :
    ∃ found exchanges w',
      (s.accounts options record.location).run ([], w) = (found, exchanges, w') ∧
        (∀ accounts, found = some accounts → Accounted s.definition exchanges accounts) ∧
        (s.definition.Single → Sparing s.definition options defaults exchanges (found.getD [])
          (answerFrom s.definition options defaults record
            (found.map Account.evaluationAll)).2) := by
  obtain ⟨seed, asked, w₁, quiet, chosen⟩ := records.run_chooseSeed options record.location
    (seeds s.definition fileName record.location) w
  simp only [accounts, ready]
  rw [StateT.run_bind, chosen]
  cases seed with
  | none =>
    refine ⟨none, asked, w₁, rfl, nofun, fun _ => ⟨List.nil_sublist _, List.nodup_nil, ?_, ?_⟩⟩
    · rw [quiet]
      exact Nat.zero_le _
    · intro key items _ array
      exact ⟨[], array.trans (congrArg (some ∘ Value.array) (List.append_nil items).symm),
        Nat.zero_le _⟩
  | some seed =>
    obtain ⟨accounts, own, w₂, cover, ran⟩ := records.run_account options seed w₁
    have run : (do
        let accounts ← s.account options seed
        pure (some accounts) : Recorded σ (Option (List Account))).run (asked, w₁) =
          (some accounts, asked ++ own, w₂) := by
      rw [StateT.run_bind, ran asked]
      rfl
    refine ⟨some accounts, asked ++ own, w₂, run, ?_, fun single => ?_⟩
    · rintro _ ⟨⟩
      exact accounted_of_cover cover asked
    · exact sparing_of_cover cover single quiet defaults record

/-- The items of a location, scraped and accounted for one after the other. -/
theorem Records.run_accountsEach (records : s.Records) (options : ScrapeOptions)
    (seeds : List Captures) (log : List Exchange) (w : σ) :
    ∃ (items : List ItemAccount) (w' : σ),
      (seeds.mapM fun seed => do
        let (accounts, own) ← apart (s.account options seed)
        pure ⟨seed, accounts, own⟩ : Recorded σ (List ItemAccount)).run (log, w) =
          (items, log ++ items.flatMap ItemAccount.exchanges, w') ∧
      (s.evaluateEach options seeds).run (log, w) =
        (items.map fun item => (item.seed, Account.evaluationAll item.accounts),
          log ++ items.flatMap ItemAccount.exchanges, w') ∧
      ∀ item ∈ items,
        Account.Cover s.definition.procedures item.seed [] item.accounts item.exchanges := by
  induction seeds generalizing log w with
  | nil =>
    refine ⟨[], w, ?_, ?_, List.forall_mem_nil _⟩
    · rw [List.flatMap_nil, List.append_nil]
      rfl
    · rw [List.flatMap_nil, List.append_nil]
      rfl
  | cons seed rest ih =>
    obtain ⟨accounts, own, w₁, cover, ran⟩ := records.run_account options seed w
    obtain ⟨items, w₂, logged, plain, covers⟩ := ih (log ++ own) w₁
    have evaluated : (s.evaluate options seed).run (log, w) =
        (Account.evaluationAll accounts, log ++ own, w₁) := by
      rw [evaluate_eq_account, StateT.run_map, ran log]
      rfl
    refine ⟨⟨seed, accounts, own⟩ :: items, w₂, ?_, ?_, List.forall_mem_cons.2 ⟨cover, covers⟩⟩
    · rw [List.mapM_cons, StateT.run_bind, StateT.run_bind, run_apart_of_run ran log,
        List.flatMap_cons, ← List.append_assoc]
      exact congrArg (fun ran : List ItemAccount × List Exchange × σ =>
        ((⟨seed, accounts, own⟩ :: ran.1, ran.2) : List ItemAccount × List Exchange × σ)) logged
    · rw [evaluateEach, List.mapM_cons, StateT.run_bind, StateT.run_bind, evaluated,
        List.flatMap_cons, ← List.append_assoc]
      exact congrArg (fun ran : List (Captures × List Evaluation) × List Exchange × σ =>
        (((seed, Account.evaluationAll accounts) :: ran.1, ran.2) :
          List (Captures × List Evaluation) × List Exchange × σ)) plain

end Scraper

/-- Whatever an operator answers, a procedure that does not repeat goes on in one match at most, and
one that repeats and whose matches nobody chose goes on in all of them, in their order. So where no
procedure repeats, each is evaluated at most once for an item; there are no more reads than
procedures, and a list that is not inherited grows by no more than there are assignments to it. -/
theorem Scraper.evaluated_at_most_once {σ : Type} (definition : Definition)
    (reader : Reader (StateM σ)) (prompter : Option (Prompter (StateM σ))) (fileName : Regex)
    (defaults : Details) (cache : SourceCache) (options : ScrapeOptions) (w : σ) :
    let s := { recording definition reader prompter with
      preparation := .ready fileName defaults, cache }
    (∀ record,
      let ran := (s.accounts options record.location).run ([], w)
      let answer := answerFrom definition options defaults record
        (ran.1.map Account.evaluationAll)
      (s.seen options record).run ([], w) = (answer, ran.2) ∧
        (∀ accounts, ran.1 = some accounts → Accounted definition ran.2.1 accounts) ∧
        (definition.Single →
          Sparing definition options defaults ran.2.1 (ran.1.getD []) answer.2)) ∧
    ∀ location create,
      let ran := (s.accountsEach options location).run ([], w)
      let item (made : ItemAccount) := itemFrom definition options defaults (create made.seed)
        (Account.evaluationAll made.accounts)
      (s.seenEach options location create).run ([], w) = (.ok (ran.1.map item), ran.2) ∧
        ran.2.1 = ran.1.flatMap ItemAccount.exchanges ∧
        ∀ made ∈ ran.1, Accounted definition made.exchanges made.accounts ∧
          (definition.Single → Sparing definition options defaults made.exchanges made.accounts
            (item made).record) := by
  intro s
  have ready : s.ready = .ok (fileName, defaults) := rfl
  have records : s.Records := ⟨⟨reader, rfl⟩, ⟨prompter, rfl⟩⟩
  constructor
  · intro record ran answer
    obtain ⟨found, exchanges, w', run, accounted, sparing⟩ :=
      records.run_accounts ready options record w
    have same : ran = (found, exchanges, w') := run
    refine ⟨?_, ?_, ?_⟩
    · rw [seen_eq ready, evaluations_eq_accounts, StateT.run_map, StateT.run_map]
      rfl
    · rw [same]
      exact accounted
    · simp only [answer, same]
      exact sparing
  · intro location create ran item
    obtain ⟨items, w', logged, plain, covers⟩ :=
      records.run_accountsEach options (seeds definition fileName location) [] w
    have same : ran = (items, items.flatMap ItemAccount.exchanges, w') := logged
    have each : (s.evaluationsEach options location).run ([], w) =
        (items.map fun item => (item.seed, Account.evaluationAll item.accounts),
          items.flatMap ItemAccount.exchanges, w') := plain
    rw [seenEach_eq ready, StateT.run_map, each, same]
    refine ⟨?_, rfl, fun made mem =>
      ⟨accounted_of_cover (covers made mem) [], fun single => ?_⟩⟩
    · have scraped : itemsFrom definition options defaults create (items.map fun item =>
          (item.seed, Account.evaluationAll item.accounts)) = items.map item := List.map_map
      rw [← scraped]
      rfl
    · exact sparing_of_cover (covers made mem) single Exchange.reads_nil defaults (create made.seed)

/-- Albums that let an operator choose among tracks keep one of them. -/
example : choosyAlbums.Single := by
  unfold Definition.Single
  decide

end Gleaner
