import Gleaner.Proofs.Completeness
import Gleaner.Proofs.Terminal

set_option autoImplicit false

/-!
What the program puts out of an item, and the number it ends with. The record is printed and each of
its warnings is noted on a line; the labels on these lines tell how the program ends. Main statement:
`Report.Accounts.shows`.
-/
namespace Gleaner

/-- A line that is noted: a label, and a text after it. -/
structure NotedLine where
  label : String
  text : String

def NotedLine.spelled (line : NotedLine) : String :=
  line.label ++ ": " ++ line.text ++ "\n"

namespace Warning

/-- The line of a warning. Where a procedure came to no matches it is labelled as failed. -/
inductive Told : Warning → NotedLine → Prop
  | malformedReference (template : String) (offset : Nat) :
      Told (.malformedReference template offset)
        ⟨"warning", "malformed backreference at offset " ++ toString offset ++ " in " ++
          Text.quoted template⟩
  | unreadable (reference reason : String) :
      Told (.unreadable reference reason)
        ⟨"failed", "could not read " ++ reference ++ ": " ++ reason⟩
  | invalidPattern (pattern : String) :
      Told (.invalidPattern pattern)
        ⟨"failed", "invalid search pattern " ++ Text.quoted pattern ++ ": "⟩
  | noMatches (pattern reference : String) :
      Told (.noMatches pattern reference)
        ⟨"failed", "no matches for " ++ Text.quoted pattern ++ " in " ++ reference⟩
  | rejected (field : String) (expected found : ValueKind) :
      Told (.rejected field expected found)
        ⟨"warning", "cannot set " ++ field ++ ": expected " ++ expected.name ++ ", found " ++
          found.name⟩

/-- The line of a warning, made up from what is known of it otherwise. -/
def line (warning : Warning) : NotedLine :=
  ⟨if warning.isFailure then "failed" else "warning", warning.message⟩

theorem told_line (warning : Warning) : warning.Told warning.line := by
  cases warning with
  | malformedReference template offset => exact .malformedReference template offset
  | unreadable reference reason => exact .unreadable reference reason
  | invalidPattern pattern => exact .invalidPattern pattern
  | noMatches pattern reference => exact .noMatches pattern reference
  | rejected field expected found => exact .rejected field expected found

theorem spelled_line (warning : Warning) :
    warning.line.spelled = Command.warningLine warning := by
  rw [line, NotedLine.spelled, Command.warningLine]
  cases warning.isFailure <;> rfl

theorem label_line_iff (warning : Warning) :
    warning.line.label = "failed" ↔ warning.isFailure = true := by
  rw [line]
  cases warning.isFailure with
  | true => exact iff_of_true rfl rfl
  | false => exact iff_of_false (show "warning" ≠ "failed" by decide) nofun

/-- A line is labelled as failed just if one of the warnings is a failure. -/
theorem exists_failed_iff (warnings : List Warning) :
    (∃ l ∈ warnings.map line, l.label = "failed") ↔ warnings.any isFailure = true := by
  simp only [List.mem_map, exists_exists_and_eq_and, label_line_iff, List.any_eq_true]

theorem forall_unfailed_iff (warnings : List Warning) :
    (∀ l ∈ warnings.map line, l.label ≠ "failed") ↔ warnings.any isFailure = false := by
  rw [← Bool.not_eq_true, ← exists_failed_iff]
  simp only [not_exists, not_and]

end Warning

/-- The document of an image. -/
def Image.document (image : Image) : Tree :=
  .table [("reference", .text image.reference), ("import", .boolean image.importing)]

/-- The entries that a record is told with: what is set, under its keys, and nothing else. -/
structure Record.Told (record : Record) (entries : List (String × Tree)) : Prop where
  keys : (entries.map Prod.fst).Sublist
    ["location", "name", "description", "details", "icons", "fanart"]
  location : entries.lookup "location" = some (.text record.location)
  name : entries.lookup "name" = record.name.map .text
  description : entries.lookup "description" = record.description.map .text
  details : entries.lookup "details" = some (.table (Value.toEntries record.details.entries))
  icons : entries.lookup "icons" = some (.list (record.icons.map Image.document))
  fanart : entries.lookup "fanart" = some (.list (record.fanart.map Image.document))

theorem Record.exists_told (record : Record) :
    ∃ entries, record.Told entries ∧ record.toTree = .table entries := by
  refine ⟨_, ?_, rfl⟩
  obtain ⟨location, name, description, details, icons, fanart⟩ := record
  -- What is not set has no entry, so that the keys are known only case by case.
  cases name <;> cases description <;>
    exact ⟨List.isSublist_iff_sublist.1 rfl, rfl, rfl, rfl, rfl, rfl, rfl⟩

/-- What is put out of an item, and the number that the program ends with: the record, in an indented
document, and a line for each warning. The number is 2 just if a line is labelled as failed, and it
is 0 just if none is. -/
structure Shows (record : Record) (report : Report) (lines : List NotedLine)
    (ended : Nat × Screen) : Prop where
  printed : ∃ entries, record.Told entries ∧
    ended.2.printed = [Json.writeIndented (.table entries) ++ "\n"]
  told : List.Forall₂ Warning.Told report.warnings lines
  noted : ended.2.noted = [String.join (lines.map NotedLine.spelled)]
  incomplete : ended.1 = 2 ↔ ∃ line ∈ lines, line.label = "failed"
  complete : ended.1 = 0 ↔ ∀ line ∈ lines, line.label ≠ "failed"

namespace Screen

/-- The screen when nothing but an item was shown. -/
def ofItem (record : Record) (report : Report) : Screen where
  printed := [Json.writeIndented record.toTree ++ "\n"]
  noted := [String.join (report.warnings.map Command.warningLine)]

/-- The screen when nothing but an error was told of. -/
def ofError (e : CommandError) : Screen where
  printed := []
  noted := [e.text]

end Screen

/-- A report that is no mismatch is complete unless it tells of a failure. -/
theorem Command.exitCode_of_accounts {report : Report} {found : List Evaluation}
    (accounts : report.Accounts found) :
    (exitCode report.outcome).number = if report.warnings.any Warning.isFailure then 2 else 0 := by
  rw [accounts.outcome]
  by_cases none : Evaluation.failuresAll found = 0
  · have mild := countP_isFailure_eq_zero.1 (accounts.failures.trans none)
    have unfailed : report.warnings.any Warning.isFailure = false :=
      List.any_eq_false.2 fun warning mem => ne_true_of_eq_false (mild warning mem)
    rw [if_pos none, unfailed]
    rfl
  · have some : 0 < report.warnings.countP Warning.isFailure := by
      rw [accounts.failures]
      omega
    have failed : report.warnings.any Warning.isFailure = true :=
      List.any_eq_true.2 (List.countP_pos_iff.1 some)
    rw [if_neg none, failed]
    rfl

/-- The item of a report that tells its failures is shown as a whole. -/
theorem Report.Accounts.shows {report : Report} {found : List Evaluation}
    (accounts : report.Accounts found) (record : Record) :
    ∃ lines, Shows record report lines
      ((Command.exitCode report.outcome).number, .ofItem record report) := by
  obtain ⟨entries, tells, document⟩ := record.exists_told
  refine ⟨report.warnings.map Warning.line, ⟨entries, tells, ?_⟩, ?_, ?_, ?_, ?_⟩
  · rw [← document]
    rfl
  · exact List.forall₂_map_right_iff.2 (List.forall₂_same.2 fun warning _ => warning.told_line)
  · simp only [Screen.ofItem, List.map_map, Function.comp_def, Warning.spelled_line]
  · rw [Warning.exists_failed_iff, Command.exitCode_of_accounts accounts]
    cases report.warnings.any Warning.isFailure <;> simp
  · rw [Warning.forall_unfailed_iff, Command.exitCode_of_accounts accounts]
    cases report.warnings.any Warning.isFailure <;> simp

/-- How the program ends with what a command came to. -/
def CommandLine.finish {m : Type → Type} [Monad m] (console : Console m) :
    Except CommandError ExitCode → m ExitCode
  | .ok code => pure code
  | .error e => do
      console.note e.text
      pure .failure

/-- The program runs a command, and finishes with what it came to. -/
theorem CommandLine.perform_run {m : Type → Type} [Monad m] (s : Surroundings m)
    (explicit : Option String) (command : Command) :
    CommandLine.perform s (.run explicit command) =
      command.run s explicit >>= CommandLine.finish s.console := by
  simp only [CommandLine.perform]
  refine congrArg _ (funext fun done => ?_)
  cases done <;> rfl

variable {σ : Type}

/-- A terminal where something may be typed. -/
def Surroundings.attended (store : FileStore (StateM σ)) (environment : Environment)
    (web : Reader (StateM σ)) (readLine : StateT Screen (StateM σ) (List UInt8)) :
    Surroundings (StateT Screen (StateM σ)) :=
  { Surroundings.unattended store environment web with
    console := { Console.unattended with readLine } }

/-- The number that a program ends with, what it puts out on an empty screen, and the outside after
it. -/
def Screen.after (program : StateT Screen (StateM σ) ExitCode) (w : σ) : (Nat × Screen) × σ :=
  ((ExitCode.number <$> program).run {}).run w

/-- How the program ends that scrapes with given settings and a given catalog. -/
def Command.leaves (s : Surroundings (StateT Screen (StateM σ))) (settings : Settings)
    (catalog : Catalog) (what : ScrapeCommand) : σ → (Nat × Screen) × σ :=
  Screen.after (perform s settings catalog (.scrape what) >>= CommandLine.finish s.console)

/-- Settings are loaded, and then the catalog that they name, and nothing is put out. -/
def Surroundings.Loads (s : Surroundings (StateT Screen (StateM σ))) (explicit : Option String)
    (before : σ) (settings : Settings) (catalog : Catalog) (after : σ) : Prop :=
  ∃ between,
    ((Settings.load s.store s.environment explicit).run {}).run before =
        ((.ok settings, {}), between) ∧
      ((Catalog.load s.store settings.types settings.scrapers).run {}).run between =
        ((.ok catalog, {}), after)

/-- A command line that scrapes ends as its settings and its catalog have it. -/
theorem Surroundings.Loads.after_perform {s : Surroundings (StateT Screen (StateM σ))}
    {explicit : Option String} {before after : σ} {settings : Settings} {catalog : Catalog}
    (loads : s.Loads explicit before settings catalog after) (what : ScrapeCommand) :
    Screen.after (CommandLine.perform s (.run explicit (.scrape what))) before =
      Command.leaves s settings catalog what after := by
  obtain ⟨between, settingsLoaded, catalogLoaded⟩ := loads
  simp only [Screen.after, Command.leaves, CommandLine.perform_run, Command.run, bind_assoc, map_bind,
    run_run_bind, settingsLoaded, catalogLoaded]

end Gleaner
