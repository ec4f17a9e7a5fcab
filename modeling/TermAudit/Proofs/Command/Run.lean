import TermAudit.Command.Run
import TermAudit.Proofs.Command.Options
import TermAudit.Proofs.Loading
import TermAudit.Proofs.Validation

/-!
# `TermAudit.Proofs.Command.Run`: the exit codes of `validate`

The exit code of `validate` tells three things apart: the configuration or the model is wrong, the
model has findings, or it has none. `Command.resolvedTable` and `Command.loadedModel` are what a run
finds out about the configuration and the model, and `Outcome.Answers` says that its outcome tells
so, the configuration first.

A run does not answer if something ends it from inside: a fault that no reader reports, an integer
that is too long to be written, or a text that the console cannot show. `Command.Escape` lists all
such ends.

* `Command.findings_eq`: a run goes through its stages and stops at the first that fails;
* `Command.settled`: a run with an escape crashes with the exit code of findings, and a
  run without any answers;
* `Invocation.validate_answers_iff`: so a command line of `validate` is answered exactly if nothing
  escapes.
-/

set_option autoImplicit false

namespace TermAudit

namespace Command

/-- The configuration in the file of a run; without a file it has no terms. An empty path counts as none,
as the test for an option is whether its value says anything. -/
def fileConfig (read : Text → FileContent) (o : TermOptions) : Except ConfigFailure TermsConfig :=
  match o.config with
  | none | some [] => .ok .empty
  | some path => TermsConfig.ofContent path (read (Path.normalized path))

/-- The table of a run whose options configure `added`. The file is read first, so that what is wrong in
it is told before what is wrong with the two layers together. -/
def resolvedTable (read : Text → FileContent) (o : TermOptions) (added : TermsConfig) :
    Except ConfigFailure TermTable := do
  let base ← fileConfig read o
  ((base.merged added).table TermMap.builtIn).mapError fun error => .config (.table error)

/-- The model of a run. The file is looked up under the path as the system writes it, while locations have
the name that was given. -/
def loadedModel (read : Text → FileContent) (model : Text) : Except ReadError Model :=
  Model.ofContent model (read (Path.normalized model))

/-- A configuration error in words for the console. The message can have a term or a path in it, and so
the line can mean something else to the console, or not be shown at all. -/
def configTold (e : ConfigError) : Text :=
  ("[red]Configuration error:[/red] " : Text) ++ e.message

/-- A model error in words for the console. The message begins with the place in the file, which has the
name of the file in it, and can show names from the document. All of them are read as markup here. -/
def modelTold (e : ModelError) : Text :=
  ("[red]Model error:[/red] " : Text) ++ e.message

/-- What the console says about a model without findings. The name of the model is part of the line, and
is read as markup. -/
def cleanTold (model : Text) : Text :=
  ("[green]OK[/green] " : Text) ++ model ++ (" — no non-inclusive terms found" : Text)

end Command

open Command

/-- The outcome of a run tells what the run found out about the configuration and the model. A wrong
configuration is told whatever the model is. -/
structure Outcome.Answers (o : Outcome) (console : Console) (table : Except ConfigFailure TermTable)
    (model : Except ReadError Model) : Prop where
  noCrash : o.crash = none
  clean : o.exitCode = .clean ↔
    ∃ t m, table = .ok t ∧ model = .ok m ∧ t.occurrences m.textIndex = []
  findings : o.exitCode = .findings ↔
    ∃ t m, table = .ok t ∧ model = .ok m ∧ t.occurrences m.textIndex ≠ []
  misuse : o.exitCode = .misuse ↔ (∃ e, table = .error e) ∨ ∃ e, model = .error e
  configFirst : ∀ e, table = .error e → ∃ error lines, e = .config error ∧
    console.lines (configTold error) = .ok lines ∧
    o.error = some ((Text.joinWith "\n" lines).flatMap Console.escapedSurrogate)

namespace Command

variable {console : Console} {read : Text → FileContent} {model : Text} {o : TermOptions}
  {format : OutputFormat} {append replace : TermMap}

/-- The ends of a run from inside: at the configuration, at the model, in the check, or when the console
shows what is to be told. The cases are listed in the order in which a run can come to them, and each has
the outcome of the stages before it as an index, so that a run has an escape for one reason at most. -/
inductive Escape (console : Console) (model : Text) (format : OutputFormat) :
    Except ConfigFailure TermTable → Except ReadError Model → Prop
  | configFault (fault : Yaml.Fault) (loaded : Except ReadError Model)
    (hfault : ∀ report, fault ≠ .malformed report) :
    Escape console model format (.error (.fault fault)) loaded
  | configInteger (loaded : Except ReadError Model) :
    Escape console model format (.error .overlongInteger) loaded
  | configUntold (e : ConfigError) (crash : Crash) (loaded : Except ReadError Model)
    (htold : console.lines (configTold e) = .error crash) :
    Escape console model format (.error (.config e)) loaded
  | modelFault (t : TermTable) (fault : Yaml.Fault) (hfault : ∀ report, fault ≠ .malformed report) :
    Escape console model format (.ok t) (.error (.fault fault))
  | modelUntold (t : TermTable) (e : ModelError) (crash : Crash)
    (htold : console.lines (modelTold e) = .error crash) :
    Escape console model format (.ok t) (.error (.model e))
  | path (t : TermTable) (m : Model) (hpath : ¬ m.PathsWritable) :
    Escape console model format (.ok t) (.ok m)
  | cleanUntold (t : TermTable) (m : Model) (crash : Crash)
    (hformat : format = .table) (hclean : t.occurrences m.textIndex = [])
    (htold : console.outputLines (cleanTold model) = .error crash) :
    Escape console model format (.ok t) (.ok m)
  | findingsUntold (t : TermTable) (m : Model) (ds : List Diagnostic) (crash : Crash)
    (hformat : format = .table) (hfindings : t.occurrences m.textIndex ≠ [])
    (hreports : t.check m = .ok ds)
    (htold : console.outputTable (diagnosticTable model ds) = .error crash ∨
      console.outputLines (diagnosticSummary ds) = .error crash) :
    Escape console model format (.ok t) (.ok m)

/-- The table of a run is the one that its configuration resolves to. -/
theorem table_eq (happend : TermOption.parseAll o.append = .ok append)
    (hreplace : TermOption.parseAll o.replace = .ok replace) :
    Command.table console read o =
      (resolvedTable read o ⟨append, replace⟩).mapError (refuseConfig console) := by
  have hresolved (base : TermsConfig) :
      ((base.merged ⟨append, replace⟩).table TermMap.builtIn).mapError
          (fun error => refuseConfig console (.config (.table error))) =
        (((base.merged ⟨append, replace⟩).table TermMap.builtIn).mapError
          fun error => ConfigFailure.config (.table error)).mapError (refuseConfig console) := by
    cases (base.merged ⟨append, replace⟩).table TermMap.builtIn <;> rfl
  unfold Command.table Command.configuration resolvedTable fileConfig optionTerms
  rw [happend, hreplace]
  -- Without a file, or with an empty name for it, the configuration comes from the options alone.
  rcases o.config with _ | path
  · exact hresolved .empty
  · rcases path with _ | ⟨c, path⟩
    · exact hresolved .empty
    · cases hfile : TermsConfig.ofContent (c :: path) (read (Path.normalized (c :: path))) with
      | error failure =>
        simp only [hfile, bind, Except.bind, Except.mapError]
      | ok base =>
        simp only [hfile]
        exact hresolved base

/-- The stages of a run of `validate`, from its table and its model on. The table comes first: a wrong
configuration is told without a look at the model. Each stage that fails has an outcome of its own. -/
def stages (console : Console) (model : Text) (format : OutputFormat)
    (table : Except ConfigFailure TermTable) (loaded : Except ReadError Model) :
    Except Outcome Outcome := do
  let t ← table.mapError (refuseConfig console)
  let m ← loaded.mapError (refuseModel console)
  let ds ← (t.checkWritable m).mapError refuseCheck
  return report console model format ds

/-- A run of `validate` goes through its stages. The order is all that matters here: what a stage finds is
left to the lemmas about it. -/
theorem findings_eq (happend : TermOption.parseAll o.append = .ok append)
    (hreplace : TermOption.parseAll o.replace = .ok replace) :
    findings console read model o format =
      stages console model format (resolvedTable read o ⟨append, replace⟩)
        (loadedModel read model) := by
  unfold findings
  rw [table_eq happend hreplace]
  rfl

/-- Where a run ends, at a stage or behind all of them. Both are outcomes, and nothing is done after
either of them. -/
def ended : Except Outcome Outcome → Outcome
  | .ok outcome => outcome
  | .error outcome => outcome

variable {table : Except ConfigFailure TermTable} {loaded : Except ReadError Model}

/-- What can become of a run: nothing escapes and it answers, or it crashes, which its exit code does not
tell from findings. A crash has the exit code 1 of the interpreter, and this is the code of findings as
well. -/
def Settled (console : Console) (model : Text) (format : OutputFormat)
    (table : Except ConfigFailure TermTable) (loaded : Except ReadError Model) (o : Outcome) : Prop :=
  (¬ Escape console model format table loaded ∧ o.Answers console table loaded) ∨
    (Escape console model format table loaded ∧ o.crash ≠ none ∧ o.exitCode = .findings)

/-- A crash settles a run with an escape. -/
theorem settled_of_escape {crash : Crash} (h : Escape console model format table loaded) :
    Settled console model format table loaded (.ofCrash crash) :=
  Or.inr ⟨h, by simp [Outcome.ofCrash], rfl⟩

/-- An error that can be shown is told on standard error. A surrogate in it is written as an escape. -/
theorem error_of_ok {t : Text} {lines : List Text} (h : console.lines t = .ok lines) :
    console.error t = .ofError ((Text.joinWith "\n" lines).flatMap Console.escapedSurrogate) := by
  unfold Console.error
  rw [h]

/-- An error that cannot be shown crashes the command. -/
theorem error_of_error {t : Text} {crash : Crash} (h : console.lines t = .error crash) :
    console.error t = .ofCrash crash := by
  unfold Console.error
  rw [h]

/-- An error of a configuration is told. -/
theorem refuseConfig_config (e : ConfigError) :
    refuseConfig console (.config e) = console.error (configTold e) := by
  unfold refuseConfig configTold
  rfl

/-- An error of a model is told. -/
theorem refuseModel_model (e : ModelError) :
    refuseModel console (.model e) = console.error (modelTold e) := by
  unfold refuseModel modelTold
  rfl

/-- A run answers with a text on a wrong configuration, or on a wrong model. -/
theorem answers_of_misuse {t : Text} (hwrong : (∃ e, table = .error e) ∨ ∃ e, loaded = .error e)
    (hconfig : ∀ e, table = .error e → ∃ error lines, e = .config error ∧
      console.lines (configTold error) = .ok lines ∧
      t = (Text.joinWith "\n" lines).flatMap Console.escapedSurrogate) :
    (Outcome.ofError t).Answers console table loaded := by
  have hnot (P : TermTable → Model → Prop) :
      ¬ ∃ t m, table = .ok t ∧ loaded = .ok m ∧ P t m := by
    rintro ⟨t, m, rfl, rfl, -⟩
    rcases hwrong with ⟨e, he⟩ | ⟨e, he⟩
    · cases he
    · cases he
  refine ⟨rfl, iff_of_false (by simp [Outcome.ofError]) (hnot _),
    iff_of_false (by simp [Outcome.ofError]) (hnot _), iff_of_true rfl hwrong, fun e he => ?_⟩
  obtain ⟨error, lines, hkind, hlines, rfl⟩ := hconfig e he
  exact ⟨error, lines, hkind, hlines, rfl⟩

/-- A run whose configuration is wrong. -/
theorem settled_of_config_error {e : ConfigFailure} (he : e.Left) :
    Settled console model format (.error e) loaded (refuseConfig console e) := by
  cases he with
  | fault fault hfault => exact settled_of_escape (.configFault fault loaded hfault)
  | overlongInteger => exact settled_of_escape (.configInteger loaded)
  | config error =>
    -- The error has to be told on the console, and this can fail itself.
    rw [refuseConfig_config]
    cases hlines : console.lines (configTold error) with
    | error crash =>
      rw [error_of_error hlines]
      exact settled_of_escape (.configUntold error crash loaded hlines)
    | ok lines =>
      rw [error_of_ok hlines]
      refine Or.inl ⟨fun h => ?_, answers_of_misuse (Or.inl ⟨_, rfl⟩) fun e he => ?_⟩
      · cases h with
        | configUntold _ crash _ htold =>
          rw [hlines] at htold
          cases htold
      · cases he
        exact ⟨error, lines, rfl, hlines, rfl⟩

/-- A run whose model is wrong. -/
theorem settled_of_model_error {t : TermTable} {e : ReadError} (he : e.Left) :
    Settled console model format (.ok t) (.error e) (refuseModel console e) := by
  cases he with
  | fault fault hfault => exact settled_of_escape (.modelFault t fault hfault)
  | model error =>
    rw [refuseModel_model]
    cases hlines : console.lines (modelTold error) with
    | error crash =>
      rw [error_of_error hlines]
      exact settled_of_escape (.modelUntold t error crash hlines)
    | ok lines =>
      rw [error_of_ok hlines]
      refine Or.inl ⟨fun h => ?_, answers_of_misuse (Or.inr ⟨_, rfl⟩) fun e he => by cases he⟩
      cases h with
      | modelUntold _ _ crash htold =>
        rw [hlines] at htold
        cases htold

/-- There are as many diagnostics as occurrences. -/
theorem occurrences_eq_nil_iff {t : TermTable} {m : Model} {ds : List Diagnostic}
    (hreports : List.Forall₂ t.Reports (t.occurrences m.textIndex) ds) :
    t.occurrences m.textIndex = [] ↔ ds = [] := by
  rw [← List.length_eq_zero_iff, hreports.length_eq, List.length_eq_zero_iff]

/-- The exit code of a report tells whether there are findings. -/
theorem answers_of_exitCode {t : TermTable} {m : Model} {ds : List Diagnostic} {outcome : Outcome}
    (hreports : List.Forall₂ t.Reports (t.occurrences m.textIndex) ds)
    (hcrash : outcome.crash = none)
    (hexit : outcome.exitCode = if ds.isEmpty then .clean else .findings) :
    outcome.Answers console (.ok t) (.ok m) := by
  have hmisuse : ¬ ((∃ e, (Except.ok t : Except ConfigFailure TermTable) = .error e) ∨
      ∃ e, (Except.ok m : Except ReadError Model) = .error e) := by
    rintro (⟨e, h⟩ | ⟨e, h⟩) <;> cases h
  -- The exit code for misuse needs a failure that there is not, and the other two divide the reports.
  cases ds with
  | nil =>
    have hnone := (occurrences_eq_nil_iff hreports).mpr rfl
    refine ⟨hcrash, iff_of_true hexit ⟨t, m, rfl, rfl, hnone⟩, iff_of_false (by simp [hexit]) ?_,
      iff_of_false (by simp [hexit]) hmisuse, ?_⟩
    · rintro ⟨t', m', ht, hm, hsome⟩
      cases ht
      cases hm
      exact hsome hnone
    · intro e he
      cases he
  | cons d ds =>
    have hsome := mt (occurrences_eq_nil_iff hreports).mp (List.cons_ne_nil d ds)
    refine ⟨hcrash, iff_of_false (by simp [hexit]) ?_, iff_of_true hexit ⟨t, m, rfl, rfl, hsome⟩,
      iff_of_false (by simp [hexit]) hmisuse, ?_⟩
    · rintro ⟨t', m', ht, hm, hnone⟩
      cases ht
      cases hm
      exact hsome hnone
    · intro e he
      cases he

/-- A report in JSON is never kept back. -/
theorem report_json (c : Console) (model : Text) (ds : List Diagnostic) :
    (report c model .json ds).crash = none ∧
      (report c model .json ds).exitCode = if ds.isEmpty then .clean else .findings :=
  ⟨rfl, rfl⟩

/-- What the console has to show when there are no findings. -/
theorem report_clean :
    report console model .table [] = console.text .clean (cleanTold model) := by
  simp only [report, cleanTold, List.isEmpty_nil, if_true]

/-- What the console has to show when there are findings. -/
theorem report_findings (d : Diagnostic) (ds : List Diagnostic) :
    report console model .table (d :: ds) =
      console.table .findings (diagnosticTable model (d :: ds)) [diagnosticSummary (d :: ds)] := by
  simp only [report, List.isEmpty_cons, Bool.false_eq_true, if_false]

/-- A text that the console shows is the output of the run. -/
theorem text_shown (c : Console) (exitCode : ExitCode) (t : Text) :
    (∃ crash, c.outputLines t = .error crash ∧ c.text exitCode t = .ofCrash crash) ∨
      ((∀ crash, c.outputLines t ≠ .error crash) ∧ (c.text exitCode t).crash = none ∧
        (c.text exitCode t).exitCode = exitCode) := by
  unfold Console.text
  cases hlines : c.outputLines t with
  | error crash => exact Or.inl ⟨crash, rfl, rfl⟩
  | ok lines =>
    refine Or.inr ⟨?_, rfl, rfl⟩
    intro crash h
    cases h

/-- A table that the console shows, and the text below it, are the output of the run. -/
theorem table_shown (c : Console) (exitCode : ExitCode) (layout : ConsoleTable Text) (below : Text) :
    (∃ crash, (c.outputTable layout = .error crash ∨ c.outputLines below = .error crash) ∧
        c.table exitCode layout [below] = .ofCrash crash) ∨
      ((∀ crash, c.outputTable layout ≠ .error crash ∧
          c.outputLines below ≠ .error crash) ∧
        (c.table exitCode layout [below]).crash = none ∧
        (c.table exitCode layout [below]).exitCode = exitCode) := by
  unfold Console.table
  cases hlayout : c.outputTable layout with
  | error crash => exact Or.inl ⟨crash, Or.inl rfl, rfl⟩
  | ok shown =>
    rw [List.mapM_cons, List.mapM_nil]
    cases hbelow : c.outputLines below with
    | error crash => exact Or.inl ⟨crash, Or.inr rfl, rfl⟩
    | ok lines =>
      refine Or.inr ⟨?_, rfl, rfl⟩
      intro crash
      constructor
      · intro h
        cases h
      · intro h
        cases h

section Report

variable {t : TermTable} {m : Model}

/-- JSON is written without a console that could fail to show it. -/
theorem settled_of_report_json {ds : List Diagnostic} (hpaths : m.PathsWritable)
    (hreports : List.Forall₂ t.Reports (t.occurrences m.textIndex) ds) :
    Settled console model .json (.ok t) (.ok m) (report console model .json ds) := by
  have hshown := report_json console model ds
  refine Or.inl ⟨fun h => ?_, answers_of_exitCode hreports hshown.1 hshown.2⟩
  cases h with
  | path _ _ hpath => exact hpath hpaths
  | cleanUntold _ _ _ hformat => cases hformat
  | findingsUntold _ _ _ _ hformat => cases hformat

/-- A report without findings is one line. It is told, or the name of the model cannot be shown in it. -/
theorem settled_of_report_clean (hpaths : m.PathsWritable)
    (hreports : List.Forall₂ t.Reports (t.occurrences m.textIndex) []) :
    Settled console model .table (.ok t) (.ok m) (report console model .table []) := by
  have hnone := (occurrences_eq_nil_iff hreports).mpr rfl
  rw [report_clean]
  rcases text_shown console .clean (cleanTold model) with
    ⟨crash, htold, hcrash⟩ | ⟨htold, hcrash, hexit⟩
  · rw [hcrash]
    exact settled_of_escape (.cleanUntold t m crash rfl hnone htold)
  · refine Or.inl ⟨fun h => ?_, answers_of_exitCode hreports hcrash hexit⟩
    cases h with
    | path _ _ hpath => exact hpath hpaths
    | cleanUntold _ _ crash _ _ hcrash => exact htold crash hcrash
    | findingsUntold _ _ _ _ _ hsome => exact hsome hnone

/-- A report with findings is a table and a line. They are told, or something in them cannot be shown. -/
theorem settled_of_report_findings {d : Diagnostic} {ds : List Diagnostic} (hpaths : m.PathsWritable)
    (hds : t.check m = .ok (d :: ds))
    (hreports : List.Forall₂ t.Reports (t.occurrences m.textIndex) (d :: ds)) :
    Settled console model .table (.ok t) (.ok m) (report console model .table (d :: ds)) := by
  have hsome := mt (occurrences_eq_nil_iff hreports).mp (List.cons_ne_nil d ds)
  rw [report_findings]
  rcases table_shown console .findings (diagnosticTable model (d :: ds))
      (diagnosticSummary (d :: ds)) with ⟨crash, htold, hcrash⟩ | ⟨htold, hcrash, hexit⟩
  · rw [hcrash]
    exact settled_of_escape (.findingsUntold t m _ crash rfl hsome hds htold)
  · refine Or.inl ⟨fun h => ?_, answers_of_exitCode hreports hcrash hexit⟩
    cases h with
    | path _ _ hpath => exact hpath hpaths
    | cleanUntold _ _ _ _ hnone => exact hsome hnone
    | findingsUntold _ _ ds' crash _ _ hds' hcrash =>
      -- The check gives one list of diagnostics only, and the console has shown that one.
      rw [hds] at hds'
      cases hds'
      rcases hcrash with hcrash | hcrash
      · exact (htold crash).1 hcrash
      · exact (htold crash).2 hcrash

/-- A run over a model that can be checked. -/
theorem settled_of_report {ds : List Diagnostic} (hpaths : m.PathsWritable)
    (hds : t.check m = .ok ds)
    (hreports : List.Forall₂ t.Reports (t.occurrences m.textIndex) ds) :
    Settled console model format (.ok t) (.ok m) (report console model format ds) := by
  cases format with
  | json => exact settled_of_report_json hpaths hreports
  | table =>
    cases ds with
    | nil => exact settled_of_report_clean hpaths hreports
    | cons d ds => exact settled_of_report_findings hpaths hds hreports

end Report

/-- A run over a model that can be loaded. -/
theorem settled_of_model {t : TermTable} (hnil : [] ∉ t.terms.keys) (m : Model) :
    Settled console model format (.ok t) (.ok m)
      (ended (stages console model format (.ok t) (.ok m))) := by
  obtain ⟨ds, hds, hreports⟩ := TermTable.check_reports hnil m
  show Settled _ _ _ _ _ (ended (do
    let ds ← (t.checkWritable m).mapError refuseCheck
    return report console model format ds))
  cases hpath : m.hasUnwritablePath with
  | true =>
    rw [TermTable.checkWritable_of_unwritable hpath]
    refine settled_of_escape (.path t m ?_)
    rw [← Model.hasUnwritablePath_eq_false_iff, hpath]
    simp
  | false =>
    rw [TermTable.checkWritable_of_writable hpath hds]
    exact settled_of_report (Model.hasUnwritablePath_eq_false_iff.mp hpath) hds hreports

/-- A run is settled, whatever its stages find out. The proof follows the stages, and each of them either
hands on what it has found or ends the run in one of the two ways. -/
theorem settled (htable : ∀ e, table = .error e → e.Left)
    (hterms : ∀ t, table = .ok t → [] ∉ t.terms.keys)
    (hloaded : ∀ e, loaded = .error e → e.Left) :
    Settled console model format table loaded
      (ended (stages console model format table loaded)) := by
  cases table with
  | error e => exact settled_of_config_error (htable e rfl)
  | ok t =>
    cases loaded with
    | error e => exact settled_of_model_error (hloaded e rfl)
    | ok m => exact settled_of_model (hterms t rfl) m

/-- What comes out of a run in place of its table. -/
theorem left_of_resolvedTable {added : TermsConfig} {e : ConfigFailure}
    (hpaths : ∀ path, o.config = some path → Path.isImpossible path = false)
    (h : resolvedTable read o added = .error e) : e.Left := by
  unfold resolvedTable at h
  rcases bind_eq_error_iff.mp h with h | ⟨base, -, h⟩
  · unfold fileConfig at h
    split at h
    · cases h
    · cases h
    · rename_i path _ hconfig
      exact TermsConfig.left_of_ofContent (hpaths path hconfig) h
  · cases htable : (base.merged added).table TermMap.builtIn with
    | error error =>
      rw [htable] at h
      cases h
      exact .config _
    | ok t =>
      rw [htable] at h
      cases h

/-- No term of a table is empty. -/
theorem nil_notMem_of_resolvedTable {added : TermsConfig} {t : TermTable}
    (h : resolvedTable read o added = .ok t) : [] ∉ t.terms.keys := by
  unfold resolvedTable at h
  obtain ⟨base, -, h⟩ := bind_eq_ok_iff.mp h
  exact TermTable.nil_notMem_keys_of_resolve (mapError_eq_ok_iff.mp h)

end Command

namespace Invocation

/-- A command line of `validate` with well-formed options is answered exactly if nothing ends the run
from inside: its exit code tells a wrong configuration or model, findings, and a clean model apart.
A run that is ended from inside has the exit code of findings. -/
theorem validate_answers_iff {console : Console} {read : Text → FileContent}
    {arguments : List Text} {model : Text} {o : TermOptions} {format : OutputFormat}
    (hparse : parse (Path.isDirectory read) arguments = .ok (.validate model o format))
    (happend : ∀ value ∈ o.append, CodePoint.ofChar '=' ∈ value)
    (hreplace : ∀ value ∈ o.replace, CodePoint.ofChar '=' ∈ value) :
    ∃ added : TermsConfig, TermOption.parseAll o.append = .ok added.append ∧
      TermOption.parseAll o.replace = .ok added.replace ∧
      ((runArguments console read arguments).Answers console (resolvedTable read o added)
          (loadedModel read model) ↔
        ¬ Escape console model format (resolvedTable read o added) (loadedModel read model)) ∧
      (Escape console model format (resolvedTable read o added) (loadedModel read model) →
        (runArguments console read arguments).crash ≠ none ∧
          (runArguments console read arguments).exitCode = .findings) := by
  obtain ⟨append, happend⟩ := TermOption.exists_parseAll_eq_ok happend
  obtain ⟨replace, hreplace⟩ := TermOption.exists_parseAll_eq_ok hreplace
  obtain ⟨hmodel, hconfig⟩ := possible_of_parse_validate hparse
  refine ⟨⟨append, replace⟩, happend, hreplace, ?_⟩
  -- With all options well written the run is its stages, and these are settled for any table and model.
  have hrun : runArguments console read arguments =
      ended (stages console model format (resolvedTable read o ⟨append, replace⟩)
        (loadedModel read model)) := by
    unfold runArguments
    rw [hparse]
    show (match findings console read model o format with
      | .ok outcome => outcome
      | .error outcome => outcome) = _
    rw [findings_eq happend hreplace]
    rfl
  rw [hrun]
  have hsettled : Settled console model format (resolvedTable read o ⟨append, replace⟩)
      (loadedModel read model) _ := settled (fun e => left_of_resolvedTable hconfig)
    (fun t => nil_notMem_of_resolvedTable) (fun e => Model.left_of_ofContent hmodel)
  rcases hsettled with ⟨hescape, hanswers⟩ | ⟨hescape, hcrash, hexit⟩
  · exact ⟨iff_of_true hanswers hescape, fun h => absurd h hescape⟩
  · exact ⟨iff_of_false (fun h => hcrash h.noCrash) (fun h => h hescape), fun _ => ⟨hcrash, hexit⟩⟩

/-- The theorem at a run over an empty file with a term from the command line. -/
theorem validate_answers_iff_append :
    let read : Text → FileContent := fun _ => .ok []
    let arguments : List Text := ["validate", "m.json", "--append", "blackhat=attacker"]
    let o : TermOptions := ⟨none, ["blackhat=attacker"], []⟩
    ∃ added : TermsConfig, TermOption.parseAll o.append = .ok added.append ∧
      TermOption.parseAll o.replace = .ok added.replace ∧
      ((runArguments ⟨80⟩ read arguments).Answers ⟨80⟩ (resolvedTable read o added)
          (loadedModel read "m.json") ↔
        ¬ Escape ⟨80⟩ "m.json" .table (resolvedTable read o added) (loadedModel read "m.json")) ∧
      (Escape ⟨80⟩ "m.json" .table (resolvedTable read o added) (loadedModel read "m.json") →
        (runArguments ⟨80⟩ read arguments).crash ≠ none ∧
          (runArguments ⟨80⟩ read arguments).exitCode = .findings) :=
  validate_answers_iff (by decide +kernel) (by decide +kernel) (by decide +kernel)

/-- A model file that is not UTF-8 cannot be loaded, and still the run ends with the exit code of
findings. -/
theorem validate_undecodable :
    let read : Text → FileContent := fun _ => .ok [0xFF]
    let outcome := runArguments ⟨80⟩ read ["validate", "m.yaml"]
    (∃ e, loadedModel read "m.yaml" = .error e) ∧ outcome.exitCode = .findings ∧
      outcome.crash = some (.fault .notUtf8) := by
  refine ⟨⟨.fault .notUtf8, rfl⟩, by decide +kernel, by decide +kernel⟩

end Invocation

end TermAudit
