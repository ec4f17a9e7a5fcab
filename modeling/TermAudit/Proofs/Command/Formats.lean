import TermAudit.Proofs.Command.Rows
import TermAudit.Proofs.Command.Terms

/-!
# `TermAudit.Proofs.Command.Formats`: what both formats of `validate` say

With the format JSON a run of `validate` prints an array with an object for each finding, and with the
format table a row for each. `Outcome.SameReport` says that two such runs report the same: their exit codes
are equal, and each object stands for the row of the table in its place, cell by cell, where white space
around a cell does not count. This is asked of rows that have room in the columns of the table, and of all
rows if the console is wide enough for them (`ReportFits`).

The texts of a model are written into the table as they are, and the console reads them as lines with
style tags. So what is shown is what is written only if the rows are verbatim (`Diagnostic.IsVerbatim`), and
a model whose name makes no sense as such a line is not reported at all. `Command.Renders` puts this
together.

* `Command.exists_summaryLines`: the line below a table can always be shown;
* `Command.sameReport_iff_renders`: the formats report the same exactly if the table renders the report;
* `Command.renders_of_ordinaryReport`: a report is rendered if nothing in it means anything on the console;
* `Invocation.validate_formats_agree_iff`: for every run of `validate` that can load its configuration and
  its model the formats report the same exactly if the table renders the report.
-/

set_option autoImplicit false

namespace TermAudit

/-- Two runs report the same, one with the objects in JSON and one with a table. The exit codes agree, and
each object stands for the row in its place. What is drawn is compared up to white space at the ends of a
cell, since a column pads its cells. Rows that have no room are not asked for on a narrow console, which
wraps and shortens them. -/
structure Outcome.SameReport (console : Console) (objects : List Json) (json table : Outcome) : Prop where
  printed : json.output = .text ((Json.array objects).printed ++ ("\n" : Text))
  exitCode : json.exitCode = table.exitCode
  rows : ∃ rows, objects.mapM Json.reportedRow? = some rows ∧
    (rows ≠ [] → ∃ layout below, table.output = .table layout below ∧
      List.Forall₂ (fun row lines => layout.HasRoom row ∨ ReportFits console rows →
        ∃ drawn, lines = [drawn] ∧ drawn.map Text.strip = row.map Text.strip) rows layout.bodyLines)

namespace Command

/-- The console can show what the table says about a model, and the texts in its rows mean nothing else
than what they say. A report without findings is one line with the name of the model in it, and there is
no row that could be misread. So it is enough there that the line is shown. -/
inductive Renders (console : Console) (model : Text) (ds : List Diagnostic) : Prop
  | clean (lines : List Text) (hnone : ds = []) (hshown : console.outputLines (cleanTold model) = .ok lines)
  | findings (layout : TableLayout) (hsome : ds ≠ [])
    (hshown : console.outputTable (diagnosticTable model ds) = .ok layout)
    (hverbatim : ∀ d ∈ ds,
      layout.HasRoom d.reportedRow ∨ ReportFits console (ds.map Diagnostic.reportedRow) → d.IsVerbatim)

/-- Nothing in a report can mean anything on the console: the name of the model is ordinary, and the texts
in the rows are verbatim and can be written. This says nothing about the console, and is a condition that
can be checked before the command is run. -/
structure OrdinaryReport (model : Text) (ds : List Diagnostic) : Prop where
  name : model.IsOrdinary
  verbatim : ∀ d ∈ ds, d.IsVerbatim
  written : ∀ d ∈ ds, ∀ c ∈ d.shapeCell ++ d.message, c.isSurrogate = false

variable {console : Console} {model : Text} {ds : List Diagnostic} {layout : TableLayout}

/-! ## The line below a table -/

/-- What stands behind the tags of the line below a table. It has digits and words alone, so the line is
shown on every console, whatever has been found. -/
def summaryCount (ds : List Diagnostic) : Text :=
  (" " : Text) ++ Text.ofNat ds.length ++ (" warning(s)" : Text)

/-- No tag of the line reaches into what stands behind. -/
theorem pieces_diagnosticSummary (ds : List Diagnostic) : Markup.pieces (diagnosticSummary ds) =
    [.plain "\n", .plain [], .tag "bold", .plain "Summary:", .plain [], .tag "/bold"] ++
      Markup.pieces (summaryCount ds) :=
  rfl

/-- The count of findings is digits and words. -/
theorem isOrdinary_summaryCount (ds : List Diagnostic) : (summaryCount ds).IsOrdinary :=
  have hspace : Text.IsOrdinary " " := by decide
  have hrest : Text.IsOrdinary " warning(s)" := by decide
  (hspace.append (.ofNat ds.length)).append hrest

/-- The line below a table is always shown. It has the tags of the program and a number, and nothing from
the model. -/
theorem exists_summaryLines (console : Console) (ds : List Diagnostic) :
    ∃ lines, console.outputLines (diagnosticSummary ds) = .ok lines := by
  have hread : Markup.read (diagnosticSummary ds) =
      .ok ⟨("\nSummary:" : Text) ++ Markup.shownText (summaryCount ds), [⟨1, 9, some "bold"⟩]⟩ := by
    have htags : [Markup.Piece.plain "\n", .plain [], .tag "bold", .plain "Summary:", .plain [],
          .tag "/bold"].foldlM Markup.State.add ⟨[], 0, [], []⟩ =
        .ok ⟨("\nSummary:" : Text).reverse, 9, [], [⟨1, 9, some "bold"⟩]⟩ := rfl
    unfold Markup.read
    rw [pieces_diagnosticSummary, (isOrdinary_summaryCount ds).isPlain.pieces_eq, List.foldlM_append, htags]
    simp [Markup.State.add, Markup.State.addText, Markup.State.styled, bind, Except.bind, pure, Except.pure]
  -- The style is one that is known, and neither the words nor the numbers have surrogates.
  refine Console.exists_outputLines hread
    ⟨fun span hspan definition hdefinition => ?_, fun c hc => ?_⟩ console
  · rw [List.mem_singleton.mp hspan] at hdefinition
    cases hdefinition
    exact ⟨"bold", by decide +kernel⟩
  · rcases List.mem_append.mp hc with hc | hc
    · exact (by decide : ∀ c ∈ ("\nSummary:" : Text), c.isSurrogate = false) c hc
    · rw [(isOrdinary_summaryCount ds).isPlain.shownText_eq] at hc
      exact (isOrdinary_summaryCount ds c (List.mem_of_mem_filter hc)).2

/-! ## Reports -/

/-- The objects of a report stand for its rows. -/
theorem mapM_reportedRow? (ds : List Diagnostic) :
    (ds.map Diagnostic.json).mapM Json.reportedRow? = some (ds.map Diagnostic.reportedRow) := by
  induction ds with
  | nil => rfl
  | cons d ds ih =>
    rw [List.map_cons, List.mapM_cons, Json.reportedRow?_json, ih]
    rfl

/-- What becomes of a report with findings as a table. -/
theorem table_eq_of_outputTable (console : Console) (model : Text) (d : Diagnostic)
    (ds : List Diagnostic) : report console model .table (d :: ds) =
      match console.outputTable (diagnosticTable model (d :: ds)) with
      | .ok layout => ⟨.table layout ((console.outputLines (diagnosticSummary (d :: ds))).toOption.getD []),
          none, .findings, none⟩
      | .error crash => .ofCrash crash := by
  obtain ⟨lines, hlines⟩ := exists_summaryLines console (d :: ds)
  rw [report_findings]
  unfold Console.table
  rw [List.mapM_cons, List.mapM_nil, hlines]
  cases console.outputTable (diagnosticTable model (d :: ds)) with
  | error crash => rfl
  | ok layout =>
    show (⟨.table layout [lines].flatten, none, .findings, none⟩ : Outcome) = _
    rw [List.flatten_singleton]
    rfl

/-- Without findings both formats report the same exactly if the console shows that there are none. -/
theorem sameReport_nil_iff (console : Console) (model : Text) :
    Outcome.SameReport console [] (report console model .json []) (report console model .table []) ↔
      Renders console model [] := by
  rw [report_clean]
  constructor
  · intro h
    have hexit := h.exitCode
    rcases text_shown console .clean (cleanTold model) with ⟨crash, -, hcrash⟩ | ⟨hshown, -, -⟩
    · -- A run that crashes has the exit code of findings.
      rw [hcrash] at hexit
      cases hexit
    · obtain ⟨lines, hlines⟩ := exists_ok_iff_forall_ne.mpr hshown
      exact .clean lines rfl hlines
  · intro h
    cases h with
    | clean lines _ hlines =>
      rcases text_shown console .clean (cleanTold model) with ⟨crash, hcrash, -⟩ | ⟨-, -, hexit⟩
      · rw [hlines] at hcrash
        cases hcrash
      · exact ⟨rfl, hexit.symm, [], rfl, fun hne => absurd rfl hne⟩
    | findings _ hsome => exact absurd rfl hsome

/-- With findings they do exactly if the table is drawn and has its cells as they are. -/
theorem sameReport_cons_iff (console : Console) (model : Text) (d : Diagnostic)
    (ds : List Diagnostic) :
    Outcome.SameReport console ((d :: ds).map Diagnostic.json) (report console model .json (d :: ds))
      (report console model .table (d :: ds)) ↔ Renders console model (d :: ds) := by
  rw [table_eq_of_outputTable]
  constructor
  · intro h
    obtain ⟨rows, hrows, htable⟩ := h.rows
    rw [mapM_reportedRow?] at hrows
    cases hrows
    obtain ⟨layout, below, houtput, hbody⟩ := htable (by simp)
    cases hshown : console.outputTable (diagnosticTable model (d :: ds)) with
    | error crash =>
      -- A run that crashes shows no table.
      rw [hshown] at houtput
      cases houtput
    | ok shown =>
      rw [hshown] at houtput
      cases houtput
      exact .findings layout (List.cons_ne_nil d ds) hshown ((drawn_iff_isVerbatim hshown).mp hbody)
  · intro h
    cases h with
    | clean _ hnone => exact absurd hnone (List.cons_ne_nil d ds)
    | findings layout _ hshown hverbatim =>
      rw [hshown]
      exact ⟨rfl, rfl, _, mapM_reportedRow? _,
        fun _ => ⟨layout, _, rfl, (drawn_iff_isVerbatim hshown).mpr hverbatim⟩⟩

/-- Both formats report the same exactly if the table renders the report. One direction needs every cell
to be shown, the other that a cell which is shown as written has no markup in it. -/
theorem sameReport_iff_renders (console : Console) (model : Text) (ds : List Diagnostic) :
    Outcome.SameReport console (ds.map Diagnostic.json) (report console model .json ds)
      (report console model .table ds) ↔ Renders console model ds := by
  cases ds with
  | nil => exact sameReport_nil_iff console model
  | cons d ds => exact sameReport_cons_iff console model d ds

/-! ## Reports that are rendered -/

/-- The line about a clean model is shown if its name is ordinary. -/
theorem exists_cleanLines (console : Console) (hmodel : model.IsOrdinary) :
    ∃ lines, console.outputLines (cleanTold model) = .ok lines := by
  have hgreen : Style.IsColorWord "green" := by decide +kernel
  have hok : Text.IsOrdinary "OK" := by decide
  have hspace : Text.IsOrdinary " " := by decide
  have hend : Text.IsOrdinary " — no non-inclusive terms found" := by decide
  have hrest := (hspace.append hmodel).append hend
  have hpieces : Markup.pieces (cleanTold model) =
      [.plain [], .plain [], .tag "green", .plain "OK", .plain [],
        .tag (CodePoint.ofChar '/' :: Text.ofString "green")] ++
        [.plain ((" " : Text) ++ model ++ (" — no non-inclusive terms found" : Text))] := by
    rw [← hrest.isPlain.pieces_eq]
    rfl
  -- The only style is a color word, and both parts of the text are ordinary.
  refine Console.exists_outputLines (Markup.read_of_colored hgreen hpieces)
    ⟨fun span hspan definition hdefinition => ?_, fun c hc => ?_⟩ console
  · rw [List.mem_singleton.mp hspan] at hdefinition
    cases hdefinition
    exact ⟨_, hgreen.normalForm_eq⟩
  · rcases List.mem_append.mp hc with hc | hc
    · rw [hok.isPlain.shownText_eq] at hc
      exact (hok c (List.mem_of_mem_filter hc)).2
    · rw [hrest.isPlain.shownText_eq] at hc
      exact (hrest c (List.mem_of_mem_filter hc)).2

/-- The cell for a severity is always shown. -/
theorem exists_isShowable_severityCell (severity : Severity) :
    ∃ s, Markup.read (severityCell severity) = .ok s ∧ s.IsShowable := by
  refine ⟨_, read_severityCell severity, fun span hspan definition hdefinition => ?_, ?_⟩
  · rw [List.mem_singleton.mp hspan] at hdefinition
    cases hdefinition
    exact ⟨_, (isColorWord_color severity).normalForm_eq⟩
  · cases severity <;> decide

/-- The title of a table is shown if the name of the model is ordinary. -/
theorem exists_isShowable_title (hmodel : model.IsOrdinary) (ds : List Diagnostic) :
    ∃ s, Markup.read (diagnosticTable model ds).title = .ok s ∧ s.IsShowable := by
  have hplain : Markup.IsPlain (diagnosticTable model ds).title := by
    -- The one colon that stands before the name is followed by a space, so it begins no emoji.
    have hemoji : ¬ Markup.HasEmoji (diagnosticTable model ds).title := hmodel.isPlain.noEmoji
    refine Markup.isPlain_of_noOpening (fun hopening => ?_) hemoji
    rcases List.mem_append.mp hopening with hopening | hopening
    · exact absurd hopening (by decide)
    · exact absurd (hmodel _ hopening).1 (by decide)
  refine hplain.exists_isShowable fun c hc => ?_
  rcases List.mem_append.mp hc with hc | hc
  · exact (by decide : ∀ c ∈ Text.ofString "Validation: ", c.isSurrogate = false) c hc
  · exact (hmodel c hc).2

/-- The cells of a verbatim row without surrogates are shown. -/
theorem exists_isShowable_diagnosticRow {d : Diagnostic} (hverbatim : d.IsVerbatim)
    (hwritten : ∀ c ∈ d.shapeCell ++ d.message, c.isSurrogate = false) :
    ∀ cell ∈ diagnosticRow d, ∃ s, Markup.read cell = .ok s ∧ s.IsShowable := by
  have hlocation : ∀ c ∈ d.locationCell, c.isSurrogate = false := by
    intro c hc
    have hbounds := Diagnostic.bounds_of_mem_locationCell hc
    simp only [CodePoint.isSurrogate, Bool.and_eq_false_iff, decide_eq_false_iff_not]
    omega
  have hwritten := List.forall_mem_append.mp hwritten
  rw [diagnosticRow_eq]
  simp only [Diagnostic.reportedRow, List.tail_cons, List.forall_mem_cons]
  exact ⟨exists_isShowable_severityCell d.severity, hverbatim.shape.exists_isShowable hwritten.1,
    d.isVerbatim_locationCell.exists_isShowable hlocation, hverbatim.message.exists_isShowable hwritten.2,
    List.forall_mem_nil _⟩

/-- An ordinary report is rendered on every console. This is the case that a user will expect, and no
width is asked for: rows that have no room are not asked about on a narrow console. -/
theorem renders_of_ordinaryReport (h : OrdinaryReport model ds) (console : Console) :
    Renders console model ds := by
  by_cases hnone : ds = []
  · obtain ⟨lines, hlines⟩ := exists_cleanLines console h.name
    exact .clean lines hnone hlines
  -- The texts of the table are its headings, the cells of its rows and its title.
  have hheadings : ∀ column ∈ diagnosticColumns, Text.IsOrdinary column.1 := by decide
  have htexts : ∀ text ∈ (diagnosticTable model ds).texts,
      ∃ s, Markup.read text = .ok s ∧ s.IsShowable := by
    intro text htext
    rcases List.mem_append.mp htext with htext | htext
    · obtain ⟨column, hcolumn, htext⟩ := List.mem_flatMap.mp htext
      refine ConsoleTable.forall_columns_ofRows (p := fun t => ∃ s, Markup.read t = .ok s ∧ s.IsShowable)
        length_diagnosticRow (fun heading hheading => ?_) (fun row hrow => ?_) column hcolumn text htext
      · have hheading := hheadings heading hheading
        exact hheading.isPlain.exists_isShowable fun c hc => (hheading c hc).2
      · obtain ⟨d, hd, rfl⟩ := List.mem_map.mp hrow
        exact exists_isShowable_diagnosticRow (h.verbatim d hd) (h.written d hd)
    · rw [List.mem_singleton.mp htext]
      exact exists_isShowable_title h.name ds
  obtain ⟨layout, hlayout⟩ := Console.exists_outputTable htexts console
  exact .findings layout hnone hlayout fun d hd _ => h.verbatim d hd

end Command

namespace Invocation

open Command

variable {console : Console} {read : Text → FileContent} {arguments : List Text} {model : Text}
  {o : TermOptions} {format : OutputFormat} {t : TermTable} {m : Model}

/-- A run of `validate` over a model that is loaded ends with the report of what is found. Whatever
differs between the formats happens behind this point. -/
theorem runArguments_of_loaded
    (hparse : parse (Path.isDirectory read) arguments = .ok (.validate model o format))
    (htable : Command.table console read o = .ok t) (hmodel : loadedModel read model = .ok m) :
    runArguments console read arguments = match t.checkWritable m with
      | .ok ds => report console model format ds
      | .error error => refuseCheck error := by
  unfold runArguments
  rw [hparse]
  show ended (findings console read model o format) = _
  unfold loadedModel at hmodel
  unfold findings
  rw [htable]
  show ended ((Model.ofContent model (read (Path.normalized model))).mapError (refuseModel console) >>=
    fun m => (t.checkWritable m).mapError refuseCheck >>=
      fun ds => return report console model format ds) = _
  rw [hmodel]
  show ended ((t.checkWritable m).mapError refuseCheck >>=
    fun ds => return report console model format ds) = _
  cases t.checkWritable m with
  | error error => rfl
  | ok ds => rfl

/-- A check that a run loads a model and finds diagnostics in it. -/
theorem exists_found {ds : List Diagnostic}
    (h : ((Command.table console read o).toOption.any fun t =>
      (loadedModel read model).toOption.any fun m => decide (m.hasUnwritablePath = false) &&
        (t.check m).toOption.any fun found => decide (found = ds)) = true) :
    ∃ t m, Command.table console read o = .ok t ∧ loadedModel read model = .ok m ∧ m.PathsWritable ∧
      t.check m = .ok ds := by
  obtain ⟨t, hterms, h⟩ := exists_ok_of_toOption_any h
  obtain ⟨m, hmodel, h⟩ := exists_ok_of_toOption_any h
  obtain ⟨hpaths, h⟩ := Bool.and_eq_true_iff.mp h
  obtain ⟨found, hfound, h⟩ := exists_ok_of_toOption_any h
  rw [of_decide_eq_true h] at hfound
  exact ⟨t, m, hterms, hmodel, Model.hasUnwritablePath_eq_false_iff.mp (of_decide_eq_true hpaths), hfound⟩

/-- The command lines for both formats, with a model that can be read. -/
theorem parse_formats (content : List UInt8) :
    let isDirectory := Path.isDirectory fun _ => .ok content
    parse isDirectory ["validate", "m.yaml", "--format", "json"] =
        .ok (.validate "m.yaml" ⟨none, [], []⟩ .json) ∧
      parse isDirectory ["validate", "m.yaml"] = .ok (.validate "m.yaml" ⟨none, [], []⟩ .table) :=
  ⟨rfl, rfl⟩

/-- For every model and configuration that can be loaded, a run of `validate` with the format table and one
with the format JSON report the same exactly if the table renders the report: the console can show it, and
no id or message in a row that has room has a style tag, an escaped bracket, the name of an emoji, or a tab
or control character that is not shown. An ordinary report is always the same in both formats. If a path in
the model cannot be written, both runs crash. -/
theorem validate_formats_agree_iff {jsonArguments tableArguments : List Text}
    (hjson : parse (Path.isDirectory read) jsonArguments = .ok (.validate model o .json))
    (htable : parse (Path.isDirectory read) tableArguments = .ok (.validate model o .table))
    (hterms : Command.table console read o = .ok t) (hmodel : loadedModel read model = .ok m) :
    (¬ m.PathsWritable →
      runArguments console read jsonArguments = .ofCrash .overlongInteger ∧
        runArguments console read tableArguments = .ofCrash .overlongInteger) ∧
    (m.PathsWritable → ∃ ds, t.check m = .ok ds ∧
      (Outcome.SameReport console (ds.map Diagnostic.json) (runArguments console read jsonArguments)
          (runArguments console read tableArguments) ↔ Renders console model ds) ∧
      (OrdinaryReport model ds →
        Outcome.SameReport console (ds.map Diagnostic.json) (runArguments console read jsonArguments)
          (runArguments console read tableArguments))) := by
  rw [runArguments_of_loaded hjson hterms hmodel, runArguments_of_loaded htable hterms hmodel]
  constructor
  · intro hpaths
    rw [← Model.hasUnwritablePath_eq_false_iff, Bool.not_eq_false] at hpaths
    rw [TermTable.checkWritable_of_unwritable hpaths]
    exact ⟨rfl, rfl⟩
  · intro hpaths
    obtain ⟨c, hc⟩ := exists_config_of_table hterms
    obtain ⟨ds, hds, -⟩ := TermTable.check_reports (TermTable.nil_notMem_keys_of_resolve hc) m
    rw [TermTable.checkWritable_eq_ok_iff.mpr ⟨hpaths, hds⟩]
    have hiff := sameReport_iff_renders console model ds
    exact ⟨ds, hds, hiff, fun hordinary => hiff.mpr (renders_of_ordinaryReport hordinary console)⟩

/-- A model with a shape that has a term in its name. There is one finding in it, and nothing in the
finding has a meaning on the console. -/
def masterText : Text :=
  "shapes:\n a#Master:\n  type: string\n"

/-- The finding in it. -/
def masterFinding : Diagnostic where
  id := "NoninclusiveTerms"
  severity := .warning
  message := ("String shape uses a non-inclusive term 'Master'. " : Text) ++
    ("Consider using one of the following terms instead: 'Primary', 'Parent' and 'Main'." : Text)
  location := ⟨"m.yaml", 2, 2⟩
  shape := some ⟨"a", "Master", none⟩

/-- The theorem at a run that finds it, where both formats report the same. -/
theorem validate_formats_agree_iff_master :
    let read : Text → FileContent := fun _ => .ok masterText.octets
    ∃ t m, Command.table ⟨200⟩ read ⟨none, [], []⟩ = .ok t ∧ loadedModel read "m.yaml" = .ok m ∧
      m.PathsWritable ∧ t.check m = .ok [masterFinding] ∧
      Outcome.SameReport ⟨200⟩ [masterFinding.json]
        (runArguments ⟨200⟩ read ["validate", "m.yaml", "--format", "json"])
        (runArguments ⟨200⟩ read ["validate", "m.yaml"]) := by
  intro read
  obtain ⟨t, m, hterms, hmodel, hpaths, hfound⟩ : ∃ t m, Command.table ⟨200⟩ read ⟨none, [], []⟩ = .ok t ∧
      loadedModel read "m.yaml" = .ok m ∧ m.PathsWritable ∧ t.check m = .ok [masterFinding] :=
    exists_found (by decide +kernel)
  obtain ⟨hjson, htable⟩ := parse_formats masterText.octets
  obtain ⟨ds, hds, -, hagree⟩ := (validate_formats_agree_iff hjson htable hterms hmodel).2 hpaths
  cases hfound.symm.trans hds
  refine ⟨t, m, hterms, hmodel, hpaths, hfound, hagree ?_⟩
  -- Both cells have no brackets and no codes for emoji, so they are drawn as they are written.
  have hcells : ∀ cell ∈ [masterFinding.shapeCell, masterFinding.message],
      (CodePoint.ofChar '[' ∉ cell ∧ Emoji.codes cell = [] ∧
        ∀ c ∈ cell.strip, Markup.isShown c = true ∧ c ≠ CodePoint.ofChar '\t') ∧
      ∀ c ∈ cell, c.isSurrogate = false := by
    decide +kernel
  simp only [List.forall_mem_cons] at hcells
  obtain ⟨⟨hshape, hshapeWritten⟩, ⟨hmessage, hmessageWritten⟩, -⟩ := hcells
  have hverbatim : masterFinding.IsVerbatim :=
    ⟨Markup.isVerbatim_of_noOpening hshape.1 hshape.2.1 hshape.2.2,
      Markup.isVerbatim_of_noOpening hmessage.1 hmessage.2.1 hmessage.2.2⟩
  have hwritten := List.forall_mem_append.mpr ⟨hshapeWritten, hmessageWritten⟩
  exact ⟨by decide, List.forall_mem_singleton.mpr hverbatim, List.forall_mem_singleton.mpr hwritten⟩

/-- A model whose trait has a key in brackets. The key becomes part of the path in a message, and the
console reads what stands in brackets as a style tag. -/
def bracketedText : Text :=
  "shapes:\n a#B:\n  type: string\n  traits:\n   c#d: \x7b\"[x]\": master\x7d\n"

/-- The finding in it. -/
def bracketedFinding : Diagnostic where
  id := "NoninclusiveTerms"
  severity := .warning
  message := ("'c#d' trait value at path [x] contains a non-inclusive term 'master'. " : Text) ++
    ("Consider using one of the following terms instead: 'primary', 'parent' and 'main'." : Text)
  location := ⟨"m.yaml", 5, 4⟩
  shape := some ⟨"a", "B", none⟩

/-- There is room for it in a table, but the key is a tag there and not shown. The JSON format writes it as
it is. -/
theorem validate_formats_differ_bracketedKey :
    let read : Text → FileContent := fun _ => .ok bracketedText.octets
    ∃ t m, Command.table ⟨200⟩ read ⟨none, [], []⟩ = .ok t ∧ loadedModel read "m.yaml" = .ok m ∧
      t.check m = .ok [bracketedFinding] ∧ ReportFits ⟨200⟩ [bracketedFinding.reportedRow] ∧
      ¬ Outcome.SameReport ⟨200⟩ [bracketedFinding.json]
        (runArguments ⟨200⟩ read ["validate", "m.yaml", "--format", "json"])
        (runArguments ⟨200⟩ read ["validate", "m.yaml"]) := by
  intro read
  obtain ⟨t, m, hterms, hmodel, hpaths, hfound⟩ : ∃ t m, Command.table ⟨200⟩ read ⟨none, [], []⟩ = .ok t ∧
      loadedModel read "m.yaml" = .ok m ∧ m.PathsWritable ∧ t.check m = .ok [bracketedFinding] :=
    exists_found (by decide +kernel)
  have hfits : ReportFits ⟨200⟩ [bracketedFinding.reportedRow] := by
    constructor
    · intro row hrow cell hcell
      have hcells : ∀ cell ∈ bracketedFinding.reportedRow,
          (∀ c ∈ cell, Text.isLineEnd c = false) ∧ CodePoint.ofChar '\t' ∉ cell := by
        decide +kernel
      rw [List.mem_singleton.mp hrow] at hcell
      exact ⟨(hcells cell hcell).1, fun htab => absurd htab (hcells cell hcell).2⟩
    · unfold ConsoleTable.Fits
      decide +kernel
  refine ⟨t, m, hterms, hmodel, hfound, hfits, fun hsame => ?_⟩
  obtain ⟨hjson, htable⟩ := parse_formats bracketedText.octets
  rw [runArguments_of_loaded hjson hterms hmodel, runArguments_of_loaded htable hterms hmodel,
    TermTable.checkWritable_eq_ok_iff.mpr ⟨hpaths, hfound⟩] at hsame
  -- The reports would agree only if the message were drawn as it is, but it holds a tag.
  cases (sameReport_iff_renders ⟨200⟩ "m.yaml" [bracketedFinding]).mp hsame with
  | clean _ hnone => exact absurd hnone (List.cons_ne_nil _ _)
  | findings layout _ _ hverbatim =>
    have hmessage := (hverbatim bracketedFinding List.mem_cons_self (Or.inr hfits)).message
    exact hmessage.noTag ⟨"x", by decide, by decide, by decide +kernel⟩

end Invocation

end TermAudit
