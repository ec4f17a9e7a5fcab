import TermAudit.Proofs.Command.Run
import TermAudit.Proofs.Console.Output
import TermAudit.Proofs.Console.Style
import TermAudit.Proofs.Validation.Located

/-!
# `TermAudit.Proofs.Command.Rows`: the rows of a table of diagnostics

A diagnostic has a row to be read (`Diagnostic.reportedRow`), and its object in JSON stands for the same row
(`Json.reportedRow?_json`). The table that is laid out has a row for each diagnostic, with the texts of the
model as they are and the severity in the tags of a color. A row that has room in the columns of the table,
or any row if the console is wide enough for all of them (`ReportFits`), is drawn as it is to be read
exactly if its cells are verbatim (`Command.drawn_iff_isVerbatim`).
-/

set_option autoImplicit false

namespace TermAudit

/-! ## Cells -/

/-- The cell for the shape in an object. A diagnostic about a namespace has no shape, which the object
writes as null and the table as a dash. -/
def Json.shapeCell? : Json → Option Text
  | .null => some "-"
  | .text id => some id
  | _ => none

/-- The cell for the place in an object. The table puts line and column in one cell, with a colon between
them, and a dash where the object has null. -/
def Json.locationCell? (j : Json) : Option Text :=
  match j, j.member? "line", j.member? "column" with
  | .null, _, _ => some "-"
  | _, some (.int line), some (.int column) =>
    some (Text.ofInt line ++ (":" : Text) ++ Text.ofInt column)
  | _, _, _ => none

/-- The row of a table that an object of the array stands for. The severity, the shape, the place and the
message are read from the object alone, so to compare the formats needs no diagnostic. The name of the
file is in the title of the table. -/
def Json.reportedRow? (j : Json) : Option (List Text) :=
  match j.member? "severity", j.member? "message" with
  | some (.text severity), some (.text message) => do
    let shape ← (← j.member? "shapeId").shapeCell?
    let location ← (← j.member? "sourceLocation").locationCell?
    return [severity, shape, location, message]
  | _, _ => none

/-- The cell for the shape of a diagnostic, without what the console makes of it. The id is written as it
is, and can have brackets in the name of a member. -/
def Diagnostic.shapeCell (d : Diagnostic) : Text :=
  match d.shape with
  | some id => id.shown
  | none => "-"

/-- The cell for the place of a diagnostic. Nowhere is written as a dash, and every other place as its
line and column. -/
def Diagnostic.locationCell (d : Diagnostic) : Text :=
  if d.location.isNowhere then "-"
  else Text.ofInt d.location.line ++ (":" : Text) ++ Text.ofInt d.location.column

/-- The row of a diagnostic as it is to be read, without colors. The cells of the table itself have style
tags around the severity, which are gone when the console has shown it. -/
def Diagnostic.reportedRow (d : Diagnostic) : List Text :=
  [d.severity.keyword, d.shapeCell, d.locationCell, d.message]

/-- The object of a diagnostic stands for its row. So nothing that the table shows is missing from the
JSON format. -/
theorem Json.reportedRow?_json (d : Diagnostic) : d.json.reportedRow? = some d.reportedRow := by
  have hshape : (d.json.member? "shapeId").bind Json.shapeCell? = some d.shapeCell := by
    rw [Diagnostic.json_shapeId]
    unfold Diagnostic.shapeCell
    cases d.shape <;> rfl
  have hlocation : (d.json.member? "sourceLocation").bind Json.locationCell? = some d.locationCell := by
    rw [Diagnostic.json_sourceLocation]
    unfold Diagnostic.locationCell Location.json
    cases d.location.isNowhere <;> rfl
  -- The severity and the message are texts in every object, so only the other two cells can be missing.
  have hrow : d.json.reportedRow? = (do
      let shape ← (← d.json.member? "shapeId").shapeCell?
      let location ← (← d.json.member? "sourceLocation").locationCell?
      return [d.severity.keyword, shape, location, d.message]) := rfl
  obtain ⟨shape, hmember, hshape⟩ := Option.bind_eq_some_iff.mp hshape
  obtain ⟨location, hmember', hlocation⟩ := Option.bind_eq_some_iff.mp hlocation
  rw [hrow, hmember, hmember']
  simp [hshape, hlocation, Diagnostic.reportedRow]

/-! ## Verbatim rows -/

/-- The words for severities are shown as they are. -/
theorem Severity.isVerbatim_keyword (s : Severity) : Markup.IsVerbatim s.keyword where
  toIsPlain := Markup.isPlain_of_noSigns (by cases s <;> decide)
  shown := by cases s <;> decide +kernel

namespace Diagnostic

/-- The texts in the row of a diagnostic that come from the model mean nothing else than what they say.
These are the id and the message. The other two cells are made by the program, and are always verbatim
(`isVerbatim_iff`). -/
structure IsVerbatim (d : Diagnostic) : Prop where
  shape : Markup.IsVerbatim d.shapeCell
  message : Markup.IsVerbatim d.message

/-- A place is written in digits, with a colon, and signs if numbers are negative. -/
theorem bounds_of_mem_locationCell {d : Diagnostic} {c : CodePoint} (h : c ∈ d.locationCell) :
    0x2D ≤ c.val ∧ c.val ≤ 0x3A := by
  have hnumber {i : Int} (hc : c ∈ Text.ofInt i) : 0x2D ≤ c.val ∧ c.val ≤ 0x3A := by
    rcases Text.mem_ofInt hc with rfl | hdigit
    · decide
    · omega
  unfold locationCell at h
  split at h
  · rw [List.mem_singleton.mp h]
    decide
  · rcases List.mem_append.mp h with h | h
    · rcases List.mem_append.mp h with h | h
      · exact hnumber h
      · rw [List.mem_singleton.mp h]
        decide
    · exact hnumber h

/-- A place is always verbatim. -/
theorem isVerbatim_locationCell (d : Diagnostic) : Markup.IsVerbatim d.locationCell := by
  have hcolon (i : Int) : CodePoint.ofChar ':' ∉ Text.ofInt i := by
    intro hmem
    rcases Text.mem_ofInt hmem with heq | hdigit
    · exact absurd heq (by decide)
    · exact absurd hdigit (by decide)
  refine Markup.isVerbatim_of_noOpening (fun hmem => ?_) ?_ fun c hc => ?_
  · exact absurd (bounds_of_mem_locationCell hmem) (by decide)
  · -- With one colon there is no code between colons.
    unfold locationCell
    split
    · rfl
    · rw [List.append_assoc, Emoji.codes_append (hcolon _)]
      show Emoji.codesFrom (some []) (Text.ofInt d.location.column) = []
      exact Emoji.codesFrom_of_notMem (hcolon _)
  · have hbounds := bounds_of_mem_locationCell (Text.mem_of_mem_strip hc)
    constructor
    · simp only [Markup.isShown, Bool.not_eq_true', Bool.or_eq_false_iff, beq_eq_false_iff_ne]
      omega
    · rintro rfl
      exact absurd hbounds (by decide)

/-- The row is verbatim if its texts from the model are. -/
theorem isVerbatim_iff {d : Diagnostic} :
    d.IsVerbatim ↔ ∀ cell ∈ d.reportedRow, Markup.IsVerbatim cell := by
  simp only [reportedRow, List.forall_mem_cons]
  constructor
  · intro h
    exact ⟨d.severity.isVerbatim_keyword, h.shape, d.isVerbatim_locationCell, h.message,
      List.forall_mem_nil _⟩
  · rintro ⟨-, hshape, -, hmessage, -⟩
    exact ⟨hshape, hmessage⟩

end Diagnostic

/-! ## Room -/

/-- Every cell is on one line, and the columns have room for all of it. The widths are those that the
layout has in the end, after columns were narrowed to the console. -/
def TableLayout.HasRoom (layout : TableLayout) (row : List Text) : Prop :=
  List.Forall₂ (fun width cell => CodePoint.ofChar '\n' ∉ cell ∧
    cell.lineCells + ConsoleColumn.padding ≤ width) layout.widths row

/-- Every cell is on one line, and the console is wide enough for the table that the rows need. Then no
column is narrowed, and every row has room. -/
structure ReportFits (console : Console) (rows : List (List Text)) : Prop where
  inline : ∀ row ∈ rows, ∀ cell ∈ row, Text.IsInline cell
  fits : (ConsoleTable.ofRows [] Command.diagnosticColumns rows true).Fits console.width

/-! ## Rows of a table -/

namespace Command

/-- The severity of a diagnostic, with the tags of its color. These are the only tags that the program
means in a row, and they disappear when the cell is read. -/
def severityCell (s : Severity) : Text :=
  ("[" : Text) ++ color s ++ ("]" : Text) ++ s.keyword ++ ("[/" : Text) ++ color s ++ ("]" : Text)

/-- The row of a diagnostic is its severity in color, and then what is reported. -/
theorem diagnosticRow_eq (d : Diagnostic) :
    diagnosticRow d = severityCell d.severity :: d.reportedRow.tail :=
  rfl

/-- The colors of severities are words that markup takes as styles. -/
theorem isColorWord_color (s : Severity) : Style.IsColorWord (color s) := by
  cases s <;> decide +kernel

/-- What is left to read of the cell is the severity. -/
theorem read_severityCell (s : Severity) : Markup.read (severityCell s) =
    .ok ⟨s.keyword, [⟨0, s.keyword.length, some (color s)⟩]⟩ := by
  have hpieces : Markup.pieces (severityCell s) =
      [.plain [], .plain [], .tag (color s), .plain s.keyword, .plain [],
        .tag (CodePoint.ofChar '/' :: color s)] ++ [.plain []] := by
    cases s <;> decide +kernel
  have hshown : Markup.shownText s.keyword = s.keyword := by
    cases s <;> decide +kernel
  have hnil : Markup.shownText [] = [] := rfl
  rw [Markup.read_of_colored (isColorWord_color s) hpieces, hshown, hnil, List.append_nil]

variable {console : Console} {model : Text} {ds : List Diagnostic} {d : Diagnostic}
  {layout : TableLayout}

/-- A row has a cell for each column. -/
theorem length_diagnosticRow : ∀ row ∈ ds.map diagnosticRow, row.length = diagnosticColumns.length := by
  intro row hrow
  obtain ⟨d, -, rfl⟩ := List.mem_map.mp hrow
  rfl

/-- The rows of a table that is shown are those of the diagnostics. -/
theorem bodyLines_of_outputTable (h : console.outputTable (diagnosticTable model ds) = .ok layout) :
    layout.bodyLines = ds.map fun d => layout.textLines (diagnosticRow d) := by
  rw [Console.bodyLines_of_outputTable (List.cons_ne_nil _ _) length_diagnosticRow h, List.map_map]
  rfl

/-- Every cell of a table that is shown can be read. -/
theorem read_of_outputTable (h : console.outputTable (diagnosticTable model ds) = .ok layout)
    (hd : d ∈ ds) : ∀ cell ∈ diagnosticRow d, Markup.read cell = .ok (Markup.readText cell) :=
  fun _ => Console.read_of_outputTable length_diagnosticRow h (List.mem_map_of_mem hd)

/-- The columns of a table of diagnostics. -/
theorem columns_diagnosticTable (f : Text → Styled) (model : Text) (ds : List Diagnostic) :
    ((diagnosticTable model ds).map f).columns =
      [⟨8, f "Severity", ds.map fun d => f (severityCell d.severity)⟩,
        ⟨10, f "Shape", ds.map fun d => f d.shapeCell⟩,
        ⟨8, f "Location", ds.map fun d => f d.locationCell⟩,
        ⟨0, f "Message", ds.map fun d => f d.message⟩] := by
  simp [diagnosticTable, ConsoleTable.ofRows, diagnosticColumns, ConsoleTable.map, ConsoleColumn.map,
    diagnosticRow_eq, Diagnostic.reportedRow, Function.comp_def]

/-- The widths of a table of diagnostics, of which the first has room for every severity. -/
theorem exists_widths (h : console.outputTable (diagnosticTable model ds) = .ok layout) :
    ∃ w₀ w₁ w₂ w₃, layout.widths = [w₀, w₁, w₂, w₃] ∧ 10 ≤ w₀ := by
  have hleast := ConsoleTable.least_le_widths console.width ((diagnosticTable model ds).map Markup.readText)
  rw [columns_diagnosticTable] at hleast
  rw [(Console.outputTable_eq_ok h).1]
  show ∃ w₀ w₁ w₂ w₃, ConsoleTable.widths console.width _ = [w₀, w₁, w₂, w₃] ∧ 10 ≤ w₀
  generalize ConsoleTable.widths console.width _ = widths at hleast ⊢
  cases hleast with
  | cons hseverity hleast =>
    cases hleast with
    | cons _ hleast =>
      cases hleast with
      | cons _ hleast =>
        cases hleast with
        | cons _ hleast =>
          cases hleast
          exact ⟨_, _, _, _, rfl, hseverity⟩

/-- The cell for a severity shows it. -/
theorem exists_severityLine (severity : Severity) {width : Nat} (hwidth : 10 ≤ width) :
    ∃ line, TableLayout.cellLines width (Markup.readText (severityCell severity)) = [line] ∧
      (TableLayout.drawnCell width line).strip = severity.keyword.strip := by
  have htab : CodePoint.ofChar '\t' ∉ severity.keyword := by cases severity <;> decide
  have hline : CodePoint.ofChar '\n' ∉ severity.keyword := by cases severity <;> decide
  have hjoiner : ∀ c ∈ severity.keyword, c.isJoiner = false := by cases severity <;> decide
  have hcells : severity.keyword.cells + ConsoleColumn.padding ≤ 10 := by
    cases severity <;> decide +kernel
  rw [Markup.readText_eq (read_severityCell severity)]
  generalize ([⟨0, severity.keyword.length, some (color severity)⟩] : List Span) = spans
  have hwithout : (⟨severity.keyword, spans⟩ : Styled).withoutTabs.text = severity.keyword :=
    (Styled.tabsFilled_withoutTabs _).eq_of_notMem htab
  have hroom : (⟨severity.keyword, spans⟩ : Styled).withoutTabs.text.cells + ConsoleColumn.padding ≤
      width := by
    rw [hwithout]
    exact Nat.le_trans hcells hwidth
  obtain ⟨line, hlines, hdrawn⟩ := TableLayout.exists_cellLines hline hroom (Or.inr hjoiner)
  exact ⟨line, hlines, by rw [hdrawn, hwithout]⟩

/-- A cell that fits is shown on one line, as it is written but for blanks around it. -/
theorem exists_verbatimLine {cell : Text} {width : Nat} (h : Markup.IsVerbatim cell)
    (hroom : CodePoint.ofChar '\n' ∉ cell ∧ cell.lineCells + ConsoleColumn.padding ≤ width) :
    ∃ line, TableLayout.cellLines width (Markup.readText cell) = [line] ∧
      (TableLayout.drawnCell width line).strip = cell.strip := by
  rw [Markup.readText_eq (Markup.read_eq_of_isPlain h.toIsPlain)]
  exact TableLayout.exists_cellLines_of_isVerbatim h hroom.1 hroom.2

/-- A row of verbatim cells that has room is shown as it is to be read. -/
theorem exists_drawn_of_isVerbatim (h : console.outputTable (diagnosticTable model ds) = .ok layout)
    (hroom : layout.HasRoom d.reportedRow) (hverbatim : d.IsVerbatim) :
    ∃ drawn, layout.textLines (diagnosticRow d) = [drawn] ∧
      drawn.map Text.strip = d.reportedRow.map Text.strip := by
  obtain ⟨w₀, w₁, w₂, w₃, hwidths, hw₀⟩ := exists_widths h
  simp only [TableLayout.HasRoom, hwidths, Diagnostic.reportedRow, List.forall₂_cons] at hroom
  obtain ⟨line₀, hline₀, hdrawn₀⟩ := exists_severityLine d.severity hw₀
  obtain ⟨line₁, hline₁, hdrawn₁⟩ := exists_verbatimLine hverbatim.shape hroom.2.1
  obtain ⟨line₂, hline₂, hdrawn₂⟩ := exists_verbatimLine d.isVerbatim_locationCell hroom.2.2.1
  obtain ⟨line₃, hline₃, hdrawn₃⟩ := exists_verbatimLine hverbatim.message hroom.2.2.2.1
  have hlines : layout.textLines (diagnosticRow d) =
      layout.rowLines ([line₀, line₁, line₂, line₃].map fun line => [line]) := by
    unfold TableLayout.textLines
    rw [hwidths, diagnosticRow_eq]
    simp only [Diagnostic.reportedRow, List.tail_cons, List.zipWith_cons_cons, List.zipWith_nil_left,
      hline₀, hline₁, hline₂, hline₃, List.map_cons, List.map_nil]
  refine ⟨_, hlines.trans (layout.rowLines_of_single _), ?_⟩
  rw [hwidths]
  simp [Diagnostic.reportedRow, hdrawn₀, hdrawn₁, hdrawn₂, hdrawn₃]

/-- A row that is shown as it is to be read has verbatim cells alone. -/
theorem isVerbatim_of_drawn (h : console.outputTable (diagnosticTable model ds) = .ok layout)
    (hd : d ∈ ds) {drawn : List Text} (hlines : layout.textLines (diagnosticRow d) = [drawn])
    (hdrawn : drawn.map Text.strip = d.reportedRow.map Text.strip) : d.IsVerbatim := by
  obtain ⟨w₀, w₁, w₂, w₃, hwidths, -⟩ := exists_widths h
  have hread := read_of_outputTable h hd
  rw [TableLayout.eq_of_rowLines hlines, hwidths, diagnosticRow_eq] at hdrawn
  simp only [Diagnostic.reportedRow, List.tail_cons, List.zipWith_cons_cons, List.zipWith_nil_left,
    List.map_cons, List.map_nil, List.cons.injEq] at hdrawn
  rw [diagnosticRow_eq] at hread
  simp only [Diagnostic.reportedRow, List.tail_cons, List.forall_mem_cons] at hread
  exact ⟨TableLayout.isVerbatim_of_drawnCell hread.2.1 hdrawn.2.1,
    TableLayout.isVerbatim_of_drawnCell hread.2.2.2.1 hdrawn.2.2.2.1⟩

/-- The columns of a report as they are to be read. -/
theorem columns_reportedRow (ds : List Diagnostic) :
    (ConsoleTable.ofRows [] diagnosticColumns (ds.map Diagnostic.reportedRow) true).columns =
      [⟨8, "Severity", ds.map fun d => d.severity.keyword⟩, ⟨10, "Shape", ds.map Diagnostic.shapeCell⟩,
        ⟨8, "Location", ds.map Diagnostic.locationCell⟩, ⟨0, "Message", ds.map Diagnostic.message⟩] := by
  simp [ConsoleTable.ofRows, diagnosticColumns, Diagnostic.reportedRow, Function.comp_def]

/-- If every cell is read as it is written, the columns are those of the report. -/
theorem map_text_columns (hcell : ∀ d ∈ ds, ∀ cell ∈ d.reportedRow, (Markup.readText cell).text = cell) :
    (((diagnosticTable model ds).map Markup.readText).map Styled.text).columns =
      (ConsoleTable.ofRows [] diagnosticColumns (ds.map Diagnostic.reportedRow) true).columns := by
  show ((diagnosticTable model ds).map Markup.readText).columns.map (ConsoleColumn.map Styled.text) = _
  have hheadings : (Markup.readText "Severity").text = Text.ofString "Severity" ∧
      (Markup.readText "Shape").text = Text.ofString "Shape" ∧
      (Markup.readText "Location").text = Text.ofString "Location" ∧
      (Markup.readText "Message").text = Text.ofString "Message" := by
    decide +kernel
  have hseverity (s : Severity) : (Markup.readText (severityCell s)).text = s.keyword := by
    rw [Markup.readText_eq (read_severityCell s)]
  have hshape : ds.map (fun d => (Markup.readText d.shapeCell).text) = ds.map Diagnostic.shapeCell :=
    List.map_congr_left fun d hd => hcell d hd _ (by simp [Diagnostic.reportedRow])
  have hlocation : ds.map (fun d => (Markup.readText d.locationCell).text) =
      ds.map Diagnostic.locationCell :=
    List.map_congr_left fun d hd => hcell d hd _ (by simp [Diagnostic.reportedRow])
  have hmessage : ds.map (fun d => (Markup.readText d.message).text) = ds.map Diagnostic.message :=
    List.map_congr_left fun d hd => hcell d hd _ (by simp [Diagnostic.reportedRow])
  -- Both tables have the same four headings, so their columns are compared one by one.
  rw [columns_diagnosticTable, columns_reportedRow]
  simp only [List.map_cons, List.map_nil, ConsoleColumn.map, List.map_map, Function.comp_def, hheadings,
    hseverity, hshape, hlocation, hmessage]

/-- On a console that is wide enough, the columns of a verbatim report are not narrowed. -/
theorem room_of_reportFits (model : Text) (hfits : ReportFits console (ds.map Diagnostic.reportedRow))
    (hcell : ∀ d ∈ ds, ∀ cell ∈ d.reportedRow, (Markup.readText cell).text = cell) :
    List.Forall₂ (fun c width => ∀ s ∈ c.texts, s.text.cells + ConsoleColumn.padding ≤ width)
      ((diagnosticTable model ds).map Markup.readText).columns
      (((diagnosticTable model ds).map Markup.readText).widths console.width) := by
  have hcolumns : (((diagnosticTable model ds).map Markup.readText).map Styled.text).columns = _ :=
    map_text_columns hcell
  refine ConsoleTable.room_of_fits (fun c hc s hs => ?_) ?_
  · have hmem : c.map Styled.text ∈
        (((diagnosticTable model ds).map Markup.readText).map Styled.text).columns :=
      List.mem_map_of_mem hc
    rw [hcolumns] at hmem
    have hrows : ∀ row ∈ ds.map Diagnostic.reportedRow, row.length = diagnosticColumns.length :=
      List.forall_mem_map.mpr fun _ _ => rfl
    exact ConsoleTable.forall_columns_ofRows (p := fun t => ∀ x ∈ t, Text.isLineEnd x = false)
      hrows (by decide) (fun row hrow cell hcell => (hfits.inline row hrow cell hcell).noLineEnd) _ hmem
      s.text (List.mem_map_of_mem hs)
  · unfold ConsoleTable.Fits ConsoleTable.frame
    rw [hcolumns]
    exact hfits.fits

/-- If the console is wide enough for a verbatim report, every row of it has room. -/
theorem hasRoom_of_reportFits (h : console.outputTable (diagnosticTable model ds) = .ok layout)
    (hfits : ReportFits console (ds.map Diagnostic.reportedRow))
    (hverbatim : ∀ d ∈ ds, d.IsVerbatim) (hd : d ∈ ds) : layout.HasRoom d.reportedRow := by
  have hinline (d : Diagnostic) (hd : d ∈ ds) : ∀ cell ∈ d.reportedRow, Text.IsInline cell :=
    hfits.inline _ (List.mem_map_of_mem hd)
  have hcell (d : Diagnostic) (hd : d ∈ ds) (cell : Text) (hmem : cell ∈ d.reportedRow) :
      (Markup.readText cell).text = cell := by
    have hverbatim := Diagnostic.isVerbatim_iff.mp (hverbatim d hd) cell hmem
    rw [Markup.readText_eq (hverbatim.read_eq (hinline d hd cell hmem))]
  have hroom := room_of_reportFits model hfits hcell
  have hlaidOut : ((diagnosticTable model ds).map Markup.readText).widths console.width =
      layout.widths := by
    rw [(Console.outputTable_eq_ok h).1]
    rfl
  obtain ⟨w₀, w₁, w₂, w₃, hwidths, -⟩ := exists_widths h
  rw [columns_diagnosticTable, hlaidOut, hwidths] at hroom
  simp only [List.forall₂_cons, ConsoleColumn.texts, List.forall_mem_cons, List.forall_mem_map] at hroom
  -- A verbatim cell has one line and its letters are drawn as they are, so its width is that of its text.
  have hone {cell : Text} {width : Nat} (hmem : cell ∈ d.reportedRow)
      (hcells : cell.cells + ConsoleColumn.padding ≤ width) :
      CodePoint.ofChar '\n' ∉ cell ∧ cell.lineCells + ConsoleColumn.padding ≤ width := by
    have hinline := hinline d hd cell hmem
    refine ⟨fun hline => absurd (hinline.noLineEnd _ hline) (by decide), ?_⟩
    rwa [(Diagnostic.isVerbatim_iff.mp (hverbatim d hd) cell hmem).lineCells_eq hinline]
  obtain ⟨⟨-, hseverity⟩, ⟨-, hshape⟩, ⟨-, hlocation⟩, ⟨-, hmessage⟩, -⟩ := hroom
  have hseverity := hseverity d hd
  have hshape := hshape d hd
  have hlocation := hlocation d hd
  have hmessage := hmessage d hd
  have hmem : d.severity.keyword ∈ d.reportedRow ∧ d.shapeCell ∈ d.reportedRow ∧
      d.locationCell ∈ d.reportedRow ∧ d.message ∈ d.reportedRow := by
    simp [Diagnostic.reportedRow]
  rw [Markup.readText_eq (read_severityCell d.severity)] at hseverity
  rw [hcell d hd _ hmem.2.1] at hshape
  rw [hcell d hd _ hmem.2.2.1] at hlocation
  rw [hcell d hd _ hmem.2.2.2] at hmessage
  simp only [TableLayout.HasRoom, hwidths, Diagnostic.reportedRow, List.forall₂_cons]
  exact ⟨hone hmem.1 hseverity, hone hmem.2.1 hshape, hone hmem.2.2.1 hlocation, hone hmem.2.2.2 hmessage,
    List.Forall₂.nil⟩

/-- The rows that are asked for are shown as they are to be read exactly if they are verbatim. A cell with
markup in it is drawn as something else than it was written, so no row with such a cell can be right by
accident. -/
theorem drawn_iff_isVerbatim (h : console.outputTable (diagnosticTable model ds) = .ok layout) :
    List.Forall₂ (fun row lines =>
        layout.HasRoom row ∨ ReportFits console (ds.map Diagnostic.reportedRow) →
          ∃ drawn, lines = [drawn] ∧ drawn.map Text.strip = row.map Text.strip)
      (ds.map Diagnostic.reportedRow) layout.bodyLines ↔
    ∀ d ∈ ds, layout.HasRoom d.reportedRow ∨ ReportFits console (ds.map Diagnostic.reportedRow) →
      d.IsVerbatim := by
  rw [bodyLines_of_outputTable h, List.forall₂_map_left_iff, List.forall₂_map_right_iff,
    List.forall₂_same]
  constructor
  · intro hdrawn d hd hasked
    obtain ⟨drawn, hlines, hstrip⟩ := hdrawn d hd hasked
    exact isVerbatim_of_drawn h hd hlines hstrip
  · intro hverbatim d hd hasked
    have hroom : layout.HasRoom d.reportedRow := by
      rcases hasked with hroom | hfits
      · exact hroom
      · -- If the whole report fits, all its rows are verbatim, and no column is narrowed.
        exact hasRoom_of_reportFits h hfits (fun d hd => hverbatim d hd (Or.inr hfits)) hd
    exact exists_drawn_of_isVerbatim h hroom (hverbatim d hd hasked)

end Command

end TermAudit
