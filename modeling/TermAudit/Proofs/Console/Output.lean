import TermAudit.Command.Outcome
import TermAudit.Proofs.Console.Table

/-!
# `TermAudit.Proofs.Console.Output`: what the console can show

A console shows a text or a table if the tags in it make sense, their styles can be looked up and no
surrogate is left to write (`Styled.IsShowable`). `Console.outputTable_eq_ok` says what a table is then: it
is laid out with what is left to read of its texts.
-/

set_option autoImplicit false

namespace TermAudit

/-! ## Texts -/

/-- The console can show the text: its styles can be looked up, and no surrogate is in it. The two fail in
different ways: an unknown style is an error of the console, a surrogate one of the encoding. -/
structure Styled.IsShowable (s : Styled) : Prop where
  known : ∀ span ∈ s.spans, ∀ definition, span.definition = some definition →
    ∃ form, Style.normalForm definition = .ok form
  encodable : ∀ c ∈ s.text, c.isSurrogate = false

namespace Styled.IsShowable

variable {s line : Styled}

/-- The lines of a text can be shown if the text can. -/
theorem of_mem_wrapped (h : s.IsShowable) {overflow : Overflow} {alignment : Alignment} {width : Nat}
    (hline : line ∈ s.wrapped overflow alignment width) : line.IsShowable where
  known span hspan definition hdefinition := by
    have hstyles : s.HasStyles (s.spans.map Span.definition) := fun span hspan => List.mem_map_of_mem hspan
    obtain ⟨whole, hwhole, heq⟩ := List.mem_map.mp (hstyles.of_mem_wrapped hline span hspan)
    exact h.known whole hwhole definition (heq.trans hdefinition)
  encodable c hc := by
    cases hsurrogate : c.isSurrogate with
    | false => rfl
    | true =>
      have hmem := (Styled.drawnFrom_of_mem_wrapped hline).mem hc
        (by rintro rfl; exact absurd hsurrogate (by decide))
        (by rintro rfl; exact absurd hsurrogate (by decide))
      exact hsurrogate.symm.trans (h.encodable c hmem)

/-- A showable text is not refused for its styles: each of them has a form. -/
theorem checkStyles_eq (h : s.IsShowable) : Markup.checkStyles s = .ok () := by
  refine if_neg fun hbad => ?_
  obtain ⟨span, hspan, hbad⟩ := List.any_eq_true.mp hbad
  obtain ⟨definition, hdefinition, hbad⟩ := (Option.any_eq_true _ _).mp hbad
  obtain ⟨form, hform⟩ := h.known span hspan definition hdefinition
  rw [hform] at hbad
  cases hbad

end Styled.IsShowable

/-- Nothing in the text means anything on the console, and all of it can be written. It is asked of each
code point by itself, so texts that are ordinary can be put together. -/
def Text.IsOrdinary (t : Text) : Prop :=
  ∀ c ∈ t, c.isSign = false ∧ c.isSurrogate = false

namespace Text.IsOrdinary

variable {t u : Text}

/-- Whether a text is ordinary can be computed. -/
instance (t : Text) : Decidable t.IsOrdinary :=
  inferInstanceAs (Decidable (∀ c ∈ t, _))

/-- Two ordinary texts one behind the other are ordinary. -/
theorem append (h : t.IsOrdinary) (h' : u.IsOrdinary) : (t ++ u).IsOrdinary :=
  List.forall_mem_append.mpr ⟨h, h'⟩

/-- An ordinary text has no signs, so it means nothing else than what it says. -/
theorem isPlain (h : t.IsOrdinary) : Markup.IsPlain t :=
  Markup.isPlain_of_noSigns fun c hc => (h c hc).1

/-- A number is written with digits alone. -/
theorem ofNat (n : Nat) : (Text.ofNat n).IsOrdinary := by
  intro c hc
  have hdigit := isDigit_of_mem_ofNat hc
  constructor
  · refine Bool.eq_false_iff.mpr fun hsign => ?_
    simp only [CodePoint.isSign, Bool.or_eq_true, decide_eq_true_eq] at hsign
    rcases hsign with ((rfl | rfl) | rfl) | rfl <;> revert hdigit <;> decide
  · simp only [CodePoint.isSurrogate, Bool.and_eq_false_iff, decide_eq_false_iff_not]
    omega

end Text.IsOrdinary

/-- A text without surrogates that means nothing else than what it says can be shown. -/
theorem Markup.IsPlain.exists_isShowable {t : Text} (h : IsPlain t)
    (hwritten : ∀ c ∈ t, c.isSurrogate = false) : ∃ s, read t = .ok s ∧ s.IsShowable :=
  ⟨_, read_eq_of_isPlain h, fun _ hspan => absurd hspan List.not_mem_nil,
    fun c hc => hwritten c (List.mem_of_mem_filter hc)⟩

namespace Console

/-- Lines that can be shown pass both checks. -/
theorem checks_of_isShowable {lines : List Styled} (h : ∀ line ∈ lines, line.IsShowable) :
    lines.forM Markup.checkStyles = .ok () ∧ checkEncodable (lines.map Styled.text) = .ok () := by
  refine ⟨forM_eq_ok_iff.mpr fun line hline => (h line hline).checkStyles_eq, if_neg fun hany => ?_⟩
  obtain ⟨text, htext, hany⟩ := List.any_eq_true.mp hany
  obtain ⟨line, hline, rfl⟩ := List.mem_map.mp htext
  obtain ⟨c, hc, hsurrogate⟩ := List.any_eq_true.mp hany
  exact absurd hsurrogate (by simp [(h line hline).encodable c hc])

/-- What can be read and shown is shown. -/
theorem exists_outputLines {t : Text} {s : Styled} (hread : Markup.read t = .ok s) (h : s.IsShowable)
    (c : Console) : ∃ lines, c.outputLines t = .ok lines := by
  have hshowable : ∀ line ∈ s.wrapped .fold .plain c.width, line.IsShowable :=
    fun line hline => h.of_mem_wrapped hline
  obtain ⟨hstyles, hencodable⟩ := checks_of_isShowable hshowable
  have hlines : c.lines t = .ok ((s.wrapped .fold .plain c.width).map Styled.text) :=
    bind_eq_ok_iff.mpr ⟨s, mapError_eq_ok_iff.mpr hread, bind_eq_ok_iff.mpr
      ⟨(), mapError_eq_ok_iff.mpr hstyles, rfl⟩⟩
  exact ⟨_, bind_eq_ok_iff.mpr ⟨_, hlines, bind_eq_ok_iff.mpr ⟨(), hencodable, rfl⟩⟩⟩

end Console

/-! ## Tables -/

/-- What is left to read of a line, and nothing if its tags make no sense. It is used where a table is
known to be shown, so that all its texts are read. -/
def Markup.readText (t : Text) : Styled :=
  (Markup.read t).toOption.getD ⟨[], []⟩

/-- Text that can be read is shown as it is read. What cannot be read is an error of its own. -/
theorem Markup.readText_eq {t : Text} {s : Styled} (h : Markup.read t = .ok s) :
    Markup.readText t = s := by
  unfold Markup.readText
  rw [h]
  rfl

/-- A table that is shown is laid out with what is left to read of its texts. Each of them can be read, or
else the console would have refused the table. -/
theorem Console.outputTable_eq_ok {c : Console} {t : ConsoleTable Text} {layout : TableLayout}
    (h : c.outputTable t = .ok layout) :
    layout = (t.map Markup.readText).laidOut c.width ∧
      ∀ text ∈ t.texts, Markup.read text = .ok (Markup.readText text) := by
  obtain ⟨styled, hread, h⟩ := bind_eq_ok_iff.mp h
  obtain ⟨rfl, hall⟩ := ConsoleTable.map_of_mapM_eq_ok (fun _ _ => Markup.readText_eq)
    (mapError_eq_ok_iff.mp hread)
  obtain ⟨_, -, h⟩ := bind_eq_ok_iff.mp h
  obtain ⟨_, -, h⟩ := bind_eq_ok_iff.mp h
  cases h
  exact ⟨rfl, hall⟩

/-- The lines of a row of texts with style tags. A row takes as many lines as its tallest cell, and the
other cells are filled up with blank lines. -/
def TableLayout.textLines (layout : TableLayout) (row : List Text) : List (List Text) :=
  layout.rowLines (List.zipWith
    (fun width cell => TableLayout.cellLines width (Markup.readText cell)) layout.widths row)

/-- The lines of a table that is shown are those of its rows. -/
theorem Console.bodyLines_of_outputTable {c : Console} {title : Text} {columns : List (Text × Nat)}
    {rows : List (List Text)} {isRuled : Bool} {layout : TableLayout} (hcolumns : columns ≠ [])
    (hrows : ∀ row ∈ rows, row.length = columns.length)
    (h : c.outputTable (.ofRows title columns rows isRuled) = .ok layout) :
    layout.bodyLines = rows.map layout.textLines := by
  rw [(outputTable_eq_ok h).1]
  exact ConsoleTable.bodyLines_laidOut hcolumns hrows

/-- Every cell of a table that is shown can be read. -/
theorem Console.read_of_outputTable {c : Console} {title : Text} {columns : List (Text × Nat)}
    {rows : List (List Text)} {isRuled : Bool} {layout : TableLayout} {row : List Text} {cell : Text}
    (hrows : ∀ row ∈ rows, row.length = columns.length)
    (h : c.outputTable (.ofRows title columns rows isRuled) = .ok layout) (hrow : row ∈ rows)
    (hcell : cell ∈ row) : Markup.read cell = .ok (Markup.readText cell) := by
  refine (outputTable_eq_ok h).2 cell (List.mem_append_left _ ?_)
  obtain ⟨j, hj, rfl⟩ := List.getElem_of_mem hcell
  have hcolumn : j < columns.length := by rwa [hrows row hrow] at hj
  refine List.mem_flatMap.mpr ⟨⟨columns[j].2, columns[j].1, rows.map fun row => row.getD j []⟩, ?_, ?_⟩
  · refine List.mem_map.mpr ⟨(columns[j], j), ?_, rfl⟩
    exact List.mk_mem_zipIdx_iff_getElem?.mpr (List.getElem?_eq_getElem hcolumn)
  · refine List.mem_cons_of_mem _ (List.mem_map.mpr ⟨row, hrow, ?_⟩)
    simp [hj]

/-- The lines of a table in lines are lines of its texts. -/
theorem ConsoleTable.exists_of_mem_laidOut {t : ConsoleTable Styled} {consoleWidth : Nat} {line : Styled}
    (h : line ∈ (t.laidOut consoleWidth).lines.texts.flatten) :
    ∃ s ∈ t.texts, ∃ overflow alignment width, line ∈ s.wrapped overflow alignment width := by
  obtain ⟨lines, hlines, hline⟩ := List.mem_flatten.mp h
  rcases List.mem_append.mp hlines with hlines | hlines
  · obtain ⟨c, hc, hlines⟩ := List.mem_flatMap.mp hlines
    obtain ⟨j, hj, rfl⟩ := List.getElem_of_mem hc
    have hcolumns : (t.laidOut consoleWidth).lines.columns =
        List.zipWith columnLines t.columns (t.widths consoleWidth) := rfl
    have htexts (c : ConsoleColumn Styled) (width : Nat) : (columnLines c width).texts =
        c.texts.map (Styled.wrapped .ellipsis .left (width - ConsoleColumn.padding)) := rfl
    simp only [hcolumns, List.getElem_zipWith, htexts] at hlines
    obtain ⟨s, hs, rfl⟩ := List.mem_map.mp hlines
    exact ⟨s, List.mem_append_left _ (List.mem_flatMap.mpr ⟨_, List.getElem_mem _, hs⟩), _, _, _, hline⟩
  · rw [List.mem_singleton.mp hlines] at hline
    exact ⟨t.title, List.mem_append_right _ (List.mem_singleton_self _), _, _, _, hline⟩

/-- The texts of a table that is changed text by text are the changed texts. -/
theorem ConsoleTable.texts_map {α β : Type} (f : α → β) (t : ConsoleTable α) :
    (t.map f).texts = t.texts.map f := by
  have hcolumn (c : ConsoleColumn α) : (c.map f).texts = c.texts.map f := rfl
  simp [texts, ConsoleTable.map, List.flatMap_map, List.map_flatMap, hcolumn]

/-- What is done for each text of a table gives a table if it gives a result for each. -/
theorem ConsoleTable.exists_mapM_eq_ok {α β ε : Type} {f : α → Except ε β} {t : ConsoleTable α}
    (h : ∀ a ∈ t.texts, ∃ b, f a = .ok b) : ∃ t', t.mapM f = .ok t' := by
  have hcolumn : ∀ c ∈ t.columns, ∃ c', c.mapM f = .ok c' := by
    intro c hc
    have htexts : ∀ a ∈ c.texts, ∃ b, f a = .ok b := fun a ha =>
      h a (List.mem_append_left _ (List.mem_flatMap.mpr ⟨c, hc, ha⟩))
    obtain ⟨heading, hheading⟩ := htexts c.heading List.mem_cons_self
    obtain ⟨cells, hcells⟩ :=
      exists_mapM_eq_ok_iff.mpr fun a ha => htexts a (List.mem_cons_of_mem _ ha)
    exact ⟨_, bind_eq_ok_iff.mpr ⟨heading, hheading, bind_eq_ok_iff.mpr ⟨cells, hcells, rfl⟩⟩⟩
  obtain ⟨columns, hcolumns⟩ := exists_mapM_eq_ok_iff.mpr hcolumn
  obtain ⟨title, htitle⟩ := h t.title (List.mem_append_right _ (List.mem_singleton_self _))
  exact ⟨_, bind_eq_ok_iff.mpr ⟨columns, hcolumns, bind_eq_ok_iff.mpr ⟨title, htitle, rfl⟩⟩⟩

/-- A table whose texts can all be read and shown is shown. -/
theorem Console.exists_outputTable {t : ConsoleTable Text}
    (h : ∀ text ∈ t.texts, ∃ s, Markup.read text = .ok s ∧ s.IsShowable) (c : Console) :
    ∃ layout, c.outputTable t = .ok layout := by
  obtain ⟨styled, hread⟩ := ConsoleTable.exists_mapM_eq_ok fun text htext => (h text htext).imp fun _ h => h.1
  obtain ⟨rfl, -⟩ := ConsoleTable.map_of_mapM_eq_ok (fun _ _ => Markup.readText_eq) hread
  have hshowable : ∀ line ∈ ((t.map Markup.readText).laidOut c.width).lines.texts.flatten,
      line.IsShowable := by
    intro line hline
    obtain ⟨s, hs, overflow, alignment, width, hline⟩ := ConsoleTable.exists_of_mem_laidOut hline
    refine Styled.IsShowable.of_mem_wrapped ?_ hline
    rw [ConsoleTable.texts_map] at hs
    obtain ⟨text, htext, rfl⟩ := List.mem_map.mp hs
    obtain ⟨s, hs, hshow⟩ := h text htext
    rwa [Markup.readText_eq hs]
  obtain ⟨hstyles, hencodable⟩ := checks_of_isShowable hshowable
  exact ⟨_, bind_eq_ok_iff.mpr ⟨_, mapError_eq_ok_iff.mpr hread, bind_eq_ok_iff.mpr
    ⟨(), mapError_eq_ok_iff.mpr hstyles, bind_eq_ok_iff.mpr ⟨(), hencodable, rfl⟩⟩⟩⟩

end TermAudit
