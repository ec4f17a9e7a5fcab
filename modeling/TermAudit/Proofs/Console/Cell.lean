import TermAudit.Console.Table
import TermAudit.Proofs.Console.Markup
import TermAudit.Proofs.Console.Wrap

/-!
# `TermAudit.Proofs.Console.Cell`: cells that show what is written in them

A cell of a table that has room for a text on one line shows exactly what is written there if the text is
verbatim (`Markup.IsVerbatim`): it means nothing else than what it says, and between the white space around
it there are no tabs and no control characters that the console drops
(`TableLayout.exists_cellLines_of_isVerbatim`). White space around it is not counted. What is not verbatim is
not shown as it is written, however much room there is (`TableLayout.isVerbatim_of_drawnCell`).
-/

set_option autoImplicit false

namespace TermAudit

/-- The text is shown as it is written, where white space around it does not count. To mean nothing else
is not enough for a cell: control characters are dropped on the way to the screen, and tabs are replaced
by spaces. -/
structure Markup.IsVerbatim (t : Text) : Prop extends Markup.IsPlain t where
  shown : ∀ c ∈ t.strip, Markup.isShown c = true ∧ c ≠ CodePoint.ofChar '\t'

/-- The cells that what is shown of a text takes on a line, with spaces for its tabs. This is the room
that a column must have for it, and it is measured behind the dropping of control characters. -/
def Text.lineCells (t : Text) : Nat :=
  (Styled.withoutTabs ⟨t.filter Markup.isShown, []⟩).text.cells

/-- The text is on one line, and no tabs are around it. A tab at an end is filled up with spaces, so the
column would need more room than the stripped text shows. -/
structure Text.IsInline (t : Text) : Prop where
  noLineEnd : ∀ c ∈ t, isLineEnd c = false
  tabsInside : CodePoint.ofChar '\t' ∈ t → CodePoint.ofChar '\t' ∈ t.strip

namespace Markup.IsVerbatim

variable {t : Text}

/-- Of a verbatim text on one line everything is shown. -/
theorem filter_isShown (h : IsVerbatim t) (hinline : t.IsInline) : t.filter isShown = t := by
  refine List.filter_eq_self.mpr fun c hc => ?_
  cases hshown : isShown c with
  | true => rfl
  | false =>
    -- What is not shown ends a line, or it is no white space and so inside the text.
    have hline := hinline.noLineEnd c hc
    simp only [isShown, Bool.not_eq_false', Bool.or_eq_true, beq_iff_eq] at hshown
    simp only [Text.isLineEnd, Bool.or_eq_false_iff, Bool.and_eq_false_iff,
      decide_eq_false_iff_not] at hline
    have hval : c.val = 0x07 ∨ c.val = 0x08 := by omega
    have hblank : c.isBlank = false := by
      unfold CodePoint.isBlank
      rcases hval with hval | hval <;> rw [hval] <;> decide
    have hkept := (h.shown c (Text.mem_strip_of_mem hc hblank)).1
    simp only [isShown] at hkept
    rcases hval with hval | hval <;> rw [hval] at hkept <;> exact absurd hkept (by decide)

/-- A verbatim text on one line is read as it stands, without styles. -/
theorem read_eq (h : IsVerbatim t) (hinline : t.IsInline) : read t = .ok ⟨t, []⟩ := by
  rw [read_eq_of_isPlain h.toIsPlain, h.filter_isShown hinline]

/-- It takes the cells that it has, as nothing in it is left out or filled up. -/
theorem lineCells_eq (h : IsVerbatim t) (hinline : t.IsInline) : t.lineCells = t.cells := by
  have htab : CodePoint.ofChar '\t' ∉ t := fun htab => (h.shown _ (hinline.tabsInside htab)).2 rfl
  unfold Text.lineCells
  rw [h.filter_isShown hinline,
    (Styled.tabsFilled_withoutTabs ⟨t, []⟩).eq_of_notMem htab]

end Markup.IsVerbatim

/-- A text on which nothing happens has no bracket that opens, and no pair of colons. -/
theorem Markup.isVerbatim_of_noOpening {t : Text} (hopening : CodePoint.ofChar '[' ∉ t)
    (hcodes : Emoji.codes t = [])
    (hshown : ∀ c ∈ t.strip, isShown c = true ∧ c ≠ CodePoint.ofChar '\t') : IsVerbatim t where
  toIsPlain := isPlain_of_noOpening hopening fun ⟨_, hcode, _⟩ => by
    rw [hcodes] at hcode
    cases hcode
  shown := hshown

namespace TableLayout

/-! ## Texts side by side -/

/-- Texts that are cut off where there is no more room show nothing that was not there. -/
theorem drawnFrom_cutOff (room : Nat) (ts : List Text) :
    Text.DrawnFrom (cutOff room ts).flatten ts.flatten := by
  induction ts generalizing room with
  | nil => exact Text.DrawnFrom.refl []
  | cons t rest ih =>
    unfold cutOff
    split
    · exact (Text.DrawnFrom.refl t).append (ih _)
    · rw [List.flatten_singleton, List.flatten_cons]
      exact (Text.drawnFrom_cropped room t).trans (.of_sublist (List.sublist_append_left _ _))

/-- Texts side by side show nothing that was not there, but for spaces and the sign for what is left out. -/
theorem drawnFrom_sideBySide (width : Nat) (ts : List Text) :
    Text.DrawnFrom (sideBySide width ts).flatten ts.flatten := by
  unfold sideBySide
  dsimp only
  split
  · rw [List.flatten_append, List.flatten_singleton]
    exact (Text.DrawnFrom.refl _).append_spaces _
  · split
    · exact drawnFrom_cutOff width ts
    · exact Text.DrawnFrom.refl _

/-- Texts that have room are followed by spaces, and nothing else happens to them. -/
theorem sideBySide_of_fit {width : Nat} {ts : List Text} (h : (ts.map Text.cells).sum ≤ width) :
    ∃ n, (sideBySide width ts).flatten = ts.flatten ++ Text.spaces n ∧
      ((sideBySide width ts).map Text.cells).sum ≤ width := by
  have hsum : (ts.map Text.cells).foldr (· + ·) 0 = (ts.map Text.cells).sum := rfl
  unfold sideBySide
  dsimp only
  rw [hsum]
  split
  · refine ⟨width - (ts.map Text.cells).sum, by rw [List.flatten_append, List.flatten_singleton], ?_⟩
    have hspaces : (Text.spaces (width - (ts.map Text.cells).sum)).cells ≤
        width - (ts.map Text.cells).sum := Text.cellsFrom_spaces_le none _
    rw [List.map_append, List.sum_append, List.map_singleton, List.sum_singleton]
    omega
  · rw [if_neg (Nat.not_lt_of_le h)]
    exact ⟨0, (List.append_nil _).symm, h⟩

/-! ## One cell -/

variable {width : Nat} {line s : Styled} {cell : Text}

/-- So does a cell that is drawn. -/
theorem drawnFrom_drawnCell (width : Nat) (line : Styled) :
    Text.DrawnFrom (drawnCell width line) line.text := by
  have hinside := drawnFrom_sideBySide (width - ConsoleColumn.padding) line.segments
  rw [Styled.flatten_segments] at hinside
  unfold drawnCell
  dsimp only
  refine (drawnFrom_sideBySide width _).trans ?_
  rw [List.flatten_append, List.flatten_append, List.flatten_singleton]
  exact (hinside.spaces_append 1).append_spaces 1

/-- A line that has room is drawn with spaces around it. -/
theorem strip_drawnCell (hroom : (line.segments.map Text.cells).sum + ConsoleColumn.padding ≤ width) :
    (drawnCell width line).strip = line.text.strip := by
  have hpadding : ConsoleColumn.padding = 2 := rfl
  have hmargin : (Text.spaces 1).cells = 1 := by decide
  obtain ⟨n, hinside, hsum⟩ := sideBySide_of_fit (Nat.le_sub_of_add_le hroom)
  rw [Styled.flatten_segments] at hinside
  have hwhole : (([Text.spaces 1] ++ sideBySide (width - ConsoleColumn.padding) line.segments ++
      [Text.spaces 1]).map Text.cells).sum ≤ width := by
    rw [List.map_append, List.map_append, List.sum_append, List.sum_append, List.map_singleton,
      List.sum_singleton, hmargin]
    omega
  obtain ⟨m, hdrawn, -⟩ := sideBySide_of_fit hwhole
  show Text.strip (sideBySide width _).flatten = _
  rw [hdrawn, List.flatten_append, List.flatten_append, List.flatten_singleton, hinside]
  rw [Text.strip_append_spaces, Text.strip_append_spaces, Text.strip_spaces_append,
    Text.strip_append_spaces]

/-- No joiner is in the text, or no style is in it. -/
theorem sum_cells_segmentsFrom_le (start : Nat) (t : Text) (places : List Nat)
    (h : ∀ c ∈ t, c.isJoiner = false) :
    ((Styled.segmentsFrom start t places).map Text.cells).sum ≤ t.cells := by
  induction places generalizing start t with
  | nil => simp [Styled.segmentsFrom]
  | cons place rest ih =>
    have hopen : ¬ Text.EndsOpen (t.take (place - start)) := by
      rintro ⟨c, hc, hjoiner⟩
      exact absurd (h c (List.mem_of_mem_take (List.mem_of_getLast? hc))) (by simp [hjoiner])
    have hparts := Text.cells_add_cells_le hopen (t.drop (place - start))
    have hrest := ih place (t.drop (place - start)) fun c hc => h c (List.mem_of_mem_drop hc)
    rw [List.take_append_drop] at hparts
    rw [Styled.segmentsFrom, List.map_cons, List.sum_cons]
    omega

/-- The segments of a line take no more cells than the line where nothing joins them. -/
theorem sum_cells_segments_le (h : line.HasStyles [] ∨ ∀ c ∈ line.text, c.isJoiner = false) :
    (line.segments.map Text.cells).sum ≤ line.text.cells := by
  rcases h with hnone | hjoiner
  · rw [Styled.segments_of_hasStyles_nil hnone]
    simp
  · exact sum_cells_segmentsFrom_le 0 line.text _ hjoiner

/-- The lines of a cell. The options are those of all columns of these tables: text on the left, and an
ellipsis for a line that has no room. -/
def cellLines (width : Nat) (s : Styled) : List Styled :=
  s.wrapped .ellipsis .left (width - ConsoleColumn.padding)

/-- A text without line breaks that has room is drawn on one line, without its tabs. -/
theorem exists_cellLines (hline : CodePoint.ofChar '\n' ∉ s.text)
    (hroom : s.withoutTabs.text.cells + ConsoleColumn.padding ≤ width)
    (hsegments : s.HasStyles [] ∨ ∀ c ∈ s.text, c.isJoiner = false) :
    ∃ line, cellLines width s = [line] ∧
      (drawnCell width line).strip = s.withoutTabs.text.strip := by
  obtain ⟨line, hlines, hcells, hstrip⟩ := Styled.wrapped_left hline (Nat.le_sub_of_add_le hroom)
  have hmem : line ∈ s.wrapped .ellipsis .left (width - ConsoleColumn.padding) := by simp [hlines]
  refine ⟨line, hlines, ?_⟩
  rw [← hstrip]
  refine strip_drawnCell ?_
  have hsum : (line.segments.map Text.cells).sum ≤ line.text.cells := by
    refine sum_cells_segments_le (hsegments.imp (fun h => h.of_mem_wrapped hmem) fun h c hc => ?_)
    cases hjoiner : c.isJoiner with
    | false => rfl
    | true =>
      have hc' := (Styled.drawnFrom_of_mem_wrapped hmem).mem hc
        (by rintro rfl; exact absurd hjoiner (by decide))
        (by rintro rfl; exact absurd hjoiner (by decide))
      exact absurd (h c hc') (by simp [hjoiner])
  omega

/-- A verbatim text that has room is shown as it is written. It is one line then, and what the column adds
around it is white space. -/
theorem exists_cellLines_of_isVerbatim (h : Markup.IsVerbatim cell) (hline : CodePoint.ofChar '\n' ∉ cell)
    (hroom : cell.lineCells + ConsoleColumn.padding ≤ width) :
    ∃ line, cellLines width ⟨cell.filter Markup.isShown, []⟩ = [line] ∧
      (drawnCell width line).strip = cell.strip := by
  have hnone : (⟨cell.filter Markup.isShown, []⟩ : Styled).HasStyles [] := Styled.hasStyles_nil_iff.mpr rfl
  obtain ⟨line, hlines, hdrawn⟩ := exists_cellLines (s := ⟨cell.filter Markup.isShown, []⟩)
    (fun hmem => hline (List.mem_of_mem_filter hmem)) hroom (Or.inl hnone)
  refine ⟨line, hlines, ?_⟩
  -- Only white space around the text is dropped or filled.
  have hshown : Text.strip (cell.filter Markup.isShown) = cell.strip := by
    obtain ⟨front, back, hfront, hback, hcell⟩ := Text.exists_strip cell
    have hmiddle : cell.strip.filter Markup.isShown = cell.strip :=
      List.filter_eq_self.mpr fun c hc => (h.shown c hc).1
    conv_lhs => rw [hcell]
    rw [List.filter_append, List.filter_append, hmiddle,
      Text.strip_surrounded (fun c hc => hfront c (List.mem_of_mem_filter hc))
        (fun c hc => hback c (List.mem_of_mem_filter hc)),
      Text.strip_of_isStripped (Text.isStripped_strip cell)]
  have htabs := (Styled.tabsFilled_withoutTabs ⟨cell.filter Markup.isShown, []⟩).strip_eq (by
    show CodePoint.ofChar '\t' ∉ Text.strip (cell.filter Markup.isShown)
    rw [hshown]
    exact fun htab => (h.shown _ htab).2 rfl)
  rw [hdrawn, htabs]
  exact hshown

/-- What is shown as it is written is verbatim. All signs of the text are there in what is drawn, so none
of them can have been taken for markup, and no code point that was dropped can have been in it. -/
theorem isVerbatim_of_drawnCell (hread : Markup.read cell = .ok s)
    (hstrip : (drawnCell width ((cellLines width s).getD 0 ⟨[], []⟩)).strip = cell.strip) :
    Markup.IsVerbatim cell := by
  generalize hline : (cellLines width s).getD 0 ⟨[], []⟩ = line at hstrip
  obtain ⟨hfrom, htab⟩ : Text.DrawnFrom line.text s.text ∧ CodePoint.ofChar '\t' ∉ line.text := by
    rw [List.getD_eq_getElem?_getD] at hline
    cases hfirst : (cellLines width s)[0]? with
    | none =>
      rw [hfirst, Option.getD_none] at hline
      rw [← hline]
      exact ⟨.of_sublist (List.nil_sublist _), List.not_mem_nil⟩
    | some first =>
      rw [hfirst, Option.getD_some] at hline
      have hmem := List.mem_of_getElem? hfirst
      rw [← hline]
      exact ⟨Styled.drawnFrom_of_mem_wrapped hmem, Styled.tab_notMem_of_mem_wrapped hmem⟩
  have hdrawn := drawnFrom_drawnCell width line
  have hsign (c : CodePoint) (hc : c.isSign = true) : c.isBlank = false := by
    simp only [CodePoint.isSign, Bool.or_eq_true, decide_eq_true_eq] at hc
    rcases hc with ((rfl | rfl) | rfl) | rfl <;> decide
  refine ⟨Markup.isPlain_of_read hread ?_, fun c hc => ?_⟩
  · -- The signs of the text are all in what is drawn, so none of them is lost on the way.
    calc
      cell.countP CodePoint.isSign = (drawnCell width line).countP CodePoint.isSign := by
        rw [← Text.countP_strip hsign cell, ← hstrip, Text.countP_strip hsign]
      _ ≤ s.text.countP CodePoint.isSign := hdrawn.trans hfrom _ (by decide) (by decide)
  · rw [← hstrip] at hc
    have hmem := Text.mem_of_mem_strip hc
    by_cases hspace : c = CodePoint.ofChar ' '
    · rw [hspace]
      decide
    · by_cases hellipsis : c = CodePoint.ofChar '…'
      · rw [hellipsis]
        decide
      · have hline := hdrawn.mem hmem hspace hellipsis
        refine ⟨Markup.isShown_of_mem_read hread (hfrom.mem hline hspace hellipsis), ?_⟩
        rintro rfl
        exact htab hline

end TableLayout

end TermAudit
