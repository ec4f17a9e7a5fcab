import Mathlib.Algebra.Order.BigOperators.Group.List
import Mathlib.Algebra.Order.Group.Nat
import Mathlib.Data.List.Forall2
import TermAudit.Proofs.Console.Cell

/-!
# `TermAudit.Proofs.Console.Table`: the rows of a table

The rows of a table that is laid out are its rows before, each cell cut into lines for itself
(`ConsoleTable.bodyLines_laidOut`). If the widths that the columns need together fit on the console, every
column is wide enough for its texts (`ConsoleTable.room_of_fits`).
-/

set_option autoImplicit false

namespace TermAudit

/-- The maximum is at most a number exactly if all of them are. -/
theorem foldl_max_le_iff {ns : List Nat} {start n : Nat} :
    ns.foldl max start ≤ n ↔ start ≤ n ∧ ∀ m ∈ ns, m ≤ n := by
  induction ns generalizing start with
  | nil => simp
  | cons m ns ih => rw [List.foldl_cons, ih, Nat.max_le, List.forall_mem_cons, and_assoc]

/-- None of the numbers is past the maximum. -/
theorem le_foldl_max {ns : List Nat} {start m : Nat} (h : m ∈ ns) : m ≤ ns.foldl max start :=
  (foldl_max_le_iff.mp (Nat.le_refl _)).2 m h

/-- The width that a column needs for its texts, at least its least width. It is measured on whole texts,
since the texts that it is used for have no line breaks. -/
def ConsoleColumn.needed (c : ConsoleColumn Text) : Nat :=
  max c.minimum ((c.texts.map Text.cells).foldl max 0) + padding

/-- The console is wide enough for what all columns need. Then the layout narrows none of them, as it
narrows columns only to get below the width of the console. -/
def ConsoleTable.Fits (consoleWidth : Nat) (t : ConsoleTable Text) : Prop :=
  (t.columns.map ConsoleColumn.needed).sum + t.frame ≤ consoleWidth

namespace ConsoleTable

/-! ## Widths -/

/-- Narrowing the widest columns keeps the number of columns. -/
theorem length_reduceWidest (widest share excess count : Nat) (widths : List Nat) :
    (reduceWidest widest share excess count widths).length = widths.length := by
  fun_induction reduceWidest widest share excess count widths with
  | case1 => rfl
  | case2 excess count rest taken ih => rw [List.length_cons, List.length_cons, ih]
  | case3 excess count w rest hw ih => rw [List.length_cons, List.length_cons, ih]

/-- So does narrowing them again and again. -/
theorem length_narrowed (limit steps : Nat) (widths : List Nat) :
    (narrowed limit steps widths).length = widths.length := by
  induction steps generalizing widths with
  | zero => rfl
  | succ steps ih =>
    unfold narrowed
    split
    · rfl
    · dsimp only
      rw [ih, length_reduceWidest]

/-- Columns that fit are not narrowed. -/
theorem narrowed_of_fit {limit : Nat} {widths : List Nat} (h : widths.sum ≤ limit) (steps : Nat) :
    narrowed limit steps widths = widths := by
  cases steps with
  | zero => rfl
  | succ steps => exact if_pos h

/-- There is a width for each column. -/
theorem length_widths (consoleWidth : Nat) (t : ConsoleTable Styled) :
    (t.widths consoleWidth).length = t.columns.length := by
  unfold widths
  dsimp only
  rw [List.length_zipWith, length_narrowed, List.length_map, List.length_map, Nat.min_self]

/-- No column is narrower than its least width. -/
theorem least_le_widths (consoleWidth : Nat) (t : ConsoleTable Styled) :
    List.Forall₂ (fun c width => ConsoleColumn.least c ≤ width) t.columns (t.widths consoleWidth) := by
  refine List.forall₂_iff_get.mpr ⟨(length_widths consoleWidth t).symm, fun i hi hi' => ?_⟩
  simp only [widths, List.get_eq_getElem, List.getElem_zipWith, List.getElem_map]
  exact Nat.le_max_left _ _

/-- A column needs no less than any of its texts with the padding. -/
theorem cells_le_needed {c : ConsoleColumn Styled} {s : Styled} (hs : s ∈ c.texts) :
    s.text.cells + ConsoleColumn.padding ≤ (c.map Styled.text).needed := by
  have htexts : (c.map Styled.text).texts = c.texts.map Styled.text := rfl
  have hmem : s.text.cells ∈ (c.map Styled.text).texts.map Text.cells := by
    rw [htexts]
    exact List.mem_map_of_mem (List.mem_map_of_mem hs)
  have hmax : s.text.cells ≤ ((c.map Styled.text).texts.map Text.cells).foldl max 0 := le_foldl_max hmem
  unfold ConsoleColumn.needed
  omega

/-- A column without line breaks would like to have no more than it needs. -/
theorem preferred_le_needed {c : ConsoleColumn Styled}
    (hlines : ∀ s ∈ c.texts, ∀ x ∈ s.text, Text.isLineEnd x = false) (limit : Nat) :
    c.preferred limit ≤ (c.map Styled.text).needed := by
  have hleast : c.least ≤ (c.map Styled.text).needed :=
    Nat.add_le_add_right (Nat.le_max_left _ _) _
  refine Nat.max_le.mpr ⟨hleast, Nat.le_trans (Nat.min_le_right _ _) ?_⟩
  refine foldl_max_le_iff.mpr ⟨Nat.zero_le _, fun m hm => ?_⟩
  obtain ⟨s, hs, rfl⟩ := List.mem_map.mp hm
  have hcells := cells_le_needed hs
  rw [Text.widestLine_eq (hlines s hs)]
  omega

/-- It has room for its texts unless it needs more than there is. -/
theorem le_preferred {c : ConsoleColumn Styled} {limit : Nat}
    (hlines : ∀ s ∈ c.texts, ∀ x ∈ s.text, Text.isLineEnd x = false)
    (hneeded : (c.map Styled.text).needed ≤ limit) {s : Styled} (hs : s ∈ c.texts) :
    s.text.cells + ConsoleColumn.padding ≤ c.preferred limit := by
  have hcells := cells_le_needed hs
  have hmax : min s.text.widestLine limit + ConsoleColumn.padding ≤
      (c.texts.map fun s => min s.text.widestLine limit + ConsoleColumn.padding).foldl max 0 :=
    le_foldl_max (List.mem_map.mpr ⟨s, hs, rfl⟩)
  rw [Text.widestLine_eq (hlines s hs)] at hmax
  unfold ConsoleColumn.preferred
  dsimp only
  omega

/-- On a console that is wide enough every column has room for its texts. No width is reduced there, so
each column has the width that its widest text asks for. -/
theorem room_of_fits {t : ConsoleTable Styled} {consoleWidth : Nat}
    (hlines : ∀ c ∈ t.columns, ∀ s ∈ c.texts, ∀ x ∈ s.text, Text.isLineEnd x = false)
    (hfits : (t.map Styled.text).Fits consoleWidth) :
    List.Forall₂ (fun c width => ∀ s ∈ c.texts, s.text.cells + ConsoleColumn.padding ≤ width)
      t.columns (t.widths consoleWidth) := by
  have hneeded : (t.columns.map fun c => (c.map Styled.text).needed).sum ≤ consoleWidth - t.frame := by
    have hcolumns : (t.map Styled.text).columns.map ConsoleColumn.needed =
        t.columns.map fun c => (c.map Styled.text).needed := by
      simp [ConsoleTable.map, Function.comp_def]
    have hframe : (t.map Styled.text).frame = t.frame := by simp [frame, ConsoleTable.map]
    unfold Fits at hfits
    rw [hcolumns, hframe] at hfits
    omega
  have hpreferred : (t.columns.map (ConsoleColumn.preferred (consoleWidth - t.frame))).sum ≤
      consoleWidth - t.frame :=
    Nat.le_trans (List.sum_le_sum fun c hc => preferred_le_needed (hlines c hc) _) hneeded
  -- No column would like more than it needs, so all of them get what they would like.
  unfold widths
  dsimp only
  rw [narrowed_of_fit hpreferred, List.zipWith_map, List.zipWith_self, List.forall₂_map_right_iff,
    List.forall₂_same]
  intro c hc s hs
  have hmem : (c.map Styled.text).needed ∈ t.columns.map fun c => (c.map Styled.text).needed :=
    List.mem_map_of_mem hc
  have hcolumn := Nat.le_trans (List.le_sum_of_mem hmem) hneeded
  exact Nat.le_trans (le_preferred (hlines c hc) hcolumn hs) (Nat.le_max_right _ _)

/-! ## Rows -/

variable {title : Text} {columns : List (Text × Nat)} {rows : List (List Text)} {isRuled : Bool}
  {f : Text → Styled} {consoleWidth : Nat}

/-- The texts in the columns of a table are its headings and the cells of its rows. -/
theorem forall_columns_ofRows {p : Text → Prop} (hrows : ∀ row ∈ rows, row.length = columns.length)
    (hheadings : ∀ column ∈ columns, p column.1) (hcells : ∀ row ∈ rows, ∀ cell ∈ row, p cell) :
    ∀ c ∈ (ofRows title columns rows isRuled).columns, ∀ t ∈ c.texts, p t := by
  intro c hc t ht
  obtain ⟨⟨column, j⟩, hcolumn, rfl⟩ := List.mem_map.mp hc
  rcases List.mem_cons.mp ht with rfl | ht
  · exact hheadings column (List.fst_mem_of_mem_zipIdx hcolumn)
  · obtain ⟨row, hrow, rfl⟩ := List.mem_map.mp ht
    have hj : j < row.length := by
      rw [hrows row hrow]
      exact List.snd_lt_of_mem_zipIdx hcolumn
    have hcell : row.getD j [] = row[j] := by simp [hj]
    dsimp only
    rw [hcell]
    exact hcells row hrow _ (List.getElem_mem hj)

/-- A table that is laid out has a width for each of its columns. -/
theorem length_widths_laidOut :
    (((ofRows title columns rows isRuled).map f).laidOut consoleWidth).widths.length =
      columns.length := by
  show (widths consoleWidth _).length = _
  rw [length_widths]
  simp [ConsoleTable.map, ofRows]

/-- It has as many columns as before. -/
theorem length_columns_laidOut :
    (((ofRows title columns rows isRuled).map f).laidOut consoleWidth).lines.columns.length =
      columns.length := by
  show (List.zipWith columnLines _ (widths consoleWidth _)).length = _
  rw [List.length_zipWith, length_widths]
  simp [ConsoleTable.map, ofRows]

/-- A column in lines. -/
theorem getElem_columns_laidOut {j : Nat} (hj : j < columns.length) :
    let layout := ((ofRows title columns rows isRuled).map f).laidOut consoleWidth
    ∀ (_ : j < layout.lines.columns.length) (_ : j < layout.widths.length), layout.lines.columns[j] =
      columnLines ⟨columns[j].2, f columns[j].1, rows.map fun row => f (row.getD j [])⟩
        layout.widths[j] := by
  intro layout _ _
  have hlines : layout.lines.columns = List.zipWith columnLines
      ((ofRows title columns rows isRuled).columns.map (ConsoleColumn.map f)) layout.widths := rfl
  simp [hlines, ofRows, ConsoleColumn.map, Function.comp_def]

/-- The cells of a row, each in lines of its own. -/
theorem cells_laidOut {i : Nat} (hi : i < rows.length) (hrow : rows[i].length = columns.length) :
    let layout := ((ofRows title columns rows isRuled).map f).laidOut consoleWidth
    layout.lines.columns.map (fun c => c.cells.getD i []) =
      List.zipWith (fun width cell => TableLayout.cellLines width (f cell)) layout.widths rows[i] := by
  refine List.ext_getElem ?_ fun j hj hj' => ?_
  · rw [List.length_map, List.length_zipWith, length_columns_laidOut, length_widths_laidOut, hrow,
      Nat.min_self]
  · have hcolumn : j < columns.length := by rwa [List.length_map, length_columns_laidOut] at hj
    rw [List.getElem_map, List.getElem_zipWith,
      getElem_columns_laidOut hcolumn _ (by rwa [length_widths_laidOut])]
    simp [ConsoleColumn.map, columnLines, TableLayout.cellLines, hi, hrow, hcolumn]

/-- The rows of a table in lines are its rows, each cut into lines for itself. The layout works by
columns, and this turns it back into rows. -/
theorem bodyLines_laidOut (hcolumns : columns ≠ [])
    (hrows : ∀ row ∈ rows, row.length = columns.length) :
    let layout := ((ofRows title columns rows isRuled).map f).laidOut consoleWidth
    layout.bodyLines = rows.map fun row => layout.rowLines
      (List.zipWith (fun width cell => TableLayout.cellLines width (f cell)) layout.widths row) := by
  intro layout
  -- Every column has a cell for each row, so the longest column has as many as there are rows.
  have hcount : (layout.lines.columns.map fun c => c.cells.length).foldl max 0 = rows.length := by
    have hall : ∀ n ∈ layout.lines.columns.map (fun c => c.cells.length), n = rows.length := by
      intro n hn
      obtain ⟨j, hj, rfl⟩ := List.getElem_of_mem hn
      have hcolumn : j < columns.length := by rwa [List.length_map, length_columns_laidOut] at hj
      rw [List.getElem_map, getElem_columns_laidOut hcolumn _ (by rwa [length_widths_laidOut])]
      simp [ConsoleColumn.map, columnLines]
    have hone : 0 < (layout.lines.columns.map fun c => c.cells.length).length := by
      rw [List.length_map, length_columns_laidOut]
      exact List.length_pos_iff.mpr hcolumns
    refine Nat.le_antisymm (foldl_max_le_iff.mpr ⟨Nat.zero_le _, fun n hn => (hall n hn).le⟩) ?_
    exact (hall _ (List.getElem_mem hone)).ge.trans (le_foldl_max (List.getElem_mem hone))
  unfold TableLayout.bodyLines
  dsimp only
  rw [hcount]
  refine List.ext_getElem (by simp) fun i hi hi' => ?_
  have hrow : i < rows.length := by simpa using hi
  rw [List.getElem_map, List.getElem_map, List.getElem_range,
    cells_laidOut hrow (hrows _ (List.getElem_mem hrow))]

/-! ## Reading -/

variable {α β ε : Type} {g : α → Except ε β} {value : α → β}

/-- What is done for each text of a column gives the column of the single results. -/
theorem columnMap_of_mapM_eq_ok (hg : ∀ a b, g a = .ok b → value a = b) {c : ConsoleColumn α}
    {c' : ConsoleColumn β} (h : c.mapM g = .ok c') :
    c.map value = c' ∧ ∀ a ∈ c.texts, g a = .ok (value a) := by
  obtain ⟨heading, hheading, h⟩ := bind_eq_ok_iff.mp h
  obtain ⟨cells, hcells, h⟩ := bind_eq_ok_iff.mp h
  cases h
  obtain ⟨rfl, hall⟩ := map_of_mapM_eq_ok hg hcells
  obtain rfl := hg _ _ hheading
  exact ⟨rfl, List.forall_mem_cons.mpr ⟨hheading, hall⟩⟩

/-- What is done for each text of a table gives the table of the single results. -/
theorem map_of_mapM_eq_ok (hg : ∀ a b, g a = .ok b → value a = b) {t : ConsoleTable α}
    {t' : ConsoleTable β} (h : t.mapM g = .ok t') :
    t' = t.map value ∧ ∀ a ∈ t.texts, g a = .ok (value a) := by
  obtain ⟨columns, hcolumns, h⟩ := bind_eq_ok_iff.mp h
  obtain ⟨title, htitle, h⟩ := bind_eq_ok_iff.mp h
  cases h
  have hcolumn (c : ConsoleColumn α) (c' : ConsoleColumn β) (hc : c.mapM g = .ok c') :
      c.map value = c' := (columnMap_of_mapM_eq_ok hg hc).1
  obtain ⟨rfl, hall⟩ := TermAudit.map_of_mapM_eq_ok hcolumn hcolumns
  obtain rfl := hg _ _ htitle
  refine ⟨rfl, fun a ha => ?_⟩
  rcases List.mem_append.mp ha with ha | ha
  · obtain ⟨c, hc, ha⟩ := List.mem_flatMap.mp ha
    exact (columnMap_of_mapM_eq_ok hg (hall c hc)).2 a ha
  · rw [List.mem_singleton.mp ha]
    exact htitle

end ConsoleTable

namespace TableLayout

/-- A row whose cells are one line each is one line. -/
theorem rowLines_of_single (t : TableLayout) (lines : List Styled) :
    t.rowLines (lines.map fun line => [line]) = [List.zipWith drawnCell t.widths lines] := by
  have hheight : ((lines.map fun line => [line]).map List.length).foldl max 1 = 1 := by
    refine Nat.le_antisymm (foldl_max_le_iff.mpr ⟨Nat.le_refl 1, ?_⟩) (foldl_max_le_iff.mp (Nat.le_refl _)).1
    simp
  unfold rowLines
  dsimp only
  rw [hheight, List.range_one, List.map_singleton, List.zipWith_map_right]
  rfl

/-- A row that is one line shows the first lines of its cells. -/
theorem eq_of_rowLines {t : TableLayout} {cells : List (List Styled)} {drawn : List Text}
    (h : t.rowLines cells = [drawn]) :
    drawn = List.zipWith (fun width lines => drawnCell width (lines.getD 0 ⟨[], []⟩)) t.widths cells := by
  unfold rowLines at h
  dsimp only at h
  have hheight := congrArg List.length h
  rw [List.length_map, List.length_range, List.length_singleton] at hheight
  rw [hheight, List.range_one, List.map_singleton] at h
  exact (List.singleton_inj.mp h).symm

end TableLayout

end TermAudit
