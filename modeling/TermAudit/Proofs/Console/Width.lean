import TermAudit.Console.Wrap

/-!
# `TermAudit.Proofs.Console.Width`: the cells of parts of a text

A code point can take what is behind it along or widen what is before it, so the cells of a text are
not the sum of those of its parts. They are no fewer (`Text.cells_add_cells_le`) unless a joiner ends
the first part, and a start of a text takes no more cells than the text (`Text.cells_le_cells_append`).
Cutting a text into clusters loses nothing (`Text.flatMap_text_clusters`).
-/

set_option autoImplicit false

namespace TermAudit

namespace Text

variable {last : Option CodePoint} {c : CodePoint} {rest : Text}

/-! ## One code point -/

/-- A joiner takes the code point behind it along: neither of them takes cells. -/
theorem cellsFrom_joiner (hc : c.isJoiner = true) (d : CodePoint) :
    cellsFrom last (c :: d :: rest) = cellsFrom last rest := by
  rw [cellsFrom, if_pos hc]

/-- A mark that asks for color takes no cells of its own, and widens what is before it, once. -/
theorem cellsFrom_colorMark (hc : c.isJoiner ≠ true) (hmark : c.isColorMark = true) :
    cellsFrom last (c :: rest) = (last.map CodePoint.widening).getD 0 + cellsFrom none rest := by
  rw [cellsFrom.eq_def]
  simp only [hc, hmark, if_true, Bool.false_eq_true, if_false]

/-- A code point without width is passed over, and what is before it can still be widened. -/
theorem cellsFrom_zeroWidth (hc : c.isJoiner ≠ true) (hmark : c.isColorMark ≠ true)
    (hzero : c.cells = 0) : cellsFrom last (c :: rest) = cellsFrom last rest := by
  rw [cellsFrom.eq_def]
  simp only [hc, hmark, hzero, if_true, Bool.false_eq_true, if_false]

/-- Any other code point takes its cells, and is what a mark behind it would widen. -/
theorem cellsFrom_visible (hc : c.isJoiner ≠ true) (hmark : c.isColorMark ≠ true)
    (hzero : c.cells ≠ 0) : cellsFrom last (c :: rest) = c.cells + cellsFrom (some c) rest := by
  rw [cellsFrom.eq_def]
  simp only [hc, hmark, hzero, Bool.false_eq_true, if_false]

/-! ## The cells of a part -/

/-- What stands before a text can only be widened by it. -/
theorem cellsFrom_none_le (last : Option CodePoint) (t : Text) :
    cellsFrom none t ≤ cellsFrom last t := by
  fun_induction cellsFrom last t with
  | case1 last => exact Nat.zero_le _
  | case2 last c hjoiner => simp [cellsFrom, hjoiner]
  | case3 last c hjoiner d rest ih => rwa [cellsFrom_joiner hjoiner]
  | case4 last c rest hjoiner hmark ih =>
    rw [cellsFrom_colorMark hjoiner hmark, Option.map_none, Option.getD_none]
    omega
  | case5 last c rest hjoiner hmark hzero ih => rwa [cellsFrom_zeroWidth hjoiner hmark hzero]
  | case6 last c rest hjoiner hmark hzero ih => exact Nat.le_of_eq (cellsFrom_visible hjoiner hmark hzero)

/-- What comes behind a text takes away none of its cells. Induction along the text, for any code point
before it. -/
theorem cellsFrom_le_cellsFrom_append (last : Option CodePoint) (t more : Text) :
    cellsFrom last t ≤ cellsFrom last (t ++ more) := by
  fun_induction cellsFrom last t with
  | case1 last => exact Nat.zero_le _
  | case2 last c hjoiner => exact Nat.zero_le _
  | case3 last c hjoiner d rest ih =>
    show cellsFrom last rest ≤ cellsFrom last (c :: d :: (rest ++ more))
    rwa [cellsFrom_joiner hjoiner]
  | case4 last c rest hjoiner hmark ih =>
    rw [List.cons_append, cellsFrom_colorMark hjoiner hmark]
    omega
  | case5 last c rest hjoiner hmark hzero ih =>
    rwa [List.cons_append, cellsFrom_zeroWidth hjoiner hmark hzero]
  | case6 last c rest hjoiner hmark hzero ih =>
    rw [List.cons_append, cellsFrom_visible hjoiner hmark hzero]
    omega

/-- A start of a text takes no more cells than the text. So cutting a text never makes it wider, although
its last code point may lose what widened it. -/
theorem cells_le_cells_append (t more : Text) : t.cells ≤ cells (t ++ more) :=
  cellsFrom_le_cellsFrom_append none t more

/-- A start of a text takes no more cells than all of it. -/
theorem cells_le_of_prefix {s t : Text} (h : s <+: t) : s.cells ≤ t.cells := by
  obtain ⟨more, rfl⟩ := h
  exact cells_le_cells_append s more

/-- A joiner at the end of a text would take along what comes behind. So it is the one end of a text after
which the cells of the two parts are not bounded by those of the whole. -/
def EndsOpen (t : Text) : Prop :=
  ∃ c, t.getLast? = some c ∧ c.isJoiner = true

/-- What ends open does so whatever is before it. -/
theorem EndsOpen.of_cons (h : EndsOpen rest) : EndsOpen (c :: rest) := by
  obtain ⟨x, hx, hjoiner⟩ := h
  exact ⟨x, by rw [List.getLast?_cons, hx, Option.getD_some], hjoiner⟩

/-- The cells of two parts, with any code point before the first. What the first part ends with can be
widened by the second, so the second part counts as on its own at least. -/
theorem cellsFrom_add_cells_le {t : Text} (h : ¬ t.EndsOpen) (last : Option CodePoint)
    (more : Text) : cellsFrom last t + more.cells ≤ cellsFrom last (t ++ more) := by
  -- Only the end of the first part must not be open, so the assumption is handed on from step to step.
  fun_induction cellsFrom last t with
  | case1 last =>
    rw [Nat.zero_add]
    exact cellsFrom_none_le last more
  | case2 last c hjoiner => exact absurd ⟨c, rfl, hjoiner⟩ h
  | case3 last c hjoiner d rest ih =>
    show cellsFrom last rest + more.cells ≤ cellsFrom last (c :: d :: (rest ++ more))
    rw [cellsFrom_joiner hjoiner]
    exact ih fun hrest => h hrest.of_cons.of_cons
  | case4 last c rest hjoiner hmark ih =>
    have hrest := ih fun hrest => h hrest.of_cons
    rw [List.cons_append, cellsFrom_colorMark hjoiner hmark]
    omega
  | case5 last c rest hjoiner hmark hzero ih =>
    rw [List.cons_append, cellsFrom_zeroWidth hjoiner hmark hzero]
    exact ih fun hrest => h hrest.of_cons
  | case6 last c rest hjoiner hmark hzero ih =>
    have hrest := ih fun hrest => h hrest.of_cons
    rw [List.cons_append, cellsFrom_visible hjoiner hmark hzero]
    omega

/-- Two parts take no more cells than the text. A joiner at the end of the first part is excluded, as it
would take along what comes behind. -/
theorem cells_add_cells_le {t : Text} (h : ¬ t.EndsOpen) (more : Text) :
    t.cells + more.cells ≤ cells (t ++ more) :=
  cellsFrom_add_cells_le h none more

/-- Spaces take one cell each. -/
theorem cellsFrom_spaces_le (last : Option CodePoint) (n : Nat) :
    cellsFrom last (spaces n) ≤ n := by
  induction n generalizing last with
  | zero => exact Nat.zero_le _
  | succ n ih =>
    have hspace : (CodePoint.ofChar ' ').cells = 1 := by decide
    have hspaces := ih (some (CodePoint.ofChar ' '))
    show cellsFrom last (CodePoint.ofChar ' ' :: spaces n) ≤ n + 1
    rw [cellsFrom_visible (by decide) (by decide) (by decide), hspace]
    omega

/-- Spaces at the end take at most one cell each: a joiner before them takes one along. -/
theorem cellsFrom_append_spaces_le (last : Option CodePoint) (t : Text) (n : Nat) :
    cellsFrom last (t ++ spaces n) ≤ cellsFrom last t + n := by
  fun_induction cellsFrom last t with
  | case1 last =>
    rw [Nat.zero_add]
    exact cellsFrom_spaces_le last n
  | case2 last c hjoiner =>
    -- The joiner takes the first of the spaces along.
    cases n with
    | zero => exact Nat.le_of_eq (by simp [spaces, cellsFrom, hjoiner])
    | succ n =>
      have hspaces := cellsFrom_spaces_le last n
      show cellsFrom last (c :: CodePoint.ofChar ' ' :: spaces n) ≤ 0 + (n + 1)
      rw [cellsFrom_joiner hjoiner]
      omega
  | case3 last c hjoiner d rest ih =>
    show cellsFrom last (c :: d :: (rest ++ spaces n)) ≤ _
    rwa [cellsFrom_joiner hjoiner]
  | case4 last c rest hjoiner hmark ih =>
    rw [List.cons_append, cellsFrom_colorMark hjoiner hmark]
    omega
  | case5 last c rest hjoiner hmark hzero ih =>
    rwa [List.cons_append, cellsFrom_zeroWidth hjoiner hmark hzero]
  | case6 last c rest hjoiner hmark hzero ih =>
    rw [List.cons_append, cellsFrom_visible hjoiner hmark hzero]
    omega

/-- Spaces behind a text take no more cells than there are spaces. -/
theorem cells_append_spaces_le (t : Text) (n : Nat) : cells (t ++ spaces n) ≤ t.cells + n :=
  cellsFrom_append_spaces_le none t n

/-! ## Clusters -/

/-- Cutting the rest of a text into clusters loses nothing of it, nor of the clusters that are there
already, last one first. -/
theorem flatMap_text_clustersFrom (last : Option CodePoint) (clusters : List Cluster) (t : Text) :
    (clustersFrom last clusters t).flatMap Cluster.text =
      clusters.reverse.flatMap Cluster.text ++ t := by
  fun_induction clustersFrom last clusters t with
  | case1 last clusters => simp
  | case2 last c rest hzero ih => simp [ih, Cluster.text]
  | case3 last c rest hzero ih => simp [ih, Cluster.text]
  | case4 last cluster others c hjoiner => simp [Cluster.text]
  | case5 last cluster others c hjoiner d rest ih => simp [ih, Cluster.text]
  | case6 last cluster others c rest hjoiner hmark widening ih => simp [ih, Cluster.text]
  | case7 last cluster others c rest hjoiner hmark hzero ih => simp [ih, Cluster.text]
  | case8 last cluster others c rest hjoiner hmark hzero ih => simp [ih, Cluster.text]

/-- The clusters of a text are the text. Lines are cut between clusters, so nothing is lost when a word is
folded. -/
theorem flatMap_text_clusters (t : Text) : t.clusters.flatMap Cluster.text = t :=
  flatMap_text_clustersFrom none [] t

/-- The first clusters are a start of the text, and perhaps a space. -/
theorem firstClusters_eq (room : Nat) (clusters : List Cluster) : ∃ front n,
    front <+: clusters.flatMap Cluster.text ∧ firstClusters room clusters = front ++ spaces n := by
  fun_induction firstClusters room clusters with
  | case1 clusters => exact ⟨[], 0, List.nil_prefix, rfl⟩
  | case2 room => exact ⟨[], 0, List.nil_prefix, rfl⟩
  | case3 room cluster rest hfit ih =>
    obtain ⟨front, n, hfront, hfirst⟩ := ih
    refine ⟨cluster.text ++ front, n, ?_, by rw [hfirst, List.append_assoc]⟩
    rw [List.flatMap_cons]
    exact (List.prefix_append_right_inj _).mpr hfront
  | case4 room cluster rest hfit => exact ⟨[], 1, List.nil_prefix, rfl⟩

/-- A text on a number of cells is a start of it, and spaces. -/
theorem cropped_eq (total : Nat) (t : Text) : ∃ front n, front <+: t ∧
    t.cropped total = front ++ spaces n := by
  unfold cropped
  dsimp only
  split
  · exact ⟨[], 0, List.nil_prefix, rfl⟩
  · split
    · exact ⟨t, total - t.cells, List.prefix_rfl, rfl⟩
    · have hfirst := firstClusters_eq total t.clusters
      rwa [flatMap_text_clusters] at hfirst

/-! ## Lines -/

/-- Without an end of a line, all that is left belongs to the line that has begun. -/
theorem widestFrom_eq {before t : Text} {widest : Nat} (h : ∀ c ∈ t, isLineEnd c = false) :
    widestFrom before widest t = max (cells (before.reverse ++ t)) widest := by
  induction t generalizing before with
  | nil => rw [widestFrom, List.append_nil]
  | cons c rest ih =>
    obtain ⟨hc, hrest⟩ := List.forall_mem_cons.mp h
    rw [widestFrom, if_neg (by simp [hc]), ih hrest, List.reverse_cons, List.append_assoc,
      List.singleton_append]

/-- A text in which no line ends is as wide as its only line. -/
theorem widestLine_eq {t : Text} (h : ∀ c ∈ t, isLineEnd c = false) : t.widestLine = t.cells := by
  unfold widestLine
  rw [widestFrom_eq h, Nat.max_zero]
  rfl

end Text

end TermAudit
