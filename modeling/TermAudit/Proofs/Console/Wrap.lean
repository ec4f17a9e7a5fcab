import Mathlib.Algebra.GroupWithZero.Nat
import TermAudit.Proofs.Console.Styled
import TermAudit.Proofs.Console.Width
import TermAudit.Proofs.Text.Blank

/-!
# `TermAudit.Proofs.Console.Wrap`: what the lines of a text hold

A line of a wrapped text holds nothing but a part of the text, spaces and an ellipsis
(`Styled.drawnFrom_of_mem_wrapped`), and no styles but those of the text. A text without line breaks whose
cells fit on a line is one line: with spaces for its tabs, and spaces behind it (`Styled.wrapped_left`).
-/

set_option autoImplicit false

namespace TermAudit

namespace Text

variable {t u v : Text}

/-- Spaces at the end are stripped, so padding on the right does not show in a stripped text. -/
theorem strip_append_spaces (t : Text) (n : Nat) : Text.strip (t ++ spaces n) = t.strip :=
  strip_append_right (allBlank_spaces n) t

/-- The same for spaces at the start. -/
theorem strip_spaces_append (n : Nat) (t : Text) : Text.strip (spaces n ++ t) = t.strip :=
  strip_append_left (allBlank_spaces n) t

/-! ## Parts of a text -/

/-- There is nothing in `u` that is not in `v`, as often as there, but spaces and ellipses. It is said by
counting, since this goes well with cutting and putting together, and signs of markup are counted too. -/
def DrawnFrom (u v : Text) : Prop :=
  ∀ p : CodePoint → Bool, p (CodePoint.ofChar ' ') = false → p (CodePoint.ofChar '…') = false →
    u.countP p ≤ v.countP p

namespace DrawnFrom

/-- A text has nothing but what is in it. -/
theorem refl (t : Text) : DrawnFrom t t :=
  fun _ _ _ => Nat.le_refl _

/-- Steps that add nothing can be put together. -/
theorem trans (huv : DrawnFrom t u) (hvw : DrawnFrom u v) : DrawnFrom t v :=
  fun p hspace hellipsis => Nat.le_trans (huv p hspace hellipsis) (hvw p hspace hellipsis)

/-- Leaving something out adds nothing. -/
theorem of_sublist (h : u.Sublist v) : DrawnFrom u v :=
  fun _ _ _ => h.countP_le

/-- Padding on the right adds spaces alone, which are not counted. -/
theorem append_spaces (h : DrawnFrom u v) (n : Nat) : DrawnFrom (u ++ spaces n) v := by
  intro p hspace hellipsis
  have hspaces : (spaces n).countP p = 0 := by
    unfold spaces
    rw [List.countP_replicate, if_neg (by simp [hspace])]
  rw [List.countP_append, hspaces]
  exact h p hspace hellipsis

/-- A cut text ends with an ellipsis, which is not counted either. -/
theorem append_ellipsis (h : DrawnFrom u v) : DrawnFrom (u ++ ("…" : Text)) v := by
  intro p hspace hellipsis
  have hone : ("…" : Text).countP p = 0 := by
    show List.countP p [CodePoint.ofChar '…'] = 0
    rw [List.countP_singleton, if_neg (by simp [hellipsis])]
  rw [List.countP_append, hone]
  exact h p hspace hellipsis

/-- Two texts side by side have what they have together. -/
theorem append {u' v' : Text} (h : DrawnFrom u v) (h' : DrawnFrom u' v') :
    DrawnFrom (u ++ u') (v ++ v') := by
  intro p hspace hellipsis
  have hleft := h p hspace hellipsis
  have hright := h' p hspace hellipsis
  rw [List.countP_append, List.countP_append]
  omega

/-- Padding on the left. -/
theorem spaces_append (h : DrawnFrom u v) (n : Nat) : DrawnFrom (spaces n ++ u) v := by
  have hspaces : DrawnFrom (spaces n) [] := (DrawnFrom.refl []).append_spaces n
  exact hspaces.append h

/-- Of a code point that is drawn and no space and no ellipsis there is one in the text. -/
theorem mem {c : CodePoint} (h : DrawnFrom u v) (hc : c ∈ u) (hspace : c ≠ CodePoint.ofChar ' ')
    (hellipsis : c ≠ CodePoint.ofChar '…') : c ∈ v := by
  have hcount := h (fun d => d = c) (decide_eq_false hspace.symm) (decide_eq_false hellipsis.symm)
  have hpos : 0 < u.countP fun d => d = c := List.countP_pos_iff.mpr ⟨c, hc, decide_eq_true rfl⟩
  obtain ⟨d, hd, heq⟩ := List.countP_pos_iff.mp (Nat.lt_of_lt_of_le hpos hcount)
  rwa [← of_decide_eq_true heq]

end DrawnFrom

/-- Each of the joined pieces is in the text that they make. -/
theorem sublist_joinWith {sep piece : Text} {pieces : List Text} (h : piece ∈ pieces) :
    piece.Sublist (joinWith sep pieces) := by
  induction pieces with
  | nil => cases h
  | cons first rest ih =>
    cases rest with
    | nil =>
      rw [List.mem_singleton.mp h]
      exact List.Sublist.refl _
    | cons next rest =>
      show piece.Sublist (first ++ sep ++ joinWith sep (next :: rest))
      rcases List.mem_cons.mp h with rfl | h
      · rw [List.append_assoc]
        exact List.sublist_append_left _ _
      · exact (ih h).trans (List.sublist_append_right _ _)

/-- Stripping the end leaves the front. -/
theorem stripEnd_prefix (t : Text) : t.stripEnd <+: t := by
  unfold stripEnd
  rw [← List.reverse_suffix, List.reverse_reverse]
  exact List.dropWhile_suffix _

/-- So does dropping the white space that does not fit. -/
theorem withoutExcessBlanks_prefix (width : Nat) (t : Text) : t.withoutExcessBlanks width <+: t :=
  List.take_prefix _ _

/-- Blanks that are dropped at the end do not change what is left of the text. -/
theorem strip_withoutExcessBlanks (width : Nat) (t : Text) :
    (t.withoutExcessBlanks width).strip = t.strip := by
  have hback : t.stripEnd ++ t.rtakeWhile CodePoint.isBlank = t := by
    unfold stripEnd List.rtakeWhile
    rw [← List.reverse_append, List.takeWhile_append_dropWhile, List.reverse_reverse]
  have hblank : AllBlank (t.rtakeWhile CodePoint.isBlank) := fun c hc => List.mem_rtakeWhile_imp hc
  -- No more is dropped than the blanks at the end, and what is kept of them stands behind the rest.
  have hlength := congrArg List.length hback
  rw [List.length_append] at hlength
  obtain ⟨kept, hkept⟩ : ∃ kept, t.length - min (t.length - t.stripEnd.length) (t.length - width) =
      t.stripEnd.length + kept := ⟨_, (Nat.add_sub_of_le (by omega)).symm⟩
  have htake : t.withoutExcessBlanks width = t.stripEnd ++ (t.rtakeWhile CodePoint.isBlank).take kept := by
    unfold withoutExcessBlanks
    dsimp only
    rw [hkept, ← List.take_length_add_append, hback]
  rw [htake, strip_append_right fun c hc => hblank c (List.mem_of_mem_take hc),
    ← strip_append_right hblank t.stripEnd, hback]

/-- A text that is cut to a width has a part of its clusters, and perhaps spaces in place of one that was
cut in two. -/
theorem drawnFrom_cropped (total : Nat) (t : Text) : DrawnFrom (t.cropped total) t := by
  obtain ⟨front, n, hfront, hcropped⟩ := cropped_eq total t
  rw [hcropped]
  exact (DrawnFrom.of_sublist hfront.sublist).append_spaces n

/-- Fitting a text into a width crops or pads it, or puts an ellipsis at its end. All of these add nothing
but spaces and ellipses. -/
theorem drawnFrom_fitted (overflow : Overflow) (width : Nat) (t : Text) :
    DrawnFrom (t.fitted overflow width) t := by
  unfold fitted
  split
  · exact DrawnFrom.refl t
  · cases overflow with
    | fold => exact drawnFrom_cropped width t
    | ellipsis => exact (drawnFrom_cropped (width - 1) t).append_ellipsis

/-! ## Words -/

/-- A text with a word in it has at least one line to be put on. -/
theorem spacedWordsFrom_ne_nil {before : Text} (h : before.all CodePoint.isBlank = false) (t : Text) :
    spacedWordsFrom before t ≠ [] := by
  fun_induction spacedWordsFrom before t with
  | case1 before hblank => exact absurd (h.symm.trans hblank) Bool.false_ne_true
  | case2 before hblank => exact List.cons_ne_nil _ _
  | case3 before c rest hword ih => exact List.cons_ne_nil _ _
  | case4 before c rest hword ih => exact ih (by simp [h])

/-- The words are the text, unless there is none. -/
theorem flatten_spacedWordsFrom {before t : Text} (h : spacedWordsFrom before t ≠ []) :
    (spacedWordsFrom before t).flatten = before.reverse ++ t := by
  fun_induction spacedWordsFrom before t with
  | case1 before hblank => exact absurd rfl h
  | case2 before hblank => simp
  | case3 before c rest hword ih =>
    have hc : c.isBlank = false := by
      simp only [Bool.and_eq_true, Bool.not_eq_true'] at hword
      exact hword.1.1
    rw [List.flatten_cons, ih (spacedWordsFrom_ne_nil (by simp [hc]) rest)]
    rfl
  | case4 before c rest hword ih =>
    rw [ih h]
    simp

/-- A blank ends no text that would take along what comes behind. -/
theorem not_endsOpen_of_blank {c : CodePoint} (hlast : t.getLast? = some c) (hc : c.isBlank = true) :
    ¬ t.EndsOpen := by
  rintro ⟨d, hd, hjoiner⟩
  rw [hlast] at hd
  obtain rfl := Option.some.inj hd
  have hval : c.val = 0x200D := by simpa [CodePoint.isJoiner] using hjoiner
  rw [CodePoint.isBlank, hval] at hc
  exact absurd hc (by decide)

/-- The words together take no more cells than the text. -/
theorem sum_cells_spacedWordsFrom_le (before t : Text) :
    ((spacedWordsFrom before t).map cells).sum ≤ cells (before.reverse ++ t) := by
  fun_induction spacedWordsFrom before t with
  | case1 before hblank => exact Nat.zero_le _
  | case2 before hblank => simp
  | case3 before c rest hword ih =>
    obtain ⟨d, hd, hblank⟩ : ∃ d, before.head? = some d ∧ d.isBlank = true := by
      simp only [Bool.and_eq_true] at hword
      exact (Option.any_eq_true _ _).mp hword.1.2
    -- The word that ends here ends with a blank, so it takes nothing of the next one along.
    have hopen : ¬ EndsOpen before.reverse :=
      not_endsOpen_of_blank (by rw [List.getLast?_reverse, hd]) hblank
    have hparts := cells_add_cells_le hopen (c :: rest)
    rw [List.map_cons, List.sum_cons]
    simp only [List.reverse_singleton, List.singleton_append] at ih
    omega
  | case4 before c rest hword ih => simpa using ih

/-! ## Broken lines -/

/-- The text of a line that grows. The line keeps its words last one first, as they are put on it. -/
def OpenLine.text (line : OpenLine) : Text :=
  line.before.reverse

/-- The text of lines, last line first. It does not change when words are placed on them, except that the
new word comes at the end. -/
def grown (lines : List OpenLine) : Text :=
  lines.reverse.flatMap OpenLine.text

/-- The first line of the list is the last one of the text. -/
theorem grown_cons (line : OpenLine) (lines : List OpenLine) :
    grown (line :: lines) = grown lines ++ line.text := by
  simp [grown]

/-- A word that is too long is folded over several lines, and all of its clusters are there. -/
theorem grown_foldOver (width : Nat) (line : OpenLine) (lines : List OpenLine)
    (clusters : List Cluster) :
    grown (foldOver width line lines clusters) =
      grown lines ++ line.text ++ clusters.flatMap Cluster.text := by
  induction clusters generalizing line lines with
  | nil => simp [foldOver, grown_cons, OpenLine.ofText, OpenLine.text]
  | cons c rest ih =>
    rw [foldOver, List.flatMap_cons]
    split
    · rw [ih, grown_cons]
      simp [OpenLine.text, Cluster.text]
    · rw [ih]
      simp [OpenLine.text, Cluster.text]

/-- A word goes on one of the lines, or on several. -/
theorem grown_placeWord (overflow : Overflow) (width : Nat) (lines : List OpenLine) (word : Text) :
    grown (placeWord overflow width lines word) = grown lines ++ word := by
  -- A word that does not fit on the line begins a new one, or it is folded over several.
  have hstart (needed : Nat) :
      grown (placeWord.startLine overflow width lines word needed) = grown lines ++ word := by
    unfold placeWord.startLine
    split
    · rw [grown_foldOver, flatMap_text_clusters]
      simp [OpenLine.text]
    · rw [grown_cons]
      simp [OpenLine.ofText, OpenLine.text]
  unfold placeWord
  dsimp only
  cases lines with
  | nil => exact hstart _
  | cons line others =>
    dsimp only
    split
    · rw [grown_cons, grown_cons]
      simp [OpenLine.append, OpenLine.text]
    · exact hstart _

/-- So the lines together have all the words, in their order, wherever lines were broken. Induction on the
words. -/
theorem grown_foldl_placeWord (overflow : Overflow) (width : Nat) (lines : List OpenLine)
    (words : List Text) :
    grown (words.foldl (placeWord overflow width) lines) = grown lines ++ words.flatten := by
  induction words generalizing lines with
  | nil => simp
  | cons word rest ih => rw [List.foldl_cons, ih, grown_placeWord, List.flatten_cons, List.append_assoc]

/-- The lines of a text are the text. -/
theorem flatten_brokenLines (overflow : Overflow) (width : Nat) (t : Text) :
    (brokenLines overflow width t).flatten = t := by
  unfold brokenLines
  split
  · rw [List.flatten_singleton]
  · rename_i words hwords
    have hgrown := grown_foldl_placeWord overflow width [] t.spacedWords
    have hflatten : t.spacedWords.flatten = t := flatten_spacedWordsFrom hwords
    rw [hflatten] at hgrown
    exact hgrown

/-- Words that fit all go on the line that is there. -/
theorem foldl_placeWord_of_fit {overflow : Overflow} {width : Nat} {line : OpenLine}
    {words : List Text} (h : line.cells + (words.map cells).sum ≤ width) :
    ∃ line', words.foldl (placeWord overflow width) [line] = [line'] := by
  induction words generalizing line with
  | nil => exact ⟨line, rfl⟩
  | cons word rest ih =>
    rw [List.map_cons, List.sum_cons] at h
    have hneeded : word.stripEnd.cells ≤ word.cells := cells_le_of_prefix word.stripEnd_prefix
    have hplace : placeWord overflow width [line] word = [line.append word] := by
      unfold placeWord
      exact if_pos (by omega)
    rw [List.foldl_cons, hplace]
    refine ih ?_
    show line.cells + word.cells + _ ≤ width
    omega

/-- A text that fits is one line. -/
theorem brokenLines_of_fit (overflow : Overflow) {width : Nat} (h : t.cells ≤ width) :
    brokenLines overflow width t = [t] := by
  -- It is enough that there is one line, since the lines together are the text.
  have hone : ∃ line, brokenLines overflow width t = [line] := by
    unfold brokenLines
    split
    · exact ⟨t, rfl⟩
    · rename_i words hwords
      have hsum : (t.spacedWords.map cells).sum ≤ t.cells := sum_cells_spacedWordsFrom_le [] t
      cases hfirst : t.spacedWords with
      | nil => exact absurd hfirst hwords
      | cons word rest =>
        rw [hfirst, List.map_cons, List.sum_cons] at hsum
        -- The first word starts the line; the blanks behind it are not counted there, so it has room.
        have hneeded : word.stripEnd.cells ≤ word.cells := cells_le_of_prefix word.stripEnd_prefix
        have hplace : placeWord overflow width [] word = [OpenLine.ofText word] := by
          unfold placeWord placeWord.startLine
          exact if_neg fun h => by omega
        rw [List.foldl_cons, hplace]
        obtain ⟨line, hline⟩ : ∃ line, rest.foldl (placeWord overflow width) [OpenLine.ofText word] =
            [line] := by
          refine foldl_placeWord_of_fit ?_
          show word.cells + _ ≤ width
          omega
        exact ⟨_, by rw [hline]; rfl⟩
  obtain ⟨line, hline⟩ := hone
  have hflatten := flatten_brokenLines overflow width t
  rw [hline, List.flatten_singleton] at hflatten
  rw [hline, hflatten]

/-! ## Tabs -/

/-- A text, and the same with spaces in place of each tab. How many spaces there are depends on where the
tab stands on its line. It is left open here, but there is always one. -/
inductive TabsFilled : Text → Text → Prop
  | nil : TabsFilled [] []
  | keep (c : CodePoint) (t u : Text) (hc : c ≠ CodePoint.ofChar '\t') (h : TabsFilled t u) :
    TabsFilled (c :: t) (c :: u)
  | fill (n : Nat) (t u : Text) (h : TabsFilled t u) :
    TabsFilled (CodePoint.ofChar '\t' :: t) (spaces (n + 1) ++ u)

namespace TabsFilled

/-- Without a tab there is nothing to fill in. -/
theorem of_notMem (h : CodePoint.ofChar '\t' ∉ t) : TabsFilled t t := by
  induction t with
  | nil => exact nil
  | cons c t ih =>
    rw [List.mem_cons, not_or] at h
    exact keep c t t (Ne.symm h.1) (ih h.2)

/-- Filled texts can be put together. -/
theorem append {t' u' : Text} (h : TabsFilled t u) (h' : TabsFilled t' u') :
    TabsFilled (t ++ t') (u ++ u') := by
  induction h with
  | nil => exact h'
  | keep c t u hc _ ih => exact keep c _ _ hc ih
  | fill n t u _ ih =>
    rw [List.append_assoc]
    exact fill n _ _ ih

/-- And they can be taken apart where the text can. -/
theorem exists_of_append {front back : Text} (h : TabsFilled (front ++ back) v) :
    ∃ front' back', TabsFilled front front' ∧ TabsFilled back back' ∧ v = front' ++ back' := by
  induction front generalizing v with
  | nil => exact ⟨[], v, nil, h, rfl⟩
  | cons c front ih =>
    rw [List.cons_append] at h
    cases h with
    | keep _ _ u hc h =>
      obtain ⟨front', back', hfront, hback, rfl⟩ := ih h
      exact ⟨c :: front', back', keep c _ _ hc hfront, hback, rfl⟩
    | fill n _ u h =>
      obtain ⟨front', back', hfront, hback, rfl⟩ := ih h
      exact ⟨_, back', fill n _ _ hfront, hback, (List.append_assoc _ _ _).symm⟩

/-- Where there was no tab, nothing was filled in. -/
theorem eq_of_notMem (h : TabsFilled t u) (htab : CodePoint.ofChar '\t' ∉ t) : u = t := by
  induction h with
  | nil => rfl
  | keep c t u _ _ ih => rw [ih fun hmem => htab (List.mem_cons_of_mem c hmem)]
  | fill n t u _ _ => exact absurd List.mem_cons_self htab

/-- A tab is white space, and so are the spaces in its place. -/
theorem allBlank (h : TabsFilled t u) (hblank : t.AllBlank) : u.AllBlank := by
  induction h with
  | nil => exact hblank
  | keep c t u _ _ ih =>
    obtain ⟨hc, ht⟩ := List.forall_mem_cons.mp hblank
    exact List.forall_mem_cons.mpr ⟨hc, ih ht⟩
  | fill n t u _ ih =>
    intro c hc
    rcases List.mem_append.mp hc with hc | hc
    · exact allBlank_spaces _ c hc
    · exact ih (List.forall_mem_cons.mp hblank).2 c hc

/-- What is filled in are spaces. -/
theorem drawnFrom (h : TabsFilled t u) : DrawnFrom u t := by
  intro p hspace hellipsis
  induction h with
  | nil => exact Nat.le_refl 0
  | keep c t u _ _ ih =>
    rw [List.countP_cons, List.countP_cons]
    omega
  | fill n t u _ ih =>
    have hspaces : (spaces (n + 1)).countP p = 0 := by
      unfold spaces
      rw [List.countP_replicate, if_neg (by simp [hspace])]
    rw [List.countP_append, hspaces, List.countP_cons]
    omega

/-- No tab is left. -/
theorem tab_notMem (h : TabsFilled t u) : CodePoint.ofChar '\t' ∉ u := by
  induction h with
  | nil => exact List.not_mem_nil
  | keep c t u hc _ ih => exact List.not_mem_cons_of_ne_of_not_mem hc.symm ih
  | fill n t u _ ih =>
    intro hmem
    rcases List.mem_append.mp hmem with hmem | hmem
    · exact absurd (List.eq_of_mem_replicate hmem) (by decide)
    · exact ih hmem

/-- Tabs around a text are white space before and after them. -/
theorem strip_eq (h : TabsFilled t u) (htab : CodePoint.ofChar '\t' ∉ t.strip) : u.strip = t.strip := by
  obtain ⟨front, back, hfront, hback, ht⟩ := exists_strip t
  rw [ht] at h
  obtain ⟨start, back', hstart, hback', rfl⟩ := h.exists_of_append
  obtain ⟨front', middle, hfront', hmiddle, rfl⟩ := hstart.exists_of_append
  rw [hmiddle.eq_of_notMem htab, strip_surrounded (hfront'.allBlank hfront) (hback'.allBlank hback),
    strip_of_isStripped (isStripped_strip t)]

/-- Pieces between tabs, each but the last with spaces behind it. -/
theorem of_splitAll (room : Text → Nat) {pieces : List Text} (hne : pieces ≠ [])
    (h : ∀ piece ∈ pieces, CodePoint.ofChar '\t' ∉ piece) :
    TabsFilled (joinWith [CodePoint.ofChar '\t'] pieces)
      (pieces.dropLast.flatMap (fun piece => piece ++ spaces (room piece + 1)) ++ pieces.getLastD []) := by
  induction pieces with
  | nil => exact absurd rfl hne
  | cons piece rest ih =>
    obtain ⟨hpiece, hrest⟩ := List.forall_mem_cons.mp h
    cases rest with
    | nil => exact of_notMem hpiece
    | cons next rest =>
      have hfilled := (of_notMem hpiece).append (fill (room piece) _ _ (ih (List.cons_ne_nil _ _) hrest))
      simpa [joinWith] using hfilled

end TabsFilled

/-- The spaces that follow the first one in the place of a tab behind a text. Together they lead to the
next stop, where stops are as far apart as the size of a tab. -/
def tabRoom (t : Text) : Nat :=
  (tabSize - cells (t ++ spaces 1) % tabSize) % tabSize

end Text

namespace Styled

variable {s : Styled} {styles : List (Option Text)}

/-- A piece up to a tab ends in spaces instead. -/
theorem text_tabFilled (s : Styled) :
    s.tabFilled.text = s.text.dropLast ++ Text.spaces (Text.tabRoom s.text.dropLast + 1) := by
  have hspaces (n : Nat) : Text.spaces 1 ++ Text.spaces n = Text.spaces (n + 1) := rfl
  show s.text.dropLast ++ Text.spaces 1 ++ Text.spaces (Text.tabRoom s.text.dropLast) = _
  rw [List.append_assoc, hspaces]

/-- Taking out the tabs of a styled text does this to its text. -/
theorem tabsFilled_withoutTabs (s : Styled) : Text.TabsFilled s.text s.withoutTabs.text := by
  have hparts := Text.joinWith_splitAll (CodePoint.ofChar '\t') s.text
  have hne := Text.splitAll_ne_nil (CodePoint.ofChar '\t') s.text
  have hnone : ∀ part ∈ s.text.splitAll '\t', CodePoint.ofChar '\t' ∉ part :=
    fun part => Text.notMem_of_mem_splitAll
  unfold withoutTabs
  split
  · rename_i hnil
    exact absurd hnil hne
  · rename_i part hone
    rw [hone] at hparts hnone
    refine Text.TabsFilled.of_notMem ?_
    rw [← hparts]
    exact hnone part List.mem_cons_self
  · rename_i parts hmany
    -- The pieces up to a tab end with it, so without their last code points they are the parts before.
    have hpieces := s.map_text_piecesFrom 0 0
      ((s.text.splitAll '\t').dropLast.map (fun t => t ++ ("\t" : Text)) ++
        [(s.text.splitAll '\t').getLastD []])
    dsimp only
    generalize s.piecesFrom 0 0 ((s.text.splitAll '\t').dropLast.map (fun t => t ++ ("\t" : Text)) ++
      [(s.text.splitAll '\t').getLastD []]) = pieces at hpieces ⊢
    have hended : pieces.dropLast.flatMap (fun piece => piece.tabFilled.text) =
        (s.text.splitAll '\t').dropLast.flatMap fun t => t ++ Text.spaces (Text.tabRoom t + 1) := by
      have htexts := congrArg List.dropLast hpieces
      rw [List.dropLast_concat, ← List.map_dropLast] at htexts
      have htab (t : Text) : (t ++ ("\t" : Text)).dropLast = t := List.dropLast_concat
      simp only [text_tabFilled]
      rw [← List.flatMap_map Styled.text
        (fun t => t.dropLast ++ Text.spaces (Text.tabRoom t.dropLast + 1)), htexts, List.flatMap_map]
      simp only [htab]
    have hlast : (pieces.getLastD ⟨[], []⟩).text = (s.text.splitAll '\t').getLastD [] := by
      have htexts := congrArg List.getLast? hpieces
      rw [List.getLast?_concat, List.getLast?_map] at htexts
      obtain ⟨piece, hpiece, htext⟩ := Option.map_eq_some_iff.mp htexts
      rw [List.getLastD_eq_getLast?, hpiece, Option.getD_some, htext]
    rw [text_joined, List.flatMap_append, List.flatMap_map, hended, List.flatMap_singleton, hlast]
    have hfilled := Text.TabsFilled.of_splitAll Text.tabRoom hne hnone
    rwa [hparts] at hfilled

/-- The characters keep their styles, and the spaces get that of the tab. -/
theorem HasStyles.withoutTabs (h : s.HasStyles styles) : s.withoutTabs.HasStyles styles := by
  unfold Styled.withoutTabs
  split
  · exact h
  · exact h
  · refine hasStyles_joined fun piece hpiece => ?_
    rcases List.mem_append.mp hpiece with hpiece | hpiece
    · obtain ⟨part, hpart, rfl⟩ := List.mem_map.mp hpiece
      have hstyles : part.HasStyles styles := h.of_mem_piecesFrom (List.dropLast_subset _ hpart)
      exact HasStyles.extended (s := ⟨part.text.dropLast ++ Text.spaces 1, part.spans⟩) hstyles _
    · rw [List.mem_singleton.mp hpiece, List.getLastD_eq_getLast?]
      cases hlast : (s.piecesFrom 0 0 _).getLast? with
      | none =>
        intro span hspan
        cases hspan
      | some last => exact h.of_mem_piecesFrom (List.mem_of_getLast? hlast)

/-! ## Lines -/

/-- Fitting a line into a width keeps the styles of what is left of it. -/
theorem HasStyles.fitted (h : s.HasStyles styles) (overflow : Overflow) (alignment : Alignment)
    (width : Nat) : (s.fitted overflow alignment width).HasStyles styles := by
  have hshort := h.shortened (s.text.withoutExcessBlanks width)
  unfold Styled.fitted
  cases alignment with
  | plain => exact hshort.shortened _
  | left =>
    dsimp only
    split
    · exact hshort
    · exact hshort.shortened _
  | center => exact (hshort.shortened _).shortened _

/-- The lines have no styles but those of the text. -/
theorem HasStyles.of_mem_wrapped (h : s.HasStyles styles) {overflow : Overflow}
    {alignment : Alignment} {width : Nat} {line : Styled}
    (hline : line ∈ s.wrapped overflow alignment width) : line.HasStyles styles := by
  obtain ⟨part, hpart, hline⟩ := List.mem_flatMap.mp hline
  obtain ⟨piece, hpiece, rfl⟩ := List.mem_map.mp hline
  exact ((h.of_mem_cut hpart).withoutTabs.of_mem_cut hpiece).fitted overflow alignment width

/-- Fitting a styled line does to its text what fitting a text does. -/
theorem drawnFrom_fitted (overflow : Overflow) (alignment : Alignment) (width : Nat) (s : Styled) :
    Text.DrawnFrom (s.fitted overflow alignment width).text s.text := by
  have hblanks : Text.DrawnFrom (s.text.withoutExcessBlanks width) s.text :=
    .of_sublist (Text.withoutExcessBlanks_prefix width s.text).sublist
  unfold Styled.fitted
  cases alignment with
  | plain =>
    rw [text_shortened, text_shortened]
    exact (Text.drawnFrom_fitted overflow width _).trans hblanks
  | left =>
    dsimp only
    rw [text_shortened]
    split
    · exact hblanks.append_spaces _
    · rw [text_shortened]
      exact (Text.drawnFrom_fitted overflow width _).trans hblanks
  | center =>
    rw [text_shortened, text_shortened, text_shortened]
    exact ((Text.drawnFrom_fitted overflow width _).trans
      (.of_sublist (Text.stripEnd_prefix _).sublist)).trans hblanks

/-- What a line of a text holds is from one part of it, without the tabs. -/
theorem exists_of_mem_wrapped {overflow : Overflow} {alignment : Alignment} {width : Nat} {line : Styled}
    (hline : line ∈ s.wrapped overflow alignment width) :
    ∃ part : Styled, Text.DrawnFrom part.text s.text ∧ Text.DrawnFrom line.text part.withoutTabs.text := by
  obtain ⟨part, hpart, hline⟩ := List.mem_flatMap.mp hline
  obtain ⟨piece, hpiece, rfl⟩ := List.mem_map.mp hline
  -- The part is a line of the text as it is written, and the piece a line that this one is broken into.
  refine ⟨part, ?_, (drawnFrom_fitted overflow alignment width piece).trans ?_⟩
  · rcases text_of_mem_cut hpart with rfl | hmem
    · exact Text.DrawnFrom.refl _
    · have hjoined := Text.joinWith_splitAll (CodePoint.ofChar '\n') s.text
      refine Text.DrawnFrom.of_sublist ?_
      rw [← hjoined]
      exact Text.sublist_joinWith hmem
  · rcases text_of_mem_cut hpiece with rfl | hmem
    · exact Text.DrawnFrom.refl _
    · have hflatten := Text.flatten_brokenLines overflow width part.withoutTabs.text
      refine Text.DrawnFrom.of_sublist ?_
      rw [← hflatten]
      exact List.sublist_flatten_of_mem hmem

/-- A line of a text holds nothing but a part of the text, spaces and an ellipsis. It covers all ways in
which a line can be cut, filled up and justified, for every overflow and alignment. -/
theorem drawnFrom_of_mem_wrapped {overflow : Overflow} {alignment : Alignment} {width : Nat}
    {line : Styled} (hline : line ∈ s.wrapped overflow alignment width) :
    Text.DrawnFrom line.text s.text := by
  obtain ⟨part, hpart, hline⟩ := exists_of_mem_wrapped hline
  exact (hline.trans (tabsFilled_withoutTabs part).drawnFrom).trans hpart

/-- There are no tabs in the lines. -/
theorem tab_notMem_of_mem_wrapped {overflow : Overflow} {alignment : Alignment} {width : Nat}
    {line : Styled} (hline : line ∈ s.wrapped overflow alignment width) :
    CodePoint.ofChar '\t' ∉ line.text := by
  obtain ⟨part, -, hline⟩ := exists_of_mem_wrapped hline
  intro htab
  exact (tabsFilled_withoutTabs part).tab_notMem (hline.mem htab (by decide) (by decide))

/-- A text without line breaks that fits is one line: without its tabs, and with spaces behind it. This is
the case in which nothing happens to a cell. -/
theorem wrapped_left {width : Nat} (hline : CodePoint.ofChar '\n' ∉ s.text)
    (hfit : s.withoutTabs.text.cells ≤ width) : ∃ line, s.wrapped .ellipsis .left width = [line] ∧
      line.text.cells ≤ width ∧ line.text.strip = s.withoutTabs.text.strip := by
  have hlines : s.lines = [s] := by
    unfold Styled.lines
    rw [Text.splitAll_of_notMem hline]
    rfl
  have hbroken := Text.brokenLines_of_fit .ellipsis hfit
  refine ⟨s.withoutTabs.fitted .ellipsis .left width, ?_, ?_⟩
  · unfold wrapped wrappedLine
    dsimp only
    rw [hlines, List.flatMap_singleton, hbroken]
    rfl
  · -- What is cut from the line are blanks at its end, which stripping takes away in any case.
    have hprefix := Text.withoutExcessBlanks_prefix width s.withoutTabs.text
    have hcells := Text.cells_le_of_prefix hprefix
    rw [← Text.strip_withoutExcessBlanks width s.withoutTabs.text]
    unfold Styled.fitted
    dsimp only
    rw [text_shortened]
    split
    · have hspaces := Text.cells_append_spaces_le (s.withoutTabs.text.withoutExcessBlanks width)
        (width - (s.withoutTabs.text.withoutExcessBlanks width).cells)
      refine ⟨?_, Text.strip_append_spaces _ _⟩
      show Text.cells (_ ++ _) ≤ width
      omega
    · have hkept : (s.withoutTabs.text.withoutExcessBlanks width).fitted .ellipsis width =
          s.withoutTabs.text.withoutExcessBlanks width := if_pos (Nat.le_trans hcells hfit)
      rw [text_shortened, hkept]
      exact ⟨Nat.le_trans hcells hfit, rfl⟩

end Styled

end TermAudit
