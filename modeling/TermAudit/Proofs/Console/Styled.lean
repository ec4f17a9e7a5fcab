import TermAudit.Console.Styled

/-!
# `TermAudit.Proofs.Console.Styled`: the texts and styles of pieces

The pieces of a cut text have the texts that it is cut into, and put together they have the texts one behind
the other. What is cut, shortened and put together has no styles but those that were there
(`Styled.HasStyles`).
-/

set_option autoImplicit false

namespace TermAudit

namespace Styled

variable {styles : List (Option Text)} {s : Styled}

/-! ## Texts -/

/-- The pieces that a text is cut into have the texts that were asked for. -/
theorem map_text_piecesFrom (s : Styled) (gap start : Nat) (ts : List Text) :
    (s.piecesFrom gap start ts).map Styled.text = ts := by
  induction ts generalizing start with
  | nil => rfl
  | cons t rest ih => rw [piecesFrom, List.map_cons, ih]

/-- Texts that are put together have their texts one behind the other. -/
theorem text_joined (ss : List Styled) : (joined ss).text = ss.flatMap Styled.text := by
  induction ss with
  | nil => rfl
  | cons s rest ih => rw [joined, append, ih, List.flatMap_cons]

/-- A shortened text has the text that it is shortened to. -/
@[simp] theorem text_shortened (s : Styled) (t : Text) : (s.shortened t).text = t := by
  unfold shortened
  split <;> rfl

/-- A line of a text that is cut is the text or one of the pieces. -/
theorem text_of_mem_cut {gap : Nat} {pieces : List Text} {line : Styled} (h : line ∈ s.cut gap pieces) :
    line = s ∨ line.text ∈ pieces := by
  unfold cut at h
  split at h
  · exact Or.inl (List.mem_singleton.mp h)
  · refine Or.inr ?_
    rw [← s.map_text_piecesFrom gap 0 pieces]
    exact List.mem_map_of_mem h

/-- Cutting a text at places loses nothing of it, wherever they are. -/
theorem flatten_segmentsFrom (start : Nat) (t : Text) (places : List Nat) :
    (segmentsFrom start t places).flatten = t := by
  induction places generalizing start t with
  | nil => rw [segmentsFrom, List.flatten_singleton]
  | cons place rest ih => rw [segmentsFrom, List.flatten_cons, ih, List.take_append_drop]

/-- The segments of a text are the text. -/
theorem flatten_segments (s : Styled) : s.segments.flatten = s.text :=
  flatten_segmentsFrom 0 s.text _

/-! ## Styles -/

/-- The text has none but the given styles. It is enough to follow this through the layout, since a line
can be shown if every style in it can be looked up, wherever its span is. -/
def HasStyles (styles : List (Option Text)) (s : Styled) : Prop :=
  ∀ span ∈ s.spans, span.definition ∈ styles

/-- A text has none of no styles exactly if it has no spans. -/
theorem hasStyles_nil_iff : s.HasStyles [] ↔ s.spans = [] := by
  unfold HasStyles
  rw [List.eq_nil_iff_forall_not_mem]
  simp only [List.not_mem_nil]

/-- A text without styles is one segment. -/
theorem segments_of_hasStyles_nil (h : s.HasStyles []) : s.segments = [s.text] := by
  unfold segments
  rw [hasStyles_nil_iff.mp h, List.flatMap_nil, List.mergeSort_nil]
  rfl

/-- A piece has only spans that overlap with it, each with the style that it had. -/
theorem HasStyles.of_mem_piecesFrom (h : s.HasStyles styles) {gap start : Nat} {ts : List Text}
    {piece : Styled} (hpiece : piece ∈ s.piecesFrom gap start ts) : piece.HasStyles styles := by
  induction ts generalizing start with
  | nil => cases hpiece
  | cons t rest ih =>
    rcases List.mem_cons.mp hpiece with rfl | hpiece
    · intro span hspan
      obtain ⟨whole, hwhole, hwithin⟩ := List.mem_filterMap.mp hspan
      unfold Span.within at hwithin
      dsimp only at hwithin
      split at hwithin
      · cases hwithin
        exact h whole hwhole
      · cases hwithin
    · exact ih hpiece

/-- So has each line of a text that is cut. -/
theorem HasStyles.of_mem_cut (h : s.HasStyles styles) {gap : Nat} {pieces : List Text} {line : Styled}
    (hline : line ∈ s.cut gap pieces) : line.HasStyles styles := by
  unfold cut at hline
  split at hline
  · rwa [List.mem_singleton.mp hline]
  · exact h.of_mem_piecesFrom hline

/-- Shortening a text takes spans away or shortens them, and brings no new styles. -/
theorem HasStyles.shortened (h : s.HasStyles styles) (t : Text) : (s.shortened t).HasStyles styles := by
  unfold Styled.shortened
  split
  · intro span hspan
    obtain ⟨whole, hwhole, rfl⟩ := List.mem_map.mp hspan
    exact h whole (List.mem_filter.mp hwhole).1
  · exact h

/-- Adding plain text at the end extends some spans over it, and brings no new styles. -/
theorem HasStyles.extended (h : s.HasStyles styles) (t : Text) : (s.extended t).HasStyles styles := by
  intro span hspan
  obtain ⟨whole, hwhole, rfl⟩ := List.mem_map.mp hspan
  split
  · exact h whole hwhole
  · exact h whole hwhole

/-- Two texts one behind the other have the styles of both. -/
theorem HasStyles.append {s' : Styled} (h : s.HasStyles styles) (h' : s'.HasStyles styles) :
    (s.append s').HasStyles styles := by
  intro span hspan
  rcases List.mem_append.mp hspan with hspan | hspan
  · exact h span hspan
  · obtain ⟨moved, hmoved, rfl⟩ := List.mem_map.mp hspan
    exact h' moved hmoved

/-- So have any number of them. -/
theorem hasStyles_joined {ss : List Styled} (h : ∀ s ∈ ss, s.HasStyles styles) :
    (joined ss).HasStyles styles := by
  induction ss with
  | nil =>
    intro span hspan
    cases hspan
  | cons s rest ih =>
    obtain ⟨hs, hrest⟩ := List.forall_mem_cons.mp h
    exact hs.append (ih hrest)

end Styled

end TermAudit
