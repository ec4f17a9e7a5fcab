import Mathlib.Tactic.MkIffOfInductiveProp
import TermAudit.Console.Style
import TermAudit.Proofs.Console.Markup

/-!
# `TermAudit.Proofs.Console.Style`: texts in one color

A definition that is the word of a color stands for itself (`Style.IsColorWord.normalForm_eq`), so a line
that begins with a text in a color is read as this text and the rest (`Markup.read_of_colored`).
-/

set_option autoImplicit false

namespace TermAudit

namespace Style

/-- A word of small letters that can be nothing but a color: no other word of a definition, no attribute
and no mixed color. The words that the program uses in its own tags are of this kind, which is checked for
each of them by evaluation. -/
@[mk_iff]
structure IsColorWord (w : Text) : Prop where
  letters : ∀ c ∈ w, 0x61 ≤ c.val ∧ c.val ≤ 0x7A
  single : w.words = [w]
  bare : w.strip = w
  small : w.lower = w
  noKeyword : w ∉ [Text.ofString "none", Text.ofString "on", Text.ofString "not", Text.ofString "link"]
  noAttribute : TextAttribute.ofWord? w = none
  notMixed : inParentheses? "rgb" w = none

/-- Whether a text is a word for a color can be computed. -/
instance (w : Text) : Decidable (IsColorWord w) :=
  decidable_of_iff _ (isColorWord_iff w).symm

namespace IsColorWord

variable {w : Text}

/-- The word stands for itself, whether there is a color of this name or not. Whether there is one shows
only when the style is looked up. -/
theorem normalForm_eq (h : IsColorWord w) : normalForm w = .ok w := by
  have hkeyword := h.noKeyword
  simp only [List.mem_cons, List.not_mem_nil, or_false, not_or] at hkeyword
  obtain ⟨hnone, hon, hnot, hlink⟩ := hkeyword
  -- The word is a color or none that is known. Its normal form is the word itself in either case.
  have hcolor : colorOf w = .ok w ∨ colorOf w = .error .unknownWord := by
    unfold colorOf
    dsimp only
    rw [h.small]
    split
    · exact Or.inl rfl
    · refine Or.inr ?_
      unfold checkMixedColor
      rw [h.notMixed]
      rfl
  have hparse : parse w = do
      let c ← colorOf w
      return { plain with color := some c } := by
    unfold parse
    rw [h.bare, if_neg hnone, h.single]
    unfold addWords
    dsimp only
    rw [h.small, if_neg hon, if_neg hnot, if_neg hlink, h.noAttribute]
    rfl
  unfold normalForm
  rw [hparse]
  rcases hcolor with hcolor | hcolor
  · rw [hcolor]
    rfl
  · rw [hcolor]
    show Except.ok w.strip.lower = _
    rw [h.bare, h.small]

/-- The empty text is no word. -/
theorem ne_nil (h : IsColorWord w) : w ≠ [] := by
  rintro rfl
  exact absurd h.single (by decide)

/-- Nothing that comes before the small letters is in such a word, so it has no signs, spaces or digits. -/
theorem notMem (h : IsColorWord w) {c : CodePoint} (hc : c.val < 0x61) : c ∉ w := by
  intro hmem
  have hletter := h.letters c hmem
  omega

end IsColorWord

end Style

namespace Markup

section Colored

variable {color : Text} (h : Style.IsColorWord color)

include h

/-- A tag with the word for a name has it for a normal name, so the tag that closes finds it. -/
theorem normalName_color : normalName color = .ok color := by
  unfold normalName
  rw [h.normalForm_eq]
  rfl

/-- The tag with the word opens a style of this name. -/
theorem add_openingColor (s : State) :
    s.add (.tag color) = .ok { s with opened := (⟨color, none⟩, s.length) :: s.opened } := by
  have hequals : color.splitFirst '=' = (color, none) :=
    Text.splitFirst_of_notMem (h.notMem (by decide))
  obtain ⟨first, rest, rfl⟩ := List.exists_cons_of_ne_nil h.ne_nil
  have hslash : first ≠ CodePoint.ofChar '/' := by
    rintro rfl
    exact h.notMem (by decide) List.mem_cons_self
  unfold State.add
  dsimp only
  rw [hequals]
  dsimp only
  rw [if_neg hslash]
  unfold State.openTag
  rw [normalName_color h]
  rfl

/-- The tag with a slash and the word closes the style, over all that has been added meanwhile. -/
theorem add_closingColor {s : State} (start : Nat) (hopened : s.opened = [(⟨color, none⟩, start)]) :
    s.add (.tag (CodePoint.ofChar '/' :: color)) =
      .ok { s with opened := [], spans := ⟨start, s.length, some color⟩ :: s.spans } := by
  -- The tag has no parameter behind a `=`, and a color is no handler, which would begin with `@`.
  have hequals : Text.splitFirst '=' (CodePoint.ofChar '/' :: color) =
      (CodePoint.ofChar '/' :: color, none) := by
    refine Text.splitFirst_of_notMem ?_
    rw [List.mem_cons, not_or]
    exact ⟨by decide, h.notMem (by decide)⟩
  have hat : color.beginsWith "@" = false := by
    refine Bool.eq_false_iff.mpr fun hbegins => ?_
    have hmem : CodePoint.ofChar '@' ∈ color :=
      (List.isPrefixOf_iff_prefix.mp hbegins).subset List.mem_cons_self
    exact h.notMem (by decide) hmem
  unfold State.add
  dsimp only
  rw [hequals]
  dsimp only
  rw [if_pos rfl, h.bare]
  unfold State.close
  rw [if_neg (by simpa using h.ne_nil), normalName_color h, hopened]
  simp [bind, Except.bind, State.closeTag, Tag.isClosable, Tag.definition, hat]

/-- A text between the tags of a color is shown in the color. -/
theorem foldlM_colored (t : Text) :
    [Piece.plain [], .plain [], .tag color, .plain t, .plain [], .tag (CodePoint.ofChar '/' :: color)].foldlM
        State.add ⟨[], 0, [], []⟩ =
      .ok ⟨(shownText t).reverse, (shownText t).length, [], [⟨0, (shownText t).length, some color⟩]⟩ := by
  have hplain (s : State) (t : Text) : s.add (.plain t) = .ok (s.addText (shownText t)) := rfl
  have hnil : shownText [] = [] := rfl
  simp only [List.foldlM_cons, List.foldlM_nil, hplain, add_openingColor h, hnil, bind, Except.bind]
  rw [add_closingColor h 0 rfl]
  simp [State.addText, pure, Except.pure]

end Colored

/-- A line that begins with a text in a color is read as this text and the rest. The pieces of the line
are a hypothesis, since the rest can have tags of its own that reach further. -/
theorem read_of_colored {color t rest line : Text} (h : Style.IsColorWord color)
    (hpieces : pieces line =
      [.plain [], .plain [], .tag color, .plain t, .plain [], .tag (CodePoint.ofChar '/' :: color)] ++
        [.plain rest]) :
    read line = .ok ⟨shownText t ++ shownText rest, [⟨0, (shownText t).length, some color⟩]⟩ := by
  unfold read
  rw [hpieces, List.foldlM_append, foldlM_colored h]
  simp [State.add, State.addText, State.styled, bind, Except.bind, pure, Except.pure]

end Markup

end TermAudit
