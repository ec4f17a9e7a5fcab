import Mathlib.Data.List.DropRight
import TermAudit.Text.Blank

/-!
# `TermAudit.Proofs.Text.Blank`: what stripping a text leaves

A text is white space, what `Text.strip` leaves of it, and white space again (`Text.exists_strip`), and
white space more around a text changes nothing (`Text.strip_surrounded`). What is left has no white space
around it (`Text.isStripped_strip`).
-/

set_option autoImplicit false

namespace TermAudit.Text

/-- There is no white space around the text. White space inside of it does not matter, and the empty text
is stripped. -/
structure IsStripped (t : Text) : Prop where
  first : ∀ c, t.head? = some c → c.isBlank = false
  last : ∀ c, t.getLast? = some c → c.isBlank = false

/-- Stripping drops blanks at the start and then at the end. The library has lemmas about both. -/
theorem strip_eq_rdropWhile (t : Text) :
    t.strip = (t.dropWhile CodePoint.isBlank).rdropWhile CodePoint.isBlank :=
  rfl

/-- What is left has no white space around it. -/
theorem isStripped_strip (t : Text) : t.strip.IsStripped := by
  rw [strip_eq_rdropWhile]
  constructor
  · intro c hc
    -- Nothing is taken from the start after the first step, so the first code point is from there.
    obtain ⟨rest, hrest⟩ := List.rdropWhile_prefix CodePoint.isBlank (t.dropWhile CodePoint.isBlank)
    have hfirst : (t.dropWhile CodePoint.isBlank).head? = some c := by
      rw [← hrest, List.head?_append, hc, Option.some_or]
    have hnot := List.head?_dropWhile_not CodePoint.isBlank t
    rw [hfirst] at hnot
    exact hnot
  · intro c hc
    have hne : (t.dropWhile CodePoint.isBlank).rdropWhile CodePoint.isBlank ≠ [] := by
      rintro hnil
      rw [hnil] at hc
      cases hc
    have hnot := List.rdropWhile_last_not CodePoint.isBlank _ hne
    rw [List.getLast?_eq_some_getLast hne] at hc
    rw [Option.some.inj hc] at hnot
    exact Bool.eq_false_iff.mpr hnot

/-- A text without white space around it stays as it is. -/
theorem strip_of_isStripped {t : Text} (h : t.IsStripped) : t.strip = t := by
  have hfirst : t.dropWhile CodePoint.isBlank = t := by
    cases t with
    | nil => rfl
    | cons c rest => exact List.dropWhile_cons_of_neg (by simp [h.first c rfl])
  rw [strip_eq_rdropWhile, hfirst, List.rdropWhile_eq_self_iff]
  intro hne
  rw [h.last _ (List.getLast?_eq_some_getLast hne)]
  exact Bool.false_ne_true

/-- A text is stripped exactly if stripping changes nothing. -/
theorem isStripped_iff {t : Text} : t.IsStripped ↔ t.strip = t :=
  ⟨strip_of_isStripped, fun h => h ▸ isStripped_strip t⟩

/-- Whether a text is stripped can be computed. -/
instance (t : Text) : Decidable t.IsStripped :=
  decidable_of_iff _ isStripped_iff.symm

/-- Stripping adds nothing. -/
theorem mem_of_mem_strip {t : Text} {c : CodePoint} (h : c ∈ t.strip) : c ∈ t := by
  rw [strip_eq_rdropWhile] at h
  exact (List.dropWhile_sublist _).subset ((List.rdropWhile_prefix _ _).subset h)

/-- There is nothing in the text but white space. These are the texts of which stripping leaves
nothing. -/
def AllBlank (t : Text) : Prop :=
  ∀ c ∈ t, c.isBlank = true

/-- Spaces are blanks. -/
theorem allBlank_spaces (n : Nat) : AllBlank (List.replicate n (CodePoint.ofChar ' ')) := by
  intro c hc
  rw [List.eq_of_mem_replicate hc]
  decide

/-- Of blanks nothing is left when blanks are dropped. -/
theorem AllBlank.dropWhile_eq {t : Text} (h : t.AllBlank) : t.dropWhile CodePoint.isBlank = [] :=
  List.dropWhile_eq_nil_iff.mpr h

/-- White space before a text is not left. -/
theorem strip_append_left {front : Text} (h : front.AllBlank) (t : Text) :
    Text.strip (front ++ t) = t.strip := by
  rw [strip_eq_rdropWhile, strip_eq_rdropWhile, List.dropWhile_append, h.dropWhile_eq]
  rfl

/-- White space behind a text is not left. -/
theorem strip_append_right {back : Text} (h : back.AllBlank) (t : Text) :
    Text.strip (t ++ back) = t.strip := by
  rw [strip_eq_rdropWhile, strip_eq_rdropWhile, List.dropWhile_append]
  -- Of a text of white space alone nothing is left, and of the white space behind it neither.
  by_cases hblank : t.dropWhile CodePoint.isBlank = []
  · rw [hblank, h.dropWhile_eq]
    rfl
  · rw [if_neg (by simpa using hblank)]
    unfold List.rdropWhile
    rw [List.reverse_append, List.dropWhile_append,
      List.dropWhile_eq_nil_iff.mpr fun c hc => h c (List.mem_reverse.mp hc)]
    rfl

/-- Blanks around a text are of no account. -/
theorem strip_surrounded {front back : Text} (hfront : front.AllBlank) (hback : back.AllBlank)
    (t : Text) : Text.strip (front ++ t ++ back) = t.strip := by
  rw [strip_append_right hback, strip_append_left hfront]

/-- Around what is left there was white space alone. With `isStripped_strip` this says all there is to say
about stripping. -/
theorem exists_strip (t : Text) : ∃ front back : Text, front.AllBlank ∧ back.AllBlank ∧
    t = front ++ t.strip ++ back := by
  refine ⟨t.takeWhile CodePoint.isBlank, (t.dropWhile CodePoint.isBlank).rtakeWhile CodePoint.isBlank,
    fun c hc => List.mem_takeWhile_imp hc, fun c hc => List.mem_rtakeWhile_imp hc, ?_⟩
  have hback : t.strip ++ (t.dropWhile CodePoint.isBlank).rtakeWhile CodePoint.isBlank =
      t.dropWhile CodePoint.isBlank := by
    rw [strip_eq_rdropWhile]
    unfold List.rdropWhile List.rtakeWhile
    rw [← List.reverse_append, List.takeWhile_append_dropWhile, List.reverse_reverse]
  rw [List.append_assoc, hback, List.takeWhile_append_dropWhile]

/-- What is no white space is left. -/
theorem mem_strip_of_mem {t : Text} {c : CodePoint} (h : c ∈ t) (hc : c.isBlank = false) :
    c ∈ t.strip := by
  obtain ⟨front, back, hfront, hback, ht⟩ := exists_strip t
  rw [ht] at h
  rcases List.mem_append.mp h with h | h
  · rcases List.mem_append.mp h with h | h
    · exact absurd (hfront c h) (by simp [hc])
    · exact h
  · exact absurd (hback c h) (by simp [hc])

/-- All code points of a kind without white space are left. -/
theorem countP_strip {p : CodePoint → Bool} (h : ∀ c, p c = true → c.isBlank = false) (t : Text) :
    t.strip.countP p = t.countP p := by
  have hnone {s : Text} (hs : s.AllBlank) : s.countP p = 0 := by
    refine List.countP_eq_zero.mpr fun c hc hp => ?_
    exact absurd ((hs c hc).symm.trans (h c hp)) Bool.false_ne_true.symm
  obtain ⟨front, back, hfront, hback, ht⟩ := exists_strip t
  rw [congrArg (List.countP p) ht, List.countP_append, List.countP_append, hnone hfront, hnone hback]
  omega

end TermAudit.Text
