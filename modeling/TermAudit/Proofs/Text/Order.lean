import Mathlib.Data.List.Lex
import TermAudit.Text.Basic

/-!
# `TermAudit.Proofs.Text.Order`: texts in order

`Text.Before` is the lexicographic order of texts by code point, without equal texts. `Text.le`, which
sorts texts, is this order or equality (`Text.le_iff`). So different texts are strictly increasing when
they are sorted (`Text.before_sorted`).
-/

set_option autoImplicit false

namespace TermAudit

namespace Text

/-- `a` comes before `b` in the lexicographic order by code point. It is strict, so a list that increases
in it has no text twice. -/
def Before (a b : Text) : Prop :=
  List.Lex (fun c d => c.val < d.val) a b

/-- No text comes before one that comes before it. -/
instance : Std.Asymm Before :=
  have : Std.Asymm fun c d : CodePoint => c.val < d.val := ⟨fun _ _ => Nat.lt_asymm⟩
  List.Lex.asymm _

/-- The order that sorts texts is equality or the lexicographic order. -/
theorem le_iff {a b : Text} : le a b = true ↔ a = b ∨ Before a b := by
  unfold Before
  induction a generalizing b with
  | nil => cases b <;> simp [le]
  | cons c a ih =>
    cases b with
    | nil => simp [le]
    | cons d b =>
      simp only [le, Bool.or_eq_true, Bool.and_eq_true, decide_eq_true_eq, beq_iff_eq, ih,
        List.cons_lex_cons_iff, List.cons.injEq, CodePoint.eq_iff_val]
      grind [CodePoint.eq_iff_val]

/-- The order is transitive, which sorting asks for. -/
theorem le_trans {a b c : Text} (hab : le a b = true) (hbc : le b c = true) : le a c = true := by
  induction a generalizing b c with
  | nil => rfl
  | cons x a ih =>
    cases b with
    | nil => simp [le] at hab
    | cons y b =>
      cases c with
      | nil => simp [le] at hbc
      | cons z c =>
        simp only [le, Bool.or_eq_true, Bool.and_eq_true, decide_eq_true_eq, beq_iff_eq] at *
        -- The first code points decide, unless all three are the same.
        rcases hab with hxy | ⟨hxy, hab⟩ <;> rcases hbc with hyz | ⟨hyz, hbc⟩
        · omega
        · omega
        · omega
        · exact Or.inr ⟨hxy.trans hyz, ih hab hbc⟩

/-- Any two texts are in order one way or the other, which sorting asks for as well. -/
theorem le_total (a b : Text) : (le a b || le b a) = true := by
  induction a generalizing b with
  | nil => rfl
  | cons x a ih =>
    cases b with
    | nil => simp [le]
    | cons y b =>
      have hrest := ih b
      simp only [le, Bool.or_eq_true, Bool.and_eq_true, decide_eq_true_eq, beq_iff_eq] at hrest ⊢
      rcases Nat.lt_trichotomy x.val y.val with h | h | h
      · exact Or.inl (Or.inl h)
      · rw [h]
        simp only [true_and, Nat.lt_irrefl, false_or]
        exact hrest
      · exact Or.inr (Or.inl h)

/-- Sorted texts that are different are strictly increasing. There is one such list for each set of texts,
so sorting forgets in which order they came. -/
theorem before_sorted {ts : List Text} (h : ts.Nodup) : (sorted ts).Pairwise Before := by
  have hle : (sorted ts).Pairwise fun a b => le a b = true := by
    refine List.pairwise_mergeSort ?_ le_total ts
    intro a b c hab hbc
    exact le_trans hab hbc
  have hnodup : (sorted ts).Nodup := (List.mergeSort_perm ts le).nodup_iff.mpr h
  -- Of two texts in this order the first comes before the second, as they are not the same.
  refine List.Pairwise.imp ?_ (hle.and hnodup)
  intro a b hab
  exact (le_iff.mp hab.1).resolve_left hab.2

/-- Sorting keeps the texts. -/
theorem mem_sorted {ts : List Text} {t : Text} : t ∈ sorted ts ↔ t ∈ ts :=
  (List.mergeSort_perm ts le).mem_iff

/-- Sorting keeps their number. -/
theorem length_sorted (ts : List Text) : (sorted ts).length = ts.length :=
  (List.mergeSort_perm ts le).length_eq

end Text

end TermAudit
