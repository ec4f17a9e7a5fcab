import Mathlib.Data.List.Flatten
import Mathlib.Data.List.Forall2
import Mathlib.Data.List.Perm.Basic

/-!
# `TermAudit.Proofs.Swapped`: lists whose neighbours have changed places

`Swapped R l l'` says that `l'` comes from `l` by swaps of neighbours, where `R` tells which ones may pass
each other. It lies between equality and `List.Perm`: the elements that may not pass each other stay in
their order.

Permutations are told by counting, swaps by what they leave alone. So a result that each allowed swap keeps
is the same for both lists, and elements that no swap concerns can be filtered out
(`Swapped.filter_eq`). A list in which all elements may pass each other can have any order
(`swapped_of_perm`).
-/

set_option autoImplicit false

namespace TermAudit

variable {α β : Type} {R : α → α → Prop} {l l' m m' : List α}

/-- The second list is the first one after swaps of neighbours that `R` relates. Any number of swaps may
follow each other, so an element can pass many others, as long as it may pass each of them. -/
inductive Swapped (R : α → α → Prop) : List α → List α → Prop
  | nil : Swapped R [] []
  | cons (a : α) {l l' : List α} (h : Swapped R l l') : Swapped R (a :: l) (a :: l')
  | swap {a b : α} (h : R a b) (l : List α) : Swapped R (a :: b :: l) (b :: a :: l)
  | trans {l l' l'' : List α} (h : Swapped R l l') (h' : Swapped R l' l'') : Swapped R l l''

namespace Swapped

/-- No swap is needed. -/
theorem refl (l : List α) : Swapped R l l := by
  induction l with
  | nil => exact .nil
  | cons a l ih => exact .cons a ih

/-- The same elements are there, each as often as before. -/
theorem perm (h : Swapped R l l') : l.Perm l' := by
  induction h with
  | nil => exact .nil
  | cons a _ ih => exact ih.cons a
  | swap _ l => exact .swap _ _ l
  | trans _ _ ih ih' => exact ih.trans ih'

/-- If more may pass each other, the same swaps are allowed. -/
theorem imp {R' : α → α → Prop} (h : Swapped R l l') (himp : ∀ a b, R a b → R' a b) :
    Swapped R' l l' := by
  induction h with
  | nil => exact .nil
  | cons a _ ih => exact .cons a ih
  | swap hab l => exact .swap (himp _ _ hab) l
  | trans _ _ ih ih' => exact ih.trans ih'

/-- What stands in front stays. -/
theorem append_left (h : Swapped R l l') (m : List α) : Swapped R (m ++ l) (m ++ l') := by
  induction m with
  | nil => exact h
  | cons a m ih => exact .cons a ih

/-- What stands behind stays. -/
theorem append_right (h : Swapped R l l') (m : List α) : Swapped R (l ++ m) (l' ++ m) := by
  induction h with
  | nil => exact .refl m
  | cons a _ ih => exact .cons a ih
  | swap hab l => exact .swap hab (l ++ m)
  | trans _ _ ih ih' => exact ih.trans ih'

/-- Two lists, one behind the other, can be swapped each by itself. -/
theorem append (h : Swapped R l l') (h' : Swapped R m m') : Swapped R (l ++ m) (l' ++ m') :=
  (h.append_right m).trans (h'.append_left l')

/-- So can the lists that the elements of a list stand for. -/
theorem flatMap {l : List β} {f f' : β → List α} (h : ∀ b ∈ l, Swapped R (f b) (f' b)) :
    Swapped R (l.flatMap f) (l.flatMap f') := by
  induction l with
  | nil => exact .nil
  | cons b l ih =>
    rw [List.flatMap_cons, List.flatMap_cons]
    exact (h b List.mem_cons_self).append (ih fun b' hb' => h b' (List.mem_cons_of_mem _ hb'))

/-- Elements can be left out on both sides. -/
theorem filter (h : Swapped R l l') (p : α → Bool) : Swapped R (l.filter p) (l'.filter p) := by
  induction h with
  | nil => exact .nil
  | cons a _ ih =>
    rw [List.filter_cons, List.filter_cons]
    split
    · exact .cons a ih
    · exact ih
  | @swap a b hab l =>
    cases ha : p a <;> cases hb : p b <;> simp only [List.filter_cons, ha, hb, if_true,
      Bool.false_eq_true, if_false]
    case true.true => exact .swap hab _
    all_goals exact .refl _
  | trans _ _ ih ih' => exact ih.trans ih'

/-- Elements that pass no other stay as they are, in their order. It is how the keys `<<` of a mapping are
found again after its other entries have been swapped. -/
theorem filter_eq (h : Swapped R l l') {p : α → Bool} (hp : ∀ a b, R a b → p a = false ∧ p b = false) :
    l'.filter p = l.filter p := by
  induction h with
  | nil => rfl
  | cons a _ ih => rw [List.filter_cons, List.filter_cons, ih]
  | swap hab l =>
    obtain ⟨ha, hb⟩ := hp _ _ hab
    rw [List.filter_cons_of_neg (by simp [hb]), List.filter_cons_of_neg (by simp [ha]),
      List.filter_cons_of_neg (by simp [ha]), List.filter_cons_of_neg (by simp [hb])]
  | trans _ _ ih ih' => exact ih'.trans ih

/-- What is made of each element can be swapped alike. -/
theorem exists_forall₂ {S : β → β → Prop} {Q : α → β → Prop} {bs : List β} (h : Swapped R l l')
    (hall : List.Forall₂ Q l bs) (hR : ∀ a b, R a b → ∀ x y, Q a x → Q b y → S x y) :
    ∃ bs', List.Forall₂ Q l' bs' ∧ Swapped S bs bs' := by
  induction h generalizing bs with
  | nil =>
    cases hall
    exact ⟨[], .nil, .nil⟩
  | cons a _ ih =>
    obtain ⟨x, rest, hx, hrest, rfl⟩ := List.forall₂_cons_left_iff.mp hall
    obtain ⟨rest', hrest', hswapped⟩ := ih hrest
    exact ⟨x :: rest', .cons hx hrest', .cons x hswapped⟩
  | swap hab l =>
    obtain ⟨x, _, hx, htail, rfl⟩ := List.forall₂_cons_left_iff.mp hall
    obtain ⟨y, rest, hy, hrest, rfl⟩ := List.forall₂_cons_left_iff.mp htail
    exact ⟨y :: x :: rest, .cons hy (.cons hx hrest), .swap (hR _ _ hab _ _ hx hy) rest⟩
  | trans _ _ ih ih' =>
    obtain ⟨bs', hall', hswapped⟩ := ih hall
    obtain ⟨bs'', hall'', hswapped'⟩ := ih' hall'
    exact ⟨bs'', hall'', hswapped.trans hswapped'⟩

end Swapped

/-- Where all elements may pass each other, any order can be reached. The relation is only asked of
elements of the list, so it can be one that does not hold in general. -/
theorem swapped_of_perm (hsymm : ∀ {a b}, R a b → R b a) (h : l.Perm l') (hall : l.Pairwise R) :
    Swapped R l l' := by
  induction h with
  | nil => exact .nil
  | cons a _ ih => exact .cons a (ih (List.pairwise_cons.mp hall).2)
  | swap a b l =>
    -- The two elements are the first ones of the list, so they are related.
    exact .swap ((List.pairwise_cons.mp hall).1 a List.mem_cons_self) l
  | trans h _ ih ih' => exact (ih hall).trans (ih' (h.pairwise hall hsymm))

end TermAudit
