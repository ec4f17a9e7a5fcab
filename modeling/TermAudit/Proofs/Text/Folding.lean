import Mathlib.Data.List.Forall2
import TermAudit.Proofs.Text.Case

/-!
# `TermAudit.Proofs.Text.Folding`: letters that are the same up to case

`CodePoint.Alike` is equality up to case by what it means: two code points have one lowercase form, or
their lowercase forms are in one class of letters with a common uppercase form. `CodePoint.fold` decides
it, because the classes are disjoint:

* `CodePoint.alike_iff`: two code points are alike exactly if they have the same representative;
* `CodePoint.alike_equivalence`: so being alike is an equivalence;
* `CodePoint.eq_of_alike_metacharacter`: what has a meaning in search patterns is alike to nothing else;
* `Text.sameLetters_iff_forall₂`: texts are equal up to case if their code points are alike one by one.
-/

set_option autoImplicit false

namespace TermAudit

namespace CodePoint

/-- Two code points have one lowercase form, or their lowercase forms have a common uppercase form. The
classes are listed, as there are few of them and the relation is not given by a rule. -/
def Alike (a b : CodePoint) : Prop :=
  a.lower = b.lower ∨ ∃ letters ∈ letterClasses, a.lower.val ∈ letters ∧ b.lower.val ∈ letters

/-- A member of a class is in no class before it, and represented by a member of the class. -/
theorem letterClasses_disjoint : (letterClasses.all fun letters => letters.all fun n =>
    letterClasses.find? (·.contains n) == some letters && letters.contains (classHead n)) = true := by
  decide +kernel

/-- A member of a class is found in it. -/
theorem find?_letterClasses {letters : List Nat} (hletters : letters ∈ letterClasses) {n : Nat}
    (hn : n ∈ letters) : letterClasses.find? (·.contains n) = some letters := by
  have h := List.all_eq_true.mp (List.all_eq_true.mp letterClasses_disjoint letters hletters) n hn
  rw [Bool.and_eq_true] at h
  exact beq_iff_eq.mp h.1

/-- A member of a class is represented by a member of it. -/
theorem classHead_mem {letters : List Nat} (hletters : letters ∈ letterClasses) {n : Nat}
    (hn : n ∈ letters) : classHead n ∈ letters := by
  have h := List.all_eq_true.mp (List.all_eq_true.mp letterClasses_disjoint letters hletters) n hn
  rw [Bool.and_eq_true] at h
  exact List.contains_iff_mem.mp h.2

/-- A number is in one class at most. -/
theorem letterClasses_unique {letters letters' : List Nat} (hletters : letters ∈ letterClasses)
    (hletters' : letters' ∈ letterClasses) {n : Nat} (hn : n ∈ letters) (hn' : n ∈ letters') :
    letters = letters' :=
  Option.some.inj ((find?_letterClasses hletters hn).symm.trans (find?_letterClasses hletters' hn'))

/-- The members of a class have one representative. -/
theorem classHead_eq_of_mem {letters : List Nat} (hletters : letters ∈ letterClasses) {m n : Nat}
    (hm : m ∈ letters) (hn : n ∈ letters) : classHead m = classHead n := by
  unfold classHead
  rw [find?_letterClasses hletters hm, find?_letterClasses hletters hn]
  cases letters with
  | nil => cases hm
  | cons head rest => rfl

/-- A number that is in no class represents itself. -/
theorem classHead_of_forall {n : Nat} (h : ∀ letters ∈ letterClasses, n ∉ letters) :
    classHead n = n := by
  have hfind : letterClasses.find? (·.contains n) = none := by
    rw [List.find?_eq_none]
    exact fun letters hletters hn => h letters hletters (List.contains_iff_mem.mp hn)
  unfold classHead
  rw [hfind]

/-- Two numbers have one representative if they are equal or in one class. -/
theorem classHead_eq_iff {m n : Nat} :
    classHead m = classHead n ↔ m = n ∨ ∃ letters ∈ letterClasses, m ∈ letters ∧ n ∈ letters := by
  constructor
  · intro h
    by_cases hm : ∃ letters ∈ letterClasses, m ∈ letters
    · obtain ⟨letters, hletters, hm⟩ := hm
      by_cases hn : ∃ letters ∈ letterClasses, n ∈ letters
      · obtain ⟨letters', hletters', hn⟩ := hn
        have hhead := classHead_mem hletters' hn
        rw [← h] at hhead
        have heq := letterClasses_unique hletters hletters' (classHead_mem hletters hm) hhead
        exact Or.inr ⟨letters, hletters, hm, heq ▸ hn⟩
      · -- The number `n` would represent `m`, and be in its class.
        rw [classHead_of_forall fun letters hletters hin => hn ⟨letters, hletters, hin⟩] at h
        exact absurd ⟨letters, hletters, h ▸ classHead_mem hletters hm⟩ hn
    · rw [classHead_of_forall fun letters hletters hin => hm ⟨letters, hletters, hin⟩] at h
      by_cases hn : ∃ letters ∈ letterClasses, n ∈ letters
      · obtain ⟨letters, hletters, hn⟩ := hn
        exact absurd ⟨letters, hletters, h ▸ classHead_mem hletters hn⟩ hm
      · rw [classHead_of_forall fun letters hletters hin => hn ⟨letters, hletters, hin⟩] at h
        exact Or.inl h
  · rintro (rfl | ⟨letters, hletters, hm, hn⟩)
    · rfl
    · exact classHead_eq_of_mem hletters hm hn

/-- All numbers in the table of classes are those of code points. -/
theorem letterClasses_lt :
    (letterClasses.all fun letters => letters.all fun n => Nat.blt n 0x110000) = true := by
  decide +kernel

/-- A code point is represented by a code point. -/
theorem classHead_lt {n : Nat} (h : n < 0x110000) : classHead n < 0x110000 := by
  by_cases hn : ∃ letters ∈ letterClasses, n ∈ letters
  · obtain ⟨letters, hletters, hn⟩ := hn
    have hlt := List.all_eq_true.mp (List.all_eq_true.mp letterClasses_lt letters hletters) _
      (classHead_mem hletters hn)
    exact Nat.blt_eq.mp hlt
  · rw [classHead_of_forall fun letters hletters hin => hn ⟨letters, hletters, hin⟩]
    exact h

/-- The number of a representative is that of the class of the lowercase form. -/
theorem val_fold (c : CodePoint) : c.fold.val = classHead c.lower.val :=
  val_ofNat (classHead_lt c.lower.isLt)

/-- Code points are alike exactly if they have the same representative. So a relation with an existential
in it is decided by comparing two numbers. -/
theorem alike_iff {a b : CodePoint} : Alike a b ↔ a.fold = b.fold := by
  rw [eq_iff_val, val_fold, val_fold, classHead_eq_iff, ← eq_iff_val]
  rfl

/-- Being alike is an equivalence. Transitivity is not plain from the definition, and holds because no
code point is in two classes. -/
theorem alike_equivalence : Equivalence Alike where
  refl _ := alike_iff.mpr rfl
  symm h := alike_iff.mpr (alike_iff.mp h).symm
  trans h h' := alike_iff.mpr ((alike_iff.mp h).trans (alike_iff.mp h'))

/-- The characters that have a meaning in search patterns, or are escaped there. A literal search has to
take each of them for itself. -/
def metacharacters : Text :=
  "()[]\x7b\x7d?*+-|^$\\.&~# \t\n\r\x0b\x0c"

/-- No metacharacter has a lowercase form, is one, or is in a class of letters. -/
theorem metacharacters_alone : (metacharacters.all fun c => decide (c.lower = c) &&
    letterClasses.all (fun letters => !letters.contains c.val) &&
    lowerRuns.all fun r => Nat.blt c.val r.target || Nat.blt (r.target + (r.last - r.first)) c.val) =
      true := by
  decide +kernel

/-- A metacharacter is alike to nothing but itself. So a search up to case finds it where it stands, and
nowhere else. -/
theorem eq_of_alike_metacharacter {c d : CodePoint} (hc : c ∈ metacharacters) (h : Alike c d) :
    d = c := by
  have halone := List.all_eq_true.mp metacharacters_alone c hc
  simp only [Bool.and_eq_true, decide_eq_true_eq] at halone
  obtain ⟨⟨hlower, hclasses⟩, hruns⟩ := halone
  unfold Alike at h
  rw [hlower] at h
  rcases h with h | ⟨letters, hletters, hin, -⟩
  · rcases CaseRun.mapIn_eq_or d.val lowerRuns with heq | ⟨r, hr, himage⟩
    · rw [h, eq_iff_val, val_lower, heq]
    · rw [← val_lower, ← h] at himage
      obtain ⟨hfirst, hlast, -, heq⟩ := CaseRun.map?_eq_some_iff.mp himage
      have hmisses := List.all_eq_true.mp hruns r hr
      rw [Bool.or_eq_true, Nat.blt_eq, Nat.blt_eq] at hmisses
      omega
  · have hnot := List.all_eq_true.mp hclasses letters hletters
    rw [List.contains_iff_mem.mpr hin] at hnot
    cases hnot

end CodePoint

namespace Text

/-- Texts are equal up to case exactly if their code points are alike one by one. In particular they have
the same length. -/
theorem sameLetters_iff_forall₂ {s t : Text} : SameLetters s t ↔ List.Forall₂ CodePoint.Alike s t := by
  have halike : CodePoint.Alike = fun a b => a.fold = b.fold :=
    funext₂ fun _ _ => propext CodePoint.alike_iff
  rw [halike]
  unfold SameLetters fold
  rw [← List.forall₂_eq_eq_eq, List.forall₂_map_left_iff, List.forall₂_map_right_iff]

end Text

end TermAudit
