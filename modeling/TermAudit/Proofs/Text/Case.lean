import TermAudit.Text.Case
import TermAudit.Text.Folding

/-!
# `TermAudit.Proofs.Text.Case`: lowercase and equality up to case

`Text.lower` is the full lowercase mapping: it looks at the neighbours of a sigma and makes two code
points of `İ`. Equality up to case compares code points one by one by their simple lowercase forms.
The two notions agree as far as they can:

* `CodePoint.lower_lower`: the simple lowercase form of a code point has no other lowercase form;
* `Text.lower_lower`: neither has the full lowercase form of a text;
* `Text.fold_lower`: a text without `İ` equals its lowercase form up to case;
* `Text.length_lower`: every `İ` makes the lowercase form longer by one;
* `Text.sameLetters_lower_iff`: so a text with `İ` does not equal its lowercase form.
-/

set_option autoImplicit false

namespace TermAudit

namespace CaseRun

/-- A run maps a number exactly if it lies in the run at a multiple of its step, and moves it by the
distance between the run and its images. -/
theorem map?_eq_some_iff {r : CaseRun} {n m : Nat} :
    r.map? n = some m ↔ r.first ≤ n ∧ n ≤ r.last ∧ (n - r.first) % r.step = 0 ∧
      m = r.target + (n - r.first) := by
  unfold map? Stride.contains
  simp only [Bool.and_eq_true, decide_eq_true_eq, beq_iff_eq]
  constructor
  · intro h
    split at h
    · rename_i hn
      cases h
      exact ⟨hn.1.1, hn.1.2, hn.2, rfl⟩
    · cases h
  · rintro ⟨hfirst, hlast, hstep, rfl⟩
    rw [if_pos ⟨⟨hfirst, hlast⟩, hstep⟩]

/-- What lies at an even distance is even or odd together. -/
theorem mod_two_of_mod_step {a step : Nat} (hstep : step % 2 = 0) (h : a % step = 0) :
    a % 2 = 0 := by
  have hdvd : 2 ∣ a := Nat.dvd_trans (Nat.dvd_of_mod_eq_zero hstep) (Nat.dvd_of_mod_eq_zero h)
  omega

/-- The last number that an image can be, since the images of a run are as far apart as its numbers. -/
def imageEnd (r : CaseRun) : Nat :=
  r.target + (r.last - r.first)

/-- An image lies between the first and the last one. -/
theorem le_imageEnd {r : CaseRun} {n m : Nat} (h : r.map? n = some m) :
    r.target ≤ m ∧ m ≤ r.imageEnd := by
  obtain ⟨hfirst, hlast, -, rfl⟩ := map?_eq_some_iff.mp h
  unfold imageEnd
  omega

/-- Whether the images of `r` and the numbers in `s` take turns: the ones are even and the others odd.
Capital and small letters take turns like this in many blocks, where bounds alone would not show that they
are different. -/
def alternates (r s : CaseRun) : Bool :=
  (r.step % 2 == 0 || r.first == r.last) && s.step % 2 == 0 && (r.target + s.first) % 2 == 1

/-- Where images of one run and numbers of another take turns, no image is mapped again. -/
theorem map?_of_alternates {r s : CaseRun} {n m : Nat} (h : r.alternates s = true)
    (hm : r.map? n = some m) : s.map? m = none := by
  obtain ⟨hfirst, hlast, hstep, rfl⟩ := map?_eq_some_iff.mp hm
  rw [Option.eq_none_iff_forall_ne_some]
  intro k hk
  obtain ⟨hfirst', hlast', hstep', -⟩ := map?_eq_some_iff.mp hk
  simp only [alternates, Bool.or_eq_true, Bool.and_eq_true, beq_iff_eq] at h
  obtain ⟨⟨heven, heven'⟩, hodd⟩ := h
  have hn : (n - r.first) % 2 = 0 := by
    rcases heven with heven | hsingle
    · exact mod_two_of_mod_step heven hstep
    · omega
  have hm := mod_two_of_mod_step heven' hstep'
  omega

/-- Whether no image of `r` belongs to one of the runs, as far as it can be seen at a glance. Runs that
end before the images are passed over, and one that begins behind them ends the search. So a check of all
runs against all others takes few steps. -/
def missesIn (r : CaseRun) : List CaseRun → Bool
  | [] => true
  | s :: rest =>
    bif s.last.blt r.target then r.missesIn rest
    else bif r.imageEnd.blt s.first then true
    else r.alternates s && r.missesIn rest

/-- The images are their own images then. -/
theorem mapIn_of_missesIn {r : CaseRun} {runs : List CaseRun} {n m : Nat}
    (h : r.missesIn runs = true) (hm : r.map? n = some m) : mapIn m runs = m := by
  obtain ⟨htarget, hend⟩ := le_imageEnd hm
  induction runs with
  | nil => rfl
  | cons s rest ih =>
    unfold mapIn
    by_cases hbefore : m < s.first
    · rw [if_pos hbefore]
    rw [if_neg hbefore]
    unfold missesIn at h
    cases hpassed : s.last.blt r.target with
    | true =>
      rw [hpassed, cond_true] at h
      rw [Nat.blt_eq] at hpassed
      -- All letters of this run come before the target, so none of them is `m`.
      have hnone : s.map? m = none := by
        rw [Option.eq_none_iff_forall_ne_some]
        intro k hk
        obtain ⟨-, hlast, -, -⟩ := map?_eq_some_iff.mp hk
        omega
      rw [hnone, ih h]
    | false =>
      rw [hpassed, cond_false] at h
      -- The image reaches the run, so the two have to alternate, and `m` is a letter that the run leaves out.
      have hreached : r.imageEnd.blt s.first = false := by
        rw [Bool.eq_false_iff, ne_eq, Nat.blt_eq]
        omega
      rw [hreached, cond_false, Bool.and_eq_true] at h
      rw [map?_of_alternates h.1 hm, ih h.2]

/-- A number is its own image, or some run holds it. -/
theorem mapIn_eq_or (n : Nat) (runs : List CaseRun) :
    mapIn n runs = n ∨ ∃ r ∈ runs, r.map? n = some (mapIn n runs) := by
  induction runs with
  | nil => exact Or.inl rfl
  | cons r rest ih =>
    unfold mapIn
    by_cases hbefore : n < r.first
    · rw [if_pos hbefore]
      exact Or.inl rfl
    · rw [if_neg hbefore]
      cases himage : r.map? n with
      | some m => exact Or.inr ⟨r, List.mem_cons_self .., himage⟩
      | none =>
        rcases ih with h | ⟨s, hs, h⟩
        · exact Or.inl h
        · exact Or.inr ⟨s, List.mem_cons_of_mem _ hs, h⟩

end CaseRun

namespace CodePoint

/-- All runs of lowercase forms pass four tests. They are computed once for the table, and the theorems
about single code points draw on them. -/
theorem lowerRuns_checked : (lowerRuns.all fun r => r.missesIn lowerRuns && Nat.ble 0x41 r.target &&
    r.imageEnd.blt 0x110000 && (Nat.ble 0x10000 r.first || r.imageEnd.blt 0x10000)) = true := by
  decide +kernel

/-- The images of lowercase runs have no other images. They are code points, none of them before the
letters, and those of code points in the basic plane are there as well. -/
theorem of_mem_lowerRuns {r : CaseRun} (h : r ∈ lowerRuns) : r.missesIn lowerRuns = true ∧
    0x41 ≤ r.target ∧ r.imageEnd < 0x110000 ∧ (0x10000 ≤ r.first ∨ r.imageEnd < 0x10000) := by
  have hall := List.all_eq_true.mp lowerRuns_checked r h
  simpa only [Bool.and_eq_true, Bool.or_eq_true, Nat.ble_eq, Nat.blt_eq, and_assoc] using hall

/-- The number of the lowercase form. -/
theorem val_lower (c : CodePoint) : c.lower.val = CaseRun.mapIn c.val lowerRuns := by
  unfold lower
  rw [val_ofNat]
  rcases CaseRun.mapIn_eq_or c.val lowerRuns with h | ⟨r, hr, h⟩
  · rw [h]
    exact c.isLt
  · obtain ⟨-, -, hlt, -⟩ := of_mem_lowerRuns hr
    have hle := (CaseRun.le_imageEnd h).2
    omega

/-- The lowercase form of a code point has no other lowercase form. It is checked for runs against runs,
as there are too many code points to try them all. -/
theorem lower_lower (c : CodePoint) : c.lower.lower = c.lower := by
  rw [eq_iff_val, val_lower, val_lower]
  rcases CaseRun.mapIn_eq_or c.val lowerRuns with h | ⟨r, hr, h⟩
  · rw [h, h]
  · exact CaseRun.mapIn_of_missesIn (of_mem_lowerRuns hr).1 h

/-- The lowercase form of a code point in the basic plane is there as well. -/
theorem lower_lt {c : CodePoint} (h : c.val < 0x10000) : c.lower.val < 0x10000 := by
  rw [val_lower]
  rcases CaseRun.mapIn_eq_or c.val lowerRuns with heq | ⟨r, hr, himage⟩
  · rw [heq]
    exact h
  · obtain ⟨-, -, -, hbasic⟩ := of_mem_lowerRuns hr
    obtain ⟨hfirst, -, -, -⟩ := CaseRun.map?_eq_some_iff.mp himage
    have hle := (CaseRun.le_imageEnd himage).2
    omega

/-- A code point equals its lowercase form up to case. -/
theorem fold_lower (c : CodePoint) : c.lower.fold = c.fold := by
  unfold fold
  rw [lower_lower]

end CodePoint

namespace Text

/-- The two lowercase forms of a sigma are equal up to case. -/
theorem fold_finalSigma : (CodePoint.ofChar 'ς').fold = (CodePoint.ofChar 'Σ').fold := by
  decide

/-- The lowercase form of a sigma inside of a word is equal to it up to case as well. -/
theorem fold_smallSigma : (CodePoint.ofChar 'σ').fold = (CodePoint.ofChar 'Σ').fold := by
  decide

/-- A text without `İ` equals its lowercase form up to case. What stands before decides about the
form of a sigma only. -/
theorem fold_lowerAfter {before t : Text} (h : CodePoint.ofChar 'İ' ∉ t) :
    (lowerAfter before t).fold = t.fold := by
  induction t generalizing before with
  | nil => rfl
  | cons c rest ih =>
    rw [List.mem_cons, not_or] at h
    have hrest : fold (lowerAfter (c :: before) rest) = fold rest := ih h.2
    simp only [fold] at hrest
    simp only [lowerAfter, fold, List.map_append, hrest, List.map_cons]
    -- A sigma has two lowercase forms, which are folded alike. Any other letter here has one.
    by_cases hsigma : c = CodePoint.ofChar 'Σ'
    · subst hsigma
      rw [if_pos rfl]
      split
      · simp [fold_finalSigma]
      · simp [fold_smallSigma]
    · have hfull : c.lowerFull = [c.lower] := if_neg fun hc => h.1 hc.symm
      rw [if_neg hsigma, hfull]
      simp [CodePoint.fold_lower]

/-- A text without `İ` equals its lowercase form up to case. A sigma may become another one at the end of
a word, but the two are equal up to case. -/
theorem fold_lower {t : Text} (h : CodePoint.ofChar 'İ' ∉ t) : SameLetters t.lower t :=
  fold_lowerAfter h

/-- Every `İ` makes the lowercase form longer by one. -/
theorem length_lowerAfter (before t : Text) :
    (lowerAfter before t).length = t.length + t.count (CodePoint.ofChar 'İ') := by
  induction t generalizing before with
  | nil => rfl
  | cons c rest ih =>
    have hsigma : ¬ CodePoint.ofChar 'Σ' = CodePoint.ofChar 'İ' := by decide
    simp only [lowerAfter, List.length_append, ih, List.length_cons, List.count_cons,
      CodePoint.lowerFull, beq_iff_eq]
    by_cases hc : c = CodePoint.ofChar 'Σ'
    · subst hc
      rw [if_pos rfl, if_neg hsigma]
      split <;> simp <;> omega
    · rw [if_neg hc]
      by_cases hdot : c = CodePoint.ofChar 'İ'
      · rw [if_pos hdot, if_pos hdot]
        simp
        omega
      · rw [if_neg hdot, if_neg hdot]
        simp
        omega

/-- The lowercase form of a text is longer by one for each `İ` in it, and otherwise as long. -/
theorem length_lower (t : Text) : t.lower.length = t.length + t.count (CodePoint.ofChar 'İ') :=
  length_lowerAfter [] t

/-- A text equals its lowercase form up to case exactly if it has no `İ`. -/
theorem sameLetters_lower_iff {t : Text} :
    SameLetters t.lower t ↔ CodePoint.ofChar 'İ' ∉ t := by
  constructor
  · intro h hdot
    have hlength := h.length_eq
    rw [length_lower] at hlength
    have hcount := List.count_pos_iff.mpr hdot
    omega
  · exact fold_lower

/-- The code points that lowercase forms have for a sigma and for `İ`. All others in a full lowercase form
are simple ones. -/
def lowerExtras : Text :=
  [.ofChar 'ς', .ofChar 'σ', .ofChar 'i', .ofNat 0x0307]

/-- A lowercase form has the lowercase forms of code points, and a few others. -/
theorem mem_lowerAfter {before t : Text} {c : CodePoint} (h : c ∈ lowerAfter before t) :
    c ∈ lowerExtras ∨ ∃ d ∈ t, c = d.lower := by
  induction t generalizing before with
  | nil => cases h
  | cons d rest ih =>
    unfold lowerAfter at h
    dsimp only at h
    rcases List.mem_append.mp h with h | h
    · split at h
      · rw [List.mem_singleton.mp h]
        refine Or.inl ?_
        split
        · exact List.mem_cons_self
        · exact List.mem_cons_of_mem _ List.mem_cons_self
      · unfold CodePoint.lowerFull at h
        split at h
        · exact Or.inl (List.mem_cons_of_mem _ (List.mem_cons_of_mem _ h))
        · exact Or.inr ⟨d, List.mem_cons_self, List.mem_singleton.mp h⟩
    · exact (ih h).imp_right fun ⟨d, hd, heq⟩ => ⟨d, List.mem_cons_of_mem _ hd, heq⟩

/-- None of these code points has another lowercase form, and all are in the basic plane. -/
theorem lowerExtras_lower :
    (lowerExtras.all fun c => decide (c.lower = c ∧ c.val < 0x10000)) = true := by
  decide

/-- What a lowercase form is made of has no other lowercase form. -/
theorem lower_of_mem_lower {t : Text} {c : CodePoint} (h : c ∈ t.lower) : c.lower = c := by
  rcases mem_lowerAfter h with hextra | ⟨d, -, rfl⟩
  · exact (of_decide_eq_true (List.all_eq_true.mp lowerExtras_lower c hextra)).1
  · exact d.lower_lower

/-- A text whose code points have no other lowercase form has none. -/
theorem lowerAfter_of_forall {before t : Text} (h : ∀ c ∈ t, c.lower = c) : lowerAfter before t = t := by
  -- The letters that are not simply mapped are two, and each of them has another lowercase form.
  have hspecial : (CodePoint.ofChar 'Σ').lower ≠ .ofChar 'Σ' ∧
      (CodePoint.ofChar 'İ').lower ≠ .ofChar 'İ' := by
    decide
  induction t generalizing before with
  | nil => rfl
  | cons c rest ih =>
    obtain ⟨hc, hrest⟩ := List.forall_mem_cons.mp h
    have hsigma : c ≠ CodePoint.ofChar 'Σ' := by
      rintro rfl
      exact hspecial.1 hc
    have hdot : c ≠ CodePoint.ofChar 'İ' := by
      rintro rfl
      exact hspecial.2 hc
    unfold lowerAfter
    dsimp only
    rw [if_neg hsigma, ih hrest]
    unfold CodePoint.lowerFull
    rw [if_neg hdot, hc]
    rfl

/-- The lowercase form of a text has no other lowercase form. Its sigmas are small already, so where they
stand does not matter the second time. -/
theorem lower_lower (t : Text) : t.lower.lower = t.lower :=
  lowerAfter_of_forall fun _ h => lower_of_mem_lower h

/-- Whether all code points of the text are in the basic plane. Those past it are written as two units,
and read as two code points. -/
def isBasic (t : Text) : Bool :=
  t.all fun c => c.val < 0x10000

/-- The lowercase form of a text in the basic plane is there as well. -/
theorem isBasic_lower {t : Text} (h : t.isBasic = true) : t.lower.isBasic = true := by
  refine List.all_eq_true.mpr fun c hc => decide_eq_true ?_
  rcases mem_lowerAfter hc with hextra | ⟨d, hd, rfl⟩
  · exact (of_decide_eq_true (List.all_eq_true.mp lowerExtras_lower c hextra)).2
  · exact CodePoint.lower_lt (of_decide_eq_true (List.all_eq_true.mp h d hd))

end Text

end TermAudit
