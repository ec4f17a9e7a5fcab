import TermAudit.Console.Emoji
import TermAudit.Proofs.OrderedMap

/-!
# `TermAudit.Proofs.Console.Emoji`: texts that emoji change

`Emoji.codes` lists what stands between the colons of a text, pair by pair. If none of it is the name of
an emoji, the text stays as it is, and otherwise it has fewer colons afterwards, since no emoji has any of
the signs that mean something on the console (`Emoji.replaced_cases`).
-/

set_option autoImplicit false

namespace TermAudit

/-- The signs that can mean something in lines for the console. Counting them is what shows that something
has been lost: every way in which a text is read as something else takes some of them away. -/
def CodePoint.isSign (c : CodePoint) : Bool :=
  c = '[' || c = ']' || c = '\\' || c = ':'

namespace Emoji

/-- What stands between two colons, where `before` is the text since the first of them, last code point
first. A colon that ends a code does not begin the next one, so the pairs of colons do not overlap. This
is how codes are looked for from the left. -/
def codesFrom : Option Text → Text → List Text
  | _, [] => []
  | none, c :: rest => if c = ':' then codesFrom (some []) rest else codesFrom none rest
  | some before, c :: rest =>
    if c = ':' then before.reverse :: codesFrom none rest
    else if isCodePart c then codesFrom (some (c :: before)) rest
    else codesFrom none rest

/-- What stands between the colons of a text, from left to right. Most of it is no name of an emoji, and
then the colons stay. -/
def codes (t : Text) : List Text :=
  codesFrom none t

/-- Without another colon there is no code. -/
theorem codesFrom_of_notMem {before : Option Text} {t : Text} (h : CodePoint.ofChar ':' ∉ t) :
    codesFrom before t = [] := by
  fun_induction codesFrom before t with
  | case1 => rfl
  | case2 => exact absurd List.mem_cons_self h
  | case3 c rest _ ih => exact ih fun hmem => h (List.mem_cons_of_mem c hmem)
  | case4 => exact absurd List.mem_cons_self h
  | case5 before c rest _ _ ih => exact ih fun hmem => h (List.mem_cons_of_mem c hmem)
  | case6 before c rest _ _ ih => exact ih fun hmem => h (List.mem_cons_of_mem c hmem)

/-- Nothing before the first colon matters. -/
theorem codes_append {before : Text} (h : CodePoint.ofChar ':' ∉ before) (t : Text) :
    codes (before ++ t) = codes t := by
  unfold codes
  induction before with
  | nil => rfl
  | cons c before ih =>
    rw [List.mem_cons, not_or] at h
    rw [List.cons_append, codesFrom, if_neg (Ne.symm h.1), ih h.2]

/-- No emoji has a sign. This is checked for the whole table at once, and is the reason why replacing
codes can only lose signs. -/
theorem table_checked :
    (table.all fun entry => entry.2.all fun c => !c.isSign) = true := by
  decide +kernel

/-- The emoji of a name has no sign. -/
theorem isSign_of_ofName? {name emoji : Text} (h : ofName? name = some emoji) :
    ∀ c ∈ emoji, c.isSign = false := by
  have hentry : (name.lower, emoji) ∈ table := mem_of_lookup h
  intro c hc
  have hchecked := List.all_eq_true.mp (List.all_eq_true.mp table_checked _ hentry) c hc
  simpa using hchecked

/-- Nor has that of a code with a variant at its end, which adds a code point that is none. -/
theorem isSign_of_ofCode? {code emoji : Text} (h : ofCode? code = some emoji) :
    ∀ c ∈ emoji, c.isSign = false := by
  unfold ofCode? at h
  split at h
  · rename_i ending form hform
    obtain ⟨plain, hplain, rfl⟩ := Option.map_eq_some_iff.mp h
    intro c hc
    rcases List.mem_append.mp hc with hc | hc
    · exact isSign_of_ofName? hplain c hc
    · -- The code point that asks for a form is none of the signs either.
      rw [List.mem_singleton.mp hc]
      have hforms : ∀ f ∈ forms, f.2.isSign = false := by decide
      exact hforms _ (List.mem_of_find?_eq_some hform)
  · exact isSign_of_ofName? h

/-- What has been seen of a text: nothing that matters, or a colon and the text since. It gives back what
the state of the search holds, so that a run in the middle of a text can be stated about the whole
text. -/
def seen : Option Text → Text
  | none => []
  | some before => CodePoint.ofChar ':' :: before.reverse

/-- The same where a colon may have been seen, with what follows it. -/
theorem replacedFrom_cases (before : Option Text) (t : Text) :
    ((∀ code ∈ codesFrom before t, ofCode? code = none) ∧ replacedFrom before t = seen before ++ t) ∨
      ((∃ code ∈ codesFrom before t, ofCode? code ≠ none) ∧
        (replacedFrom before t).countP CodePoint.isSign <
          (seen before ++ t).countP CodePoint.isSign) := by
  fun_induction replacedFrom before t with
  | case1 => exact Or.inl ⟨fun code h => (nomatch h), rfl⟩
  | case2 before => exact Or.inl ⟨fun code h => (nomatch h), (List.append_nil _).symm⟩
  | case3 rest ih => simpa [codesFrom, seen] using ih
  | case4 c rest hc ih =>
    rw [codesFrom, if_neg hc]
    refine ih.imp (fun h => ⟨h.1, by rw [h.2]; rfl⟩) fun h => ⟨h.1, ?_⟩
    have hless := h.2
    simp only [seen, List.nil_append, List.countP_cons] at hless ⊢
    omega
  | case5 before rest code written ih =>
    -- The second colon ends the code, and the text behind it is looked at afresh.
    have hcolon : CodePoint.isSign (CodePoint.ofChar ':') = true := by decide
    have hcodes : codesFrom (some before) (CodePoint.ofChar ':' :: rest) = code :: codesFrom none rest := by
      rw [codesFrom, if_pos rfl]
    have htext : seen (some before) ++ CodePoint.ofChar ':' :: rest = written ++ rest := by
      show CodePoint.ofChar ':' :: before.reverse ++ CodePoint.ofChar ':' :: rest =
        CodePoint.ofChar ':' :: before.reverse ++ [CodePoint.ofChar ':'] ++ rest
      simp
    rw [hcodes, htext]
    cases hcode : ofCode? code with
    | some emoji =>
      -- An emoji takes the place of at least two colons.
      have hemoji : emoji.countP CodePoint.isSign = 0 :=
        List.countP_eq_zero.mpr fun c hc => by simp [isSign_of_ofCode? hcode c hc]
      have hwritten : 2 ≤ written.countP CodePoint.isSign := by
        show 2 ≤ (CodePoint.ofChar ':' :: before.reverse ++ [CodePoint.ofChar ':']).countP
          CodePoint.isSign
        rw [List.countP_append, List.countP_cons_of_pos hcolon, List.countP_cons_of_pos hcolon]
        omega
      have hrest : (replacedFrom none rest).countP CodePoint.isSign ≤ rest.countP CodePoint.isSign := by
        rcases ih with ⟨-, hsame⟩ | ⟨-, hless⟩
        · rw [hsame]
          exact Nat.le_refl _
        · exact Nat.le_of_lt hless
      refine Or.inr ⟨⟨code, List.mem_cons_self, by simp [hcode]⟩, ?_⟩
      rw [Option.getD_some, List.countP_append, List.countP_append]
      omega
    | none =>
      -- A code that names no emoji is written as it was read.
      clear_value written
      rw [Option.getD_none]
      refine ih.imp (fun h => ⟨List.forall_mem_cons.mpr ⟨hcode, h.1⟩, by rw [h.2]; rfl⟩) fun h => ⟨?_, ?_⟩
      · obtain ⟨code', hmem, hcode'⟩ := h.1
        exact ⟨code', List.mem_cons_of_mem _ hmem, hcode'⟩
      · have hless := h.2
        rw [List.countP_append, List.countP_append]
        simp only [seen, List.nil_append] at hless
        omega
  | case6 before c rest hc hpart ih => simpa [codesFrom, hc, hpart, seen] using ih
  | case7 before c rest hc hpart ih =>
    rw [codesFrom, if_neg hc, if_neg hpart]
    refine ih.imp (fun h => ⟨h.1, by rw [h.2]; rfl⟩) fun h => ⟨h.1, ?_⟩
    have hless := h.2
    simp only [seen, List.nil_append, List.countP_append, List.countP_cons] at hless ⊢
    omega

/-- If no name of an emoji stands between colons the text stays as it is, and otherwise it has fewer signs
afterwards: two colons are lost for each emoji, and no emoji has any. -/
theorem replaced_cases (t : Text) :
    ((∀ code ∈ codes t, ofCode? code = none) ∧ replaced t = t) ∨
      ((∃ code ∈ codes t, ofCode? code ≠ none) ∧
        (replaced t).countP CodePoint.isSign < t.countP CodePoint.isSign) :=
  replacedFrom_cases none t

end Emoji

end TermAudit
