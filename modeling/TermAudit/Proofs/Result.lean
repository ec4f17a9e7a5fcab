/-!
# `TermAudit.Proofs.Result`: computations that can fail

What the result of a computation says about its parts, for computations that give a result or an
error.
-/

set_option autoImplicit false

namespace TermAudit

variable {α β ε ε' : Type}

/-- There is a result exactly if there is no error. -/
theorem exists_ok_iff_forall_ne {x : Except ε α} : (∃ a, x = .ok a) ↔ ∀ e, x ≠ .error e := by
  cases x with
  | error e => exact iff_of_false (fun ⟨_, h⟩ => nomatch h) fun h => h e rfl
  | ok a => exact iff_of_true ⟨a, rfl⟩ fun _ h => nomatch h

/-- Two steps give a result if the first gives one from which the second gives it. -/
theorem bind_eq_ok_iff {x : Except ε α} {f : α → Except ε β} {b : β} :
    x >>= f = .ok b ↔ ∃ a, x = .ok a ∧ f a = .ok b := by
  cases x with
  | error e =>
    constructor
    · intro h
      cases h
    · rintro ⟨a, ha, -⟩
      cases ha
  | ok a =>
    constructor
    · intro h
      exact ⟨a, rfl, h⟩
    · rintro ⟨a', ha', h⟩
      cases ha'
      exact h

/-- Two steps fail if the first fails, or the second does on the result of the first. -/
theorem bind_eq_error_iff {x : Except ε α} {f : α → Except ε β} {e : ε} :
    x >>= f = .error e ↔ x = .error e ∨ ∃ a, x = .ok a ∧ f a = .error e := by
  cases x with
  | error e' =>
    constructor
    · intro h
      cases h
      exact Or.inl rfl
    · rintro (h | ⟨a, ha, -⟩)
      · cases h
        rfl
      · cases ha
  | ok a =>
    constructor
    · intro h
      exact Or.inr ⟨a, rfl, h⟩
    · rintro (h | ⟨a', ha', h⟩)
      · cases h
      · cases ha'
        exact h

/-- A function on results leaves errors as they are. -/
theorem map_eq_error_iff {x : Except ε α} {f : α → β} {e : ε} :
    f <$> x = .error e ↔ x = .error e := by
  cases x with
  | error e' =>
    constructor
    · intro h
      cases h
      rfl
    · intro h
      cases h
      rfl
  | ok a =>
    constructor
    · intro h
      cases h
    · intro h
      cases h

/-- A result is the function of a result. -/
theorem map_eq_ok_iff {x : Except ε α} {f : α → β} {b : β} :
    f <$> x = .ok b ↔ ∃ a, x = .ok a ∧ f a = b := by
  cases x with
  | error e =>
    constructor
    · intro h
      cases h
    · rintro ⟨a, h, -⟩
      cases h
  | ok a =>
    constructor
    · intro h
      exact ⟨a, rfl, Except.ok.inj h⟩
    · rintro ⟨a', h, rfl⟩
      cases h
      rfl

/-- A function on errors leaves results as they are. -/
theorem mapError_eq_ok_iff {x : Except ε α} {f : ε → ε'} {a : α} :
    x.mapError f = .ok a ↔ x = .ok a := by
  cases x with
  | error e =>
    constructor
    · intro h
      cases h
    · intro h
      cases h
  | ok b =>
    constructor
    · intro h
      cases h
      rfl
    · intro h
      cases h
      rfl

/-- An error is the function of an error. -/
theorem mapError_eq_error_iff {x : Except ε α} {f : ε → ε'} {e : ε'} :
    x.mapError f = .error e ↔ ∃ e', x = .error e' ∧ f e' = e := by
  cases x with
  | error e' =>
    constructor
    · intro h
      exact ⟨e', rfl, Except.error.inj h⟩
    · rintro ⟨e'', h, rfl⟩
      cases h
      rfl
  | ok a =>
    constructor
    · intro h
      cases h
    · rintro ⟨e', h, -⟩
      cases h

/-- What is done for each element of a list fails with the error of the first element that it fails
for. -/
theorem mapM_eq_error_iff {f : α → Except ε β} {l : List α} {e : ε} :
    l.mapM f = .error e ↔ ∃ front a back, l = front ++ a :: back ∧
      (∀ a' ∈ front, ∃ b, f a' = .ok b) ∧ f a = .error e := by
  induction l with
  | nil =>
    refine iff_of_false (fun h => nomatch h) ?_
    rintro ⟨front, a, back, h, -⟩
    exact List.append_ne_nil_of_right_ne_nil _ (List.cons_ne_nil _ _) h.symm
  | cons first rest ih =>
    rw [List.mapM_cons, bind_eq_error_iff]
    constructor
    · rintro (h | ⟨b, hfirst, h⟩)
      · exact ⟨[], first, rest, rfl, fun _ ha => absurd ha List.not_mem_nil, h⟩
      · -- Putting the results together never fails, so the error is one of the rest.
        rcases bind_eq_error_iff.mp h with h | ⟨bs, -, h⟩
        · obtain ⟨front, a, back, rfl, hfront, ha⟩ := ih.mp h
          exact ⟨first :: front, a, back, rfl, List.forall_mem_cons.mpr ⟨⟨b, hfirst⟩, hfront⟩, ha⟩
        · cases h
    · rintro ⟨front, a, back, hl, hfront, ha⟩
      cases front with
      | nil =>
        cases hl
        exact Or.inl ha
      | cons first' front =>
        cases hl
        obtain ⟨⟨b, hfirst⟩, hfront⟩ := List.forall_mem_cons.mp hfront
        refine Or.inr ⟨b, hfirst, bind_eq_error_iff.mpr (Or.inl ?_)⟩
        exact ih.mpr ⟨front, a, back, rfl, hfront, ha⟩

/-- It succeeds if it does for every element. -/
theorem exists_mapM_eq_ok_iff {f : α → Except ε β} {l : List α} :
    (∃ bs, l.mapM f = .ok bs) ↔ ∀ a ∈ l, ∃ b, f a = .ok b := by
  induction l with
  | nil => exact iff_of_true ⟨[], rfl⟩ fun _ ha => absurd ha List.not_mem_nil
  | cons a l ih =>
    rw [List.forall_mem_cons, ← ih]
    constructor
    · rintro ⟨bs, h⟩
      rw [List.mapM_cons] at h
      obtain ⟨b, ha, h⟩ := bind_eq_ok_iff.mp h
      obtain ⟨bs', hl, -⟩ := bind_eq_ok_iff.mp h
      exact ⟨⟨b, ha⟩, bs', hl⟩
    · rintro ⟨⟨b, ha⟩, bs, hl⟩
      exact ⟨b :: bs, by rw [List.mapM_cons, ha, hl]; rfl⟩

/-- What is done for each element of a list gives the values of a function that the single results are
values of. -/
theorem map_of_mapM_eq_ok {f : α → Except ε β} {g : α → β} (hg : ∀ a b, f a = .ok b → g a = b)
    {l : List α} {bs : List β} (h : l.mapM f = .ok bs) :
    bs = l.map g ∧ ∀ a ∈ l, f a = .ok (g a) := by
  induction l generalizing bs with
  | nil =>
    cases h
    exact ⟨rfl, fun _ ha => absurd ha List.not_mem_nil⟩
  | cons a l ih =>
    rw [List.mapM_cons] at h
    obtain ⟨b, hb, h⟩ := bind_eq_ok_iff.mp h
    obtain ⟨bs', hbs, h⟩ := bind_eq_ok_iff.mp h
    cases h
    obtain ⟨rfl, hl⟩ := ih hbs
    exact ⟨by rw [List.map_cons, hg a b hb],
      List.forall_mem_cons.mpr ⟨by rw [hg a b hb]; exact hb, hl⟩⟩

/-- If a step fails for a list, it fails for one of its elements. -/
theorem exists_mem_of_mapM_eq_error {f : α → Except ε β} {l : List α} {e : ε}
    (h : l.mapM f = .error e) : ∃ a ∈ l, f a = .error e := by
  obtain ⟨front, a, back, rfl, -, ha⟩ := mapM_eq_error_iff.mp h
  exact ⟨a, by simp, ha⟩

/-- A list that is made of blocks can be gone through block by block. -/
theorem mapM_flatMap {γ : Type} (f : β → Except ε γ) (g : α → List β) (l : List α) :
    (l.flatMap g).mapM f = List.flatten <$> l.mapM fun a => (g a).mapM f := by
  induction l with
  | nil => rfl
  | cons a l ih => simp [List.flatMap_cons, List.mapM_append, ih]

/-- A loop ends with the error of the first element that its step fails for. -/
theorem foldlM_eq_error_iff {f : β → α → Except ε β} {l : List α} {b : β} {e : ε} :
    l.foldlM f b = .error e ↔
      ∃ front a back b', l = front ++ a :: back ∧ front.foldlM f b = .ok b' ∧ f b' a = .error e := by
  induction l generalizing b with
  | nil =>
    constructor
    · intro h
      cases h
    · rintro ⟨front, a, back, b', h, -⟩
      exact absurd h.symm (List.append_ne_nil_of_right_ne_nil _ (List.cons_ne_nil _ _))
  | cons first rest ih =>
    rw [List.foldlM_cons, bind_eq_error_iff]
    constructor
    · rintro (h | ⟨b₁, hfirst, h⟩)
      · exact ⟨[], first, rest, b, rfl, rfl, h⟩
      · obtain ⟨front, a, back, b', rfl, hfront, h⟩ := ih.mp h
        refine ⟨first :: front, a, back, b', rfl, ?_, h⟩
        rw [List.foldlM_cons, bind_eq_ok_iff]
        exact ⟨b₁, hfirst, hfront⟩
    · rintro ⟨front, a, back, b', hl, hfront, h⟩
      -- The first step fails if nothing is in front, and leads to the state for the rest if something is.
      cases front with
      | nil =>
        cases hl
        cases hfront
        exact Or.inl h
      | cons first' front =>
        cases hl
        rw [List.foldlM_cons, bind_eq_ok_iff] at hfront
        obtain ⟨b₁, hfirst, hfront⟩ := hfront
        exact Or.inr ⟨b₁, hfirst, ih.mpr ⟨front, a, back, b', rfl, hfront, h⟩⟩

/-- A check of the result, if there is one, succeeds only if there is one. -/
theorem exists_ok_of_toOption_any {x : Except ε α} {p : α → Bool}
    (h : x.toOption.any p = true) : ∃ a, x = .ok a ∧ p a = true := by
  cases x with
  | error e => cases h
  | ok a => exact ⟨a, rfl, h⟩

/-- A loop of checks passes exactly if each check does. -/
theorem forM_eq_ok_iff {l : List α} {f : α → Except ε Unit} :
    l.forM f = .ok () ↔ ∀ a ∈ l, f a = .ok () := by
  induction l with
  | nil =>
    constructor
    · intro _ a ha
      cases ha
    · intro _
      rfl
  | cons a l ih =>
    show (f a >>= fun _ => l.forM f) = .ok () ↔ _
    rw [bind_eq_ok_iff]
    constructor
    · rintro ⟨_, ha, hl⟩ b hb
      rcases List.mem_cons.mp hb with rfl | hb
      · exact ha
      · exact ih.mp hl b hb
    · intro h
      exact ⟨(), h a (List.mem_cons_self ..), ih.mpr fun b hb => h b (List.mem_cons_of_mem _ hb)⟩

end TermAudit
