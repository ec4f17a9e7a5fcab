import TermAudit.Proofs.Result

/-!
# `TermAudit.Proofs.State`: what computations keep of a state

A computation that can fail goes from one state to another. `Maintains P Q x` says that `x` goes from
states with `P` to states with `P` alone, and that its results have `Q`. Of a computation that fails it
says nothing. What is made of steps that maintain something maintains it as well.

`Concludes P E x` is about failures: from a state with `P` the computation goes to such a state, or it
fails with an error that has `E`.
-/

set_option autoImplicit false

namespace TermAudit

variable {σ ε α β ι : Type} {P : σ → Prop} {Q : α → Prop} {R : β → Prop} {E : ε → Prop}

/-- From states with `P` the computation goes to such states alone, and its results have `Q`. A
computation that fails has no result, so it is trivially maintained there. -/
def Maintains (P : σ → Prop) (Q : α → Prop) (x : StateT σ (Except ε) α) : Prop :=
  ∀ s a s', P s → x.run s = .ok (a, s') → P s' ∧ Q a

/-- A result that has the property is given without touching the state. -/
theorem maintains_pure {a : α} (h : Q a) : Maintains P Q (pure a : StateT σ (Except ε) α) := by
  intro s a' s' hs hrun
  cases hrun
  exact ⟨hs, h⟩

/-- The first computation leaves a state with `P` and a result with `Q`, and this is where the second one
starts. -/
theorem Maintains.bind {x : StateT σ (Except ε) α} {f : α → StateT σ (Except ε) β}
    (hx : Maintains P Q x) (hf : ∀ a, Q a → Maintains P R (f a)) : Maintains P R (x >>= f) := by
  intro s b s'' hs hrun
  rw [StateT.run_bind] at hrun
  -- The state between the two steps has `P`, and with it the second one starts.
  obtain ⟨⟨a, s'⟩, hfirst, hsecond⟩ := bind_eq_ok_iff.mp hrun
  obtain ⟨hs', ha⟩ := hx s a s' hs hfirst
  exact hf a ha s' b s'' hs' hsecond

/-- What depends on the state can be looked at for each state with `P`. -/
theorem maintains_get {f : σ → StateT σ (Except ε) β} (hf : ∀ s, P s → Maintains P R (f s)) :
    Maintains P R (get >>= f) := by
  intro s b s' hs hrun
  rw [StateT.run_bind, StateT.run_get, pure_bind] at hrun
  exact hf s hs s b s' hs hrun

/-- A state with `P` may take the place of any other. -/
theorem maintains_set {s : σ} (h : P s) :
    Maintains P (fun _ => True) (set s : StateT σ (Except ε) PUnit) := by
  intro s₀ a s' _ hrun
  cases hrun
  exact ⟨h, trivial⟩

/-- The state may be changed by whatever keeps `P`. -/
theorem maintains_modify {f : σ → σ} (h : ∀ s, P s → P (f s)) :
    Maintains P (fun _ => True) (modify f : StateT σ (Except ε) PUnit) := by
  intro s a s' hs hrun
  cases hrun
  exact ⟨h s hs, trivial⟩

/-- What does not look at the state leaves it as it is. -/
theorem maintains_lift {x : Except ε α} (h : ∀ a, x = .ok a → Q a) :
    Maintains P Q (liftM x : StateT σ (Except ε) α) := by
  intro s a s' hs hrun
  cases x with
  | error e => cases hrun
  | ok a' =>
    cases hrun
    exact ⟨hs, h a rfl⟩

/-- If nothing is to be said of the result, a computation without a state needs no proof. -/
theorem maintains_any (x : Except ε α) :
    Maintains P (fun _ => True) (liftM x : StateT σ (Except ε) α) :=
  maintains_lift fun _ _ => trivial

/-- Each result has the property on its own, and the state is handed on from one to the next. -/
theorem maintains_mapM {f : ι → StateT σ (Except ε) β} (hf : ∀ i, Maintains P R (f i)) (l : List ι) :
    Maintains P (fun bs => ∀ b ∈ bs, R b) (l.mapM f) := by
  induction l with
  | nil => exact maintains_pure fun _ hb => absurd hb List.not_mem_nil
  | cons i l ih =>
    rw [List.mapM_cons]
    exact (hf i).bind fun b hb => ih.bind fun bs hbs =>
      maintains_pure (List.forall_mem_cons.mpr ⟨hb, hbs⟩)

/-- The property of what is made so far is an invariant of the loop. -/
theorem maintains_foldlM {f : β → ι → StateT σ (Except ε) β}
    (hf : ∀ b i, R b → Maintains P R (f b i)) (l : List ι) {b : β} (hb : R b) :
    Maintains P R (l.foldlM f b) := by
  induction l generalizing b with
  | nil => exact maintains_pure hb
  | cons i l ih =>
    rw [List.foldlM_cons]
    exact (hf b i hb).bind fun b' hb' => ih hb'

/-! ## Failures -/

/-- From a state with `P` the computation goes to such a state, or it fails with an error that has `E`. It
says what every run comes to, and so which failures are possible at all. -/
def Concludes (P : σ → Prop) (E : ε → Prop) (x : StateT σ (Except ε) α) : Prop :=
  ∀ s, P s → (∃ a s', x.run s = .ok (a, s') ∧ P s') ∨ ∃ e, x.run s = .error e ∧ E e

/-- A result is no failure. -/
theorem concludes_pure (a : α) : Concludes P E (pure a : StateT σ (Except ε) α) :=
  fun s hs => Or.inl ⟨a, s, rfl, hs⟩

/-- The first computation fails for a reason that is allowed, or the second one starts from a state with
`P`. -/
theorem Concludes.bind {x : StateT σ (Except ε) α} {f : α → StateT σ (Except ε) β}
    (hx : Concludes P E x) (hf : ∀ a, Concludes P E (f a)) : Concludes P E (x >>= f) := by
  intro s hs
  rw [StateT.run_bind]
  rcases hx s hs with ⟨a, s', hrun, hs'⟩ | ⟨e, hrun, he⟩
  · rw [hrun]
    exact hf a s' hs'
  · exact Or.inr ⟨e, by rw [hrun]; rfl, he⟩

/-- What depends on the state can be looked at for each state with `P`. -/
theorem concludes_get {f : σ → StateT σ (Except ε) β} (hf : ∀ s, P s → Concludes P E (f s)) :
    Concludes P E (get >>= f) := by
  intro s hs
  rw [StateT.run_bind, StateT.run_get, pure_bind]
  exact hf s hs s hs

/-- A state with `P` is set without failing. -/
theorem concludes_set {s : σ} (h : P s) : Concludes P E (set s : StateT σ (Except ε) PUnit) :=
  fun _ _ => Or.inl ⟨⟨⟩, s, rfl, h⟩

/-- A change of the state cannot fail. -/
theorem concludes_modify {f : σ → σ} (h : ∀ s, P s → P (f s)) :
    Concludes P E (modify f : StateT σ (Except ε) PUnit) :=
  fun s hs => Or.inl ⟨⟨⟩, f s, rfl, h s hs⟩

/-- A computation without a state fails for its own reasons alone. -/
theorem concludes_lift {x : Except ε α} (h : ∀ e, x = .error e → E e) :
    Concludes P E (liftM x : StateT σ (Except ε) α) := by
  intro s hs
  cases x with
  | error e => exact Or.inr ⟨e, rfl, h e rfl⟩
  | ok a => exact Or.inl ⟨a, s, rfl, hs⟩

/-- A loop over a list fails only for reasons of its steps. -/
theorem concludes_mapM {f : ι → StateT σ (Except ε) β} (hf : ∀ i, Concludes P E (f i)) (l : List ι) :
    Concludes P E (l.mapM f) := by
  induction l with
  | nil => exact concludes_pure []
  | cons i l ih =>
    rw [List.mapM_cons]
    exact (hf i).bind fun b => ih.bind fun bs => concludes_pure _

/-- A loop with a result that is handed on fails only for reasons of its steps. Nothing needs to be known of
the result. -/
theorem concludes_foldlM {f : β → ι → StateT σ (Except ε) β} (hf : ∀ b i, Concludes P E (f b i))
    (l : List ι) (b : β) : Concludes P E (l.foldlM f b) := by
  induction l generalizing b with
  | nil => exact concludes_pure b
  | cons i l ih =>
    rw [List.foldlM_cons]
    exact (hf b i).bind fun b' => ih b'

end TermAudit
