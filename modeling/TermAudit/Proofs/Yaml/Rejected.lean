import TermAudit.Proofs.Yaml.Faults
import TermAudit.Yaml.Outline

/-!
# `TermAudit.Proofs.Yaml.Rejected`: the faults of documents

`Outline.ofDocument` makes the values of all nodes of a document that its root leads to.
`Outline.ofDocument_rejects` says that, if it ends with a fault that is no report, the graph of the
document has a scalar that is rejected with this fault. The invariant on the way is that the graph comes
from the one of the document by merges.
-/

set_option autoImplicit false

namespace TermAudit.Yaml.Outline

variable {g : Graph} {α β : Type}

/-- From a state whose graph comes from `g` the computation goes to another one, or it ends with a fault
that is a report or comes from a scalar in `g`. It is the invariant of making a document level by
level. -/
def Suspects (g : Graph) (x : Outlining α) : Prop :=
  Concludes (fun s : Outline => s.graph.StemsFrom g)
    (fun fault => (∃ report, fault = .malformed report) ∨ g.Rejects fault) x

/-- A result is no fault. -/
theorem suspects_pure (a : α) : Suspects g (pure a) :=
  concludes_pure a

/-- The first computation ends with a fault of this kind, or the second one starts from a graph that comes
from `g`. -/
theorem Suspects.bind {x : Outlining α} {f : α → Outlining β} (hx : Suspects g x)
    (hf : ∀ a, Suspects g (f a)) : Suspects g (x >>= f) :=
  Concludes.bind hx hf

/-- Whatever is done with the state may count on where its graph comes from. -/
theorem suspects_get {f : Outline → Outlining α}
    (hf : ∀ s : Outline, s.graph.StemsFrom g → Suspects g (f s)) : Suspects g (get >>= f) :=
  concludes_get hf

/-- A state whose graph comes from `g` is set without a fault. -/
theorem suspects_set {s : Outline} (h : s.graph.StemsFrom g) : Suspects g (set s) :=
  concludes_set h

/-- A change that keeps this of the graph is no fault either. -/
theorem suspects_modify {f : Outline → Outline}
    (h : ∀ s : Outline, s.graph.StemsFrom g → (f s).graph.StemsFrom g) : Suspects g (modify f) :=
  concludes_modify h

/-- A loop over nodes has only the faults of its steps. -/
theorem suspects_mapM {f : α → Outlining β} (hf : ∀ a, Suspects g (f a)) (l : List α) :
    Suspects g (l.mapM f) :=
  concludes_mapM hf l

/-- So has a loop over entries, whatever has been made before. -/
theorem suspects_foldlM {f : β → α → Outlining β} (hf : ∀ b a, Suspects g (f b a)) (l : List α)
    (b : β) : Suspects g (l.foldlM f b) :=
  concludes_foldlM hf l b

/-- What ends with nothing but reports has no other faults. -/
theorem suspects_reports {x : Except Fault α} {P : α → Prop} (h : Reports P x) :
    Suspects g (liftM x : Outlining α) :=
  h.concludes fun report => Or.inl ⟨report, rfl⟩

/-- A node whose scalar cannot be made is one that is rejected. Any other node only becomes known. -/
theorem suspects_refer (id : NodeId) : Suspects g (refer id) := by
  unfold refer
  refine suspects_get fun s hs => ?_
  have hknow (r : Reference) (waiting : List NodeId) : Suspects g (do
      set { s with known := (id, r) :: s.known, waiting := waiting }
      return r) :=
    Suspects.bind (concludes_set hs) fun _ => suspects_pure r
  split
  · exact suspects_pure _
  · split
    · rename_i result hscalar
      refine Suspects.bind (concludes_lift fun fault hfault => ?_) fun x => ?_
      · subst hfault
        exact (Graph.rejects_of_scalar? hscalar).imp_right fun h => h.of_stemsFrom hs
      · exact hknow _ _
    · have hcollection := hknow (.collection id) (s.waiting ++ [id])
      split
      · exact hcollection
      · exact hcollection
      · exact hcollection
      · exact hcollection
      · exact hcollection
      · exact suspects_get fun _ _ => suspects_reports (P := fun _ => True) (Or.inr ⟨_, rfl⟩)

/-- Merging and unhashable keys are reported, so any other fault of a mapping is that of a scalar in it. -/
theorem suspects_mapping (id : NodeId) : Suspects g (mapping id) := by
  have hmerged : Suspects g (mergedEntries id) := by
    unfold mergedEntries
    refine suspects_get fun s hs => (Graph.reports_mergedEntries id hs).concludes_bind
      (fun report => Or.inl ⟨report, rfl⟩) ?_
    rintro ⟨entries, g'⟩ hg'
    exact (suspects_set (s := { s with graph := g' }) hg').bind fun _ => suspects_pure entries
  refine hmerged.bind fun entries => suspects_foldlM (fun made e => ?_) entries []
  refine (suspects_refer e.1).bind fun key => ?_
  split
  · exact (suspects_refer e.2).bind fun r => suspects_pure _
  · exact suspects_get fun _ _ => suspects_reports (P := fun _ => True) (Or.inr ⟨_, rfl⟩)

/-- The same holds of any collection: what is wrong with its items or pairs is reported. -/
theorem suspects_make (id : NodeId) : Suspects g (make id) := by
  unfold make
  refine suspects_get fun s hs => ?_
  dsimp only
  split
  · exact (suspects_reports (Graph.reports_items id)).bind fun ids =>
      (suspects_mapM suspects_refer ids).bind fun refs => suspects_pure _
  · exact (suspects_mapping id).bind fun entries => suspects_pure _
  · exact (suspects_mapping id).bind fun entries => suspects_pure _
  · refine (suspects_reports (Graph.reports_pairItems id)).bind fun ids => ?_
    refine (suspects_mapM (fun item => ?_) ids).bind fun pairs => suspects_pure _
    exact (suspects_reports (Graph.reports_singleEntry id item)).bind fun e =>
      (suspects_refer e.1).bind fun a => (suspects_refer e.2).bind fun b => suspects_pure _

/-- The same holds of all collections that wait, by induction on the fuel. -/
theorem suspects_drain (fuel : Nat) : Suspects g (drain fuel) := by
  induction fuel with
  | zero => exact suspects_pure ()
  | succ fuel ih =>
    unfold drain
    refine suspects_get fun s hs => ?_
    split
    · exact suspects_pure ()
    · rename_i id others _
      -- Only the making of the collection itself can fail.
      refine (suspects_modify (f := fun s => { s with waiting := others }) fun s hs => hs).bind
        fun _ => (suspects_make id).bind fun level => ?_
      exact (suspects_modify (f := fun s => { s with levels := (id, level) :: s.levels })
        fun s hs => hs).bind fun _ => ih

/-- A document without value reports this, or it has a scalar that is rejected. Every node that the root
leads to is made, so a scalar can stand anywhere in the document. -/
theorem ofDocument_rejects {d : Document} {depth : Nat} {fault : Fault}
    (h : ofDocument depth d = .error fault) :
    (∃ report, fault = .malformed report) ∨ d.graph.Rejects fault := by
  unfold ofDocument at h
  dsimp only at h
  rcases suspects_refer d.root ⟨d.graph, [], [], []⟩ (.refl _) with
    ⟨root, s, hrun, hs⟩ | ⟨e, hrun, he⟩
  · -- The root is known, so the fault comes from one of the collections.
    rw [hrun] at h
    change ((drain (d.graph.size + 1)).run s >>= _) = _ at h
    rcases suspects_drain (d.graph.size + 1) s hs with ⟨_, s', hrun', -⟩ | ⟨e, hrun', he⟩
    · rw [hrun'] at h
      cases h
    · rw [hrun'] at h
      cases h
      exact he
  · rw [hrun] at h
    cases h
    exact he

end TermAudit.Yaml.Outline
