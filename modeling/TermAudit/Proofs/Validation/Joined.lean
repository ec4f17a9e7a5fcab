import TermAudit.Proofs.Index.Listing
import TermAudit.Proofs.Validation.Findings

/-!
# `TermAudit.Proofs.Validation.Joined`: models that are put together

What is reported about the shapes of two models together is what is reported about each of them. The
shapes and traits of the one come first, then those of the other, and then the namespaces, of which
each is reported once. So a shape has findings of its own, whatever other shapes there are.

* `TermTable.Composes`: these laws;
* `TermTable.composes`: they hold for every table that is made from a configuration;
* `Validator.composes_of_config`: the validator of the configuration reports by them, about all models
  that it can check;
* `Validator.check_joined_overlong`: one shape with a path that cannot be written is enough to lose the
  findings in all others.
-/

set_option autoImplicit false

namespace TermAudit

namespace TextInstance

/-- Whether the text is the name of a namespace. These texts belong to the whole model, and all others to
one shape. -/
def isNamespace (i : TextInstance) : Bool :=
  i.place == .namespaceName

end TextInstance

/-- The texts of a shape are no namespaces. -/
theorem Shape.isNamespace_eq_false {s : Shape} {i : TextInstance} (h : i ∈ s.textInstances) :
    i.isNamespace = false := by
  rcases Shape.mem_textInstances_iff.mp h with rfl | ⟨t, -, e, -, rfl⟩
  · rfl
  · rfl

namespace Model

/-- The names of shapes and the texts in traits. For two lists of shapes together these are those of the
one and then those of the other. -/
def declaredTexts (shapes : List Shape) : List TextInstance :=
  shapes.flatMap fun s => (s :: s.members).flatMap Shape.textInstances

/-- The namespaces of shapes and members, each of them once. So those of two lists of shapes together are
not simply put one behind the other. -/
def namespaceTexts (m : Model) : List TextInstance :=
  (namespacesOf m.walk).map .ofNamespace

/-- The texts of a model are those of its shapes, and behind them its namespaces. -/
theorem textIndex_eq (m : Model) : m.textIndex = declaredTexts m.shapes ++ m.namespaceTexts := by
  unfold textIndex walk declaredTexts
  rw [List.flatMap_assoc]
  rfl

/-- The texts of shapes together are those of the one part and then those of the other. -/
theorem declaredTexts_append (xs ys : List Shape) :
    declaredTexts (xs ++ ys) = declaredTexts xs ++ declaredTexts ys :=
  List.flatMap_append

/-- No text of a shape is a namespace. -/
theorem isNamespace_of_mem_declaredTexts {shapes : List Shape} {i : TextInstance}
    (h : i ∈ declaredTexts shapes) : i.isNamespace = false := by
  obtain ⟨s, -, h⟩ := List.mem_flatMap.mp h
  obtain ⟨s', -, h⟩ := List.mem_flatMap.mp h
  exact Shape.isNamespace_eq_false h

/-- A namespace is one. The place of a text is all that is asked for. -/
theorem isNamespace_of_mem_namespaceTexts {m : Model} {i : TextInstance}
    (h : i ∈ m.namespaceTexts) : i.isNamespace = true := by
  obtain ⟨ns, -, rfl⟩ := List.mem_map.mp h
  rfl

/-- The index begins with the texts that are no namespaces. -/
theorem filter_not_isNamespace (m : Model) :
    m.textIndex.filter (fun i => !i.isNamespace) = declaredTexts m.shapes := by
  have hall : ∀ i ∈ declaredTexts m.shapes, (!i.isNamespace) = true := by
    intro i hi
    rw [isNamespace_of_mem_declaredTexts hi]
    rfl
  have hnone : ∀ i ∈ m.namespaceTexts, ¬ (!i.isNamespace) = true := by
    intro i hi
    rw [isNamespace_of_mem_namespaceTexts hi]
    decide
  rw [textIndex_eq, List.filter_append, List.filter_eq_self.mpr hall, List.filter_eq_nil_iff.mpr hnone,
    List.append_nil]

/-- The index ends with the namespaces. -/
theorem filter_isNamespace (m : Model) : m.textIndex.filter (·.isNamespace) = m.namespaceTexts := by
  have hnone : ∀ i ∈ declaredTexts m.shapes, ¬ i.isNamespace = true := by
    intro i hi
    rw [isNamespace_of_mem_declaredTexts hi]
    decide
  rw [textIndex_eq, List.filter_append, List.filter_eq_nil_iff.mpr hnone, List.nil_append]
  exact List.filter_eq_self.mpr fun i hi => isNamespace_of_mem_namespaceTexts hi

variable {xs ys : List Shape} (data data₁ data₂ : List (Scalar × Value))

/-- The walk over two models together is the walk over the one and then the other. -/
theorem walk_append : (Model.mk (xs ++ ys) data).walk =
    (Model.mk xs data₁).walk ++ (Model.mk ys data₂).walk :=
  List.flatMap_append

/-- A path of both models is a path of one of them. -/
theorem pathsWritable_append_iff : (Model.mk (xs ++ ys) data).PathsWritable ↔
    (Model.mk xs data₁).PathsWritable ∧ (Model.mk ys data₂).PathsWritable := by
  unfold PathsWritable
  rw [walk_append data data₁ data₂, List.forall_mem_append]

/-- The namespaces of both models: those of the first one, and those of the second one that are new. -/
theorem namespaceTexts_append : (Model.mk (xs ++ ys) data).namespaceTexts =
    (Model.mk xs data₁).namespaceTexts ++ (Model.mk ys data₂).namespaceTexts.filter fun i =>
      decide (i.text ∉ (Model.mk xs data₁).walk.map (·.id.ns)) := by
  unfold namespaceTexts
  -- Both walks go one after the other, so a namespace is new if the first walk has not met it.
  rw [walk_append data data₁ data₂, namespacesOf_append, List.map_append,
    List.filter_map]
  rfl

end Model

namespace TermTable

variable {t : TermTable}

/-- What is reported about shapes and traits. -/
def declaredReports (rs : List (Finding × Diagnostic)) : List (Finding × Diagnostic) :=
  rs.filter fun r => !r.1.source.isNamespace

/-- What is reported about namespaces. -/
def namespaceReports (rs : List (Finding × Diagnostic)) : List (Finding × Diagnostic) :=
  rs.filter fun r => r.1.source.isNamespace

/-- What is reported about models is put together from what is reported about their shapes. The metadata
have no part in it, so they are left open in each law. -/
structure Composes (t : TermTable) : Prop where
  /-- A model has reports if its paths can be written. -/
  reported_iff (m : Model) : (∃ rs, t.Reported m rs) ↔ m.PathsWritable
  writable_iff (xs ys : List Shape) (data data₁ data₂ : List (Scalar × Value)) :
    (Model.mk (xs ++ ys) data).PathsWritable ↔
      (Model.mk xs data₁).PathsWritable ∧ (Model.mk ys data₂).PathsWritable
  /-- The namespaces come last. Those of the second model that the first one has are left out. -/
  append (xs ys : List Shape) (data data₁ data₂ : List (Scalar × Value))
    (rs₁ rs₂ : List (Finding × Diagnostic)) (h₁ : t.Reported ⟨xs, data₁⟩ rs₁)
    (h₂ : t.Reported ⟨ys, data₂⟩ rs₂) :
    t.Reported ⟨xs ++ ys, data⟩ (declaredReports rs₁ ++ declaredReports rs₂ ++ namespaceReports rs₁ ++
      (namespaceReports rs₂).filter fun r =>
        decide (r.1.source.text ∉ (Model.mk xs data₁).walk.map (·.id.ns)))
  /-- Each shape brings its own, wherever it is. -/
  own : ∃ own : Shape → List (Finding × Diagnostic), ∀ m rs, t.Reported m rs →
    declaredReports rs = m.shapes.flatMap own

/-- What is reported about shapes is what the texts of shapes give, as each text is checked by itself. -/
theorem declaredReports_reports (m : Model) :
    declaredReports (t.reports m.textIndex) = t.reports (Model.declaredTexts m.shapes) := by
  unfold declaredReports
  rw [filter_reports (fun i => !i.isNamespace), Model.filter_not_isNamespace]

/-- What is reported about namespaces is what the namespaces give. -/
theorem namespaceReports_reports (m : Model) :
    namespaceReports (t.reports m.textIndex) = t.reports m.namespaceTexts := by
  unfold namespaceReports
  rw [filter_reports (fun i => i.isNamespace), Model.filter_isNamespace]

/-- What is reported about both models together. -/
theorem reported_append {xs ys : List Shape} {data data₁ data₂ : List (Scalar × Value)}
    {rs₁ rs₂ : List (Finding × Diagnostic)} (h₁ : t.Reported ⟨xs, data₁⟩ rs₁)
    (h₂ : t.Reported ⟨ys, data₂⟩ rs₂) :
    t.Reported ⟨xs ++ ys, data⟩ (declaredReports rs₁ ++ declaredReports rs₂ ++ namespaceReports rs₁ ++
      (namespaceReports rs₂).filter fun r =>
        decide (r.1.source.text ∉ (Model.mk xs data₁).walk.map (·.id.ns))) := by
  obtain ⟨hwritable₁, rfl⟩ := reported_iff.mp h₁
  obtain ⟨hwritable₂, rfl⟩ := reported_iff.mp h₂
  have hboth := (Model.pathsWritable_append_iff data data₁ data₂).mpr ⟨hwritable₁, hwritable₂⟩
  refine reported_iff.mpr ⟨hboth, ?_⟩
  -- The reports are those about the parts of the index, so it is enough to put the index together.
  rw [declaredReports_reports, declaredReports_reports, namespaceReports_reports,
    namespaceReports_reports, Model.textIndex_eq, Model.declaredTexts_append,
    Model.namespaceTexts_append data data₁ data₂]
  rw [filter_reports fun i => decide (i.text ∉ (Model.mk xs data₁).walk.map (·.id.ns))]
  simp only [reports_append, List.append_assoc]

/-- Reports about models together are made of those about each of them, for any table of terms. Nothing is
asked of the table, as every text is looked at by itself. -/
theorem composes (t : TermTable) : t.Composes where
  reported_iff m := by
    simp only [TermTable.reported_iff, exists_and_left, exists_eq, and_true]
  writable_iff _ _ data data₁ data₂ := Model.pathsWritable_append_iff data data₁ data₂
  append _ _ _ _ _ _ _ h₁ h₂ := reported_append h₁ h₂
  own := by
    -- The reports about the shape, its members and their traits depend on the shape alone.
    refine ⟨fun s => t.reports ((s :: s.members).flatMap Shape.textInstances), fun m rs h => ?_⟩
    obtain ⟨-, rfl⟩ := TermTable.reported_iff.mp h
    rw [declaredReports_reports]
    exact List.flatMap_assoc

end TermTable

namespace Validator

/-- The validator of a configuration reports about models, as far as their paths can be written, what is put
together from their shapes. So a shape can be moved from one model to another with what is reported about
it, and only the namespaces have to be looked at again, since each of them is reported once. -/
theorem composes_of_config {c : TermsConfig} {v : Validator} (h : Validator.ofConfig c = .ok v) :
    ∃ t, c.table TermMap.builtIn = .ok t ∧ v = .ofTable t ∧ t.Composes := by
  obtain ⟨t, ht, rfl⟩ := ofConfig_eq_ok_iff.mp h
  exact ⟨t, ht, rfl, t.composes⟩

/-- Without a configuration the validator looks for the built-in terms. -/
theorem composes_of_config_empty :
    ∃ v, Validator.ofConfig .empty = .ok v ∧
      ∃ t, TermsConfig.empty.table TermMap.builtIn = .ok t ∧ v = .ofTable t ∧ t.Composes :=
  ⟨_, rfl, composes_of_config rfl⟩

/-- A model has a finding in its only shape, and nothing is reported any more when another shape is added
whose path cannot be written. -/
theorem check_joined_overlong :
    ∃ v t, Validator.ofConfig .empty = .ok v ∧ v = .ofTable t ∧
      (∃ r, t.Reported TermTable.masterModel [r] ∧ r.1.source.isNamespace = false) ∧
      v.check ⟨TermTable.masterModel.shapes ++ overlongKeyModel.shapes, []⟩ =
        .error .overlongInteger := by
  have hone : (TermTable.reports ⟨TermMap.builtIn⟩ TermTable.masterModel.textIndex).map
      (fun r => r.1.source.isNamespace) = [false] := by
    decide +kernel
  have hpath : (Model.mk (TermTable.masterModel.shapes ++ overlongKeyModel.shapes)
      []).hasUnwritablePath = true := by
    decide +kernel
  obtain ⟨r, hr, hnamespace⟩ := List.map_eq_singleton_iff.mp hone
  refine ⟨.ofTable ⟨TermMap.builtIn⟩, ⟨TermMap.builtIn⟩, rfl, rfl, ⟨r, ?_, hnamespace⟩, ?_⟩
  · rw [← hr]
    exact TermTable.reported_iff.mpr ⟨TermTable.pathsWritable_masterModel, rfl⟩
  · rw [ofTable_check]
    exact TermTable.checkWritable_of_unwritable hpath

end Validator

end TermAudit
