import TermAudit.Proofs.Validation

/-!
# `TermAudit.Proofs.Validation.Findings`: findings with the warnings about them

A diagnostic does not say which text and which term it is about. `TermTable.Reported` keeps each
diagnostic together with its finding, so that what is reported about two models, or with two tables,
can be compared.

* `TermTable.reports`: the findings in texts with the warnings about them, one list for each text and
  one element of it for each term that is there;
* `TermTable.reported_iff`: this is what is reported about a model, if every path in it can be written.
-/

set_option autoImplicit false

namespace TermAudit

namespace TermTable

/-- Findings with the warnings about them: those in the index of the model, in their order. The check of
the model gives the warnings and nothing else. Keeping the two together is what makes a list of
diagnostics comparable with another one. -/
structure Reported (t : TermTable) (m : Model) (rs : List (Finding × Diagnostic)) : Prop where
  findings : rs.map Prod.fst = m.textIndex.flatMap t.findings
  warnings : ∀ r ∈ rs, warning r.1 = .ok r.2
  check : t.checkWritable m = .ok (rs.map Prod.snd)

/-- A term in a text, with the warning about it. It is nothing if the term is not found, or if there are
no words for the finding, which does not happen for the texts of an index. -/
def report (t : TermTable) (i : TextInstance) (term : Text) : Option (Finding × Diagnostic) :=
  (findTerm i.text term).bind fun slice =>
    let f : Finding := ⟨term, (t.terms.get? term).getD [], slice, i⟩
    (warning f).toOption.map fun d => (f, d)

/-- The findings in texts, with the warnings about them: text by text, and for each text term by term. -/
def reports (t : TermTable) (instances : List TextInstance) : List (Finding × Diagnostic) :=
  instances.flatMap fun i => t.terms.keys.filterMap (t.report i)

variable {t : TermTable} {i : TextInstance} {term : Text} {r : Finding × Diagnostic}

/-- A warning has the message about the finding, and all else of it depends on the text alone. -/
theorem eq_of_warning {f : Finding} {d : Diagnostic} (h : warning f = .ok d) :
    d.id = Diagnostic.termsId ∧ d.severity = .warning ∧ f.message = .ok d.message ∧
      f.source.origin = .ok (d.location, d.shape) := by
  unfold warning at h
  obtain ⟨message, hmessage, h⟩ := bind_eq_ok_iff.mp h
  obtain ⟨⟨location, shape⟩, horigin, h⟩ := bind_eq_ok_iff.mp h
  cases h
  exact ⟨rfl, rfl, hmessage, horigin⟩

/-- What is reported about a term in a text is a finding of this term in this text. -/
theorem eq_of_report (h : t.report i term = some r) :
    r.1.source = i ∧ r.1.term = term ∧ warning r.1 = .ok r.2 := by
  unfold report at h
  rw [Option.bind_eq_some_iff] at h
  obtain ⟨slice, -, h⟩ := h
  rw [Option.map_eq_some_iff] at h
  obtain ⟨d, hd, rfl⟩ := h
  refine ⟨rfl, rfl, ?_⟩
  cases hwarning : warning ⟨term, (t.terms.get? term).getD [], slice, i⟩ with
  | error e =>
    rw [hwarning] at hd
    cases hd
  | ok d' =>
    rw [hwarning] at hd
    cases hd
    rfl

/-- In a text that belongs somewhere, each term that is found is reported. -/
theorem report_of_belongsTo {location : Location} {shape : Option ShapeId}
    (hplace : i.BelongsTo location shape) {slice : Text} (hfound : findTerm i.text term = some slice) :
    ∃ d, t.report i term = some (⟨term, (t.terms.get? term).getD [], slice, i⟩, d) := by
  obtain ⟨d, hd, -⟩ := warning_reports (t := t) hplace (findTerm_eq_some_iff.mp hfound).2
  refine ⟨d, ?_⟩
  simp [report, hfound, hd, Except.toOption]

/-- A term that is not found is not reported. -/
theorem report_eq_none (hfound : findTerm i.text term = none) : t.report i term = none := by
  simp [report, hfound]

/-- Every report is that of some term in some text. -/
theorem mem_reports {instances : List TextInstance} (h : r ∈ t.reports instances) :
    ∃ i ∈ instances, ∃ term ∈ t.terms.keys, t.report i term = some r := by
  obtain ⟨i, hi, h⟩ := List.mem_flatMap.mp h
  obtain ⟨term, hterm, h⟩ := List.mem_filterMap.mp h
  exact ⟨i, hi, term, hterm, h⟩

/-- A report is a finding with its warning. -/
theorem warning_of_mem_reports {instances : List TextInstance} (h : r ∈ t.reports instances) :
    warning r.1 = .ok r.2 := by
  obtain ⟨i, -, term, -, h⟩ := mem_reports h
  exact (eq_of_report h).2.2

/-- Texts are reported one after the other. -/
@[simp] theorem reports_append (first second : List TextInstance) :
    t.reports (first ++ second) = t.reports first ++ t.reports second :=
  List.flatMap_append

/-- Reports are chosen by choosing their texts. -/
theorem filter_reports (p : TextInstance → Bool) (instances : List TextInstance) :
    (t.reports instances).filter (fun r => p r.1.source) = t.reports (instances.filter p) := by
  induction instances with
  | nil => rfl
  | cons i instances ih =>
    have hsource : ∀ r ∈ t.terms.keys.filterMap (t.report i), p r.1.source = p i := by
      intro r hr
      obtain ⟨term, -, h⟩ := List.mem_filterMap.mp hr
      rw [(eq_of_report h).1]
    -- All that is reported about the first text is chosen, or nothing of it is.
    show (t.terms.keys.filterMap (t.report i) ++ t.reports instances).filter _ = _
    rw [List.filter_append, ih, List.filter_congr hsource]
    cases hi : p i with
    | true =>
      rw [List.filter_cons_of_pos hi, List.filter_true]
      rfl
    | false =>
      rw [List.filter_cons_of_neg (Bool.not_eq_true _ ▸ hi), List.filter_false]
      rfl

/-- Every finding in texts that belong somewhere is reported. -/
theorem findings_reports {instances : List TextInstance}
    (hplaces : ∀ i ∈ instances, ∃ location shape, TextInstance.BelongsTo i location shape) :
    (t.reports instances).map Prod.fst = instances.flatMap t.findings := by
  unfold reports
  rw [List.map_flatMap]
  refine List.flatMap_congr fun i hi => ?_
  obtain ⟨location, shape, hplace⟩ := hplaces i hi
  rw [findings_eq, List.map_filterMap]
  -- Term by term: one that is not there has neither a finding nor a report.
  refine List.filterMap_congr fun term _ => ?_
  cases hfound : findTerm i.text term with
  | none =>
    rw [report_eq_none hfound]
    rfl
  | some slice =>
    obtain ⟨d, hd⟩ := report_of_belongsTo (t := t) hplace hfound
    rw [hd]
    rfl

/-- Findings whose warnings are known are all warned about. -/
theorem mapM_warning {rs : List (Finding × Diagnostic)} (h : ∀ r ∈ rs, warning r.1 = .ok r.2) :
    (rs.map Prod.fst).mapM warning = .ok (rs.map Prod.snd) := by
  induction rs with
  | nil => rfl
  | cons r rs ih =>
    rw [List.forall_mem_cons] at h
    rw [List.map_cons, List.mapM_cons, h.1, ih h.2]
    rfl

/-- A list of findings has the warnings of each finding once. -/
theorem eq_of_findings {rs rs' : List (Finding × Diagnostic)}
    (hfindings : rs.map Prod.fst = rs'.map Prod.fst) (h : ∀ r ∈ rs, warning r.1 = .ok r.2)
    (h' : ∀ r ∈ rs', warning r.1 = .ok r.2) : rs = rs' := by
  have hwarnings : rs.map Prod.snd = rs'.map Prod.snd := by
    have hboth : Except.ok (rs.map Prod.snd) = Except.ok (ε := InstanceError) (rs'.map Prod.snd) := by
      rw [← mapM_warning h, ← mapM_warning h', hfindings]
    exact Except.ok.inj hboth
  exact (List.zip_of_prod hfindings hwarnings).trans (List.zip_of_prod rfl rfl).symm

/-- What is reported about a model whose paths can be written. Nothing is about any other one. So reports
are a function of the model, and can be computed with. -/
theorem reported_iff {m : Model} {rs : List (Finding × Diagnostic)} :
    t.Reported m rs ↔ m.PathsWritable ∧ rs = t.reports m.textIndex := by
  have hfindings : (t.reports m.textIndex).map Prod.fst = m.textIndex.flatMap t.findings :=
    findings_reports fun _ hi => Model.exists_belongsTo hi
  constructor
  · intro h
    have hwritable := (checkWritable_eq_ok_iff.mp h.check).1
    exact ⟨hwritable, eq_of_findings (h.findings.trans hfindings.symm) h.warnings fun _ hr =>
      warning_of_mem_reports hr⟩
  · rintro ⟨hwritable, rfl⟩
    refine ⟨hfindings, fun _ hr => warning_of_mem_reports hr, ?_⟩
    refine checkWritable_eq_ok_iff.mpr ⟨hwritable, ?_⟩
    -- The check warns about the findings, and these are the findings that are reported.
    unfold check checkInstances
    rw [← hfindings]
    exact mapM_warning fun _ hr => warning_of_mem_reports hr

/-- A model with one shape, whose name is a term. -/
def masterModel : Model :=
  ⟨[⟨⟨"a", "Master", none⟩, .string, [], [], .nowhere, none⟩], []⟩

/-- The model has no keys in its traits, so all its paths can be written. -/
theorem pathsWritable_masterModel : masterModel.PathsWritable :=
  Model.hasUnwritablePath_eq_false_iff.mp (by decide)

end TermTable

end TermAudit
