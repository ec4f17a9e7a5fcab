import Mathlib.Data.List.Forall2
import TermAudit.Proofs.Index
import TermAudit.Proofs.Result
import TermAudit.Proofs.Terms.Occurrence
import TermAudit.Proofs.Terms.Table
import TermAudit.Validator

/-!
# `TermAudit.Proofs.Validation`: what a validator reports about a model

A validator that looks for terms owes a model one warning for every pair of a text in its index and
a term of the table that occurs in the text. `TermTable.occurrences` lists these pairs, in the order
of the index first and of the table second, and `TermTable.Reports` says what the warning about one
of them is.

* `TermTable.checkInstances_reports`: texts that belong somewhere get the warnings they are owed,
  one by one;
* `TermTable.check_reports`: so do the texts of a model;
* `Validator.check_reports_iff`: a validator gives these warnings exactly if every path in the model
  can be written, and never complains about a text of its own index.
-/

set_option autoImplicit false

namespace TermAudit

namespace TermTable

/-- The pairs of a text and a term that occurs in it. Texts come in the order of the index, and for each
text the terms in the order of the table. A term that occurs more than once in a text makes one pair. -/
def occurrences (t : TermTable) (instances : List TextInstance) : List (TextInstance × Text) :=
  instances.flatMap fun i =>
    (t.terms.keys.filter fun term => Text.Occurs term i.text).map fun term => (i, term)

/-- The diagnostic is the warning about a pair of a text and a term: it stands where the text belongs, and
it quotes the leftmost slice of the text that equals the term up to case. Everything in the diagnostic is
fixed by this. -/
structure Reports (t : TermTable) (occurrence : TextInstance × Text) (d : Diagnostic) : Prop where
  id : d.id = Diagnostic.termsId
  severity : d.severity = .warning
  place : occurrence.1.BelongsTo d.location d.shape
  message : ∃ slice opening, Text.FirstOccurrence occurrence.2 occurrence.1.text slice ∧
    Finding.opening ⟨occurrence.2, (t.terms.get? occurrence.2).getD [], slice, occurrence.1⟩ =
      .ok opening ∧
    d.message = opening ++ (" a non-inclusive term " : Text) ++ Suggestions.marked slice
      ++ ("." : Text) ++ Suggestions.sentence ((t.terms.get? occurrence.2).getD []) slice

/-- A text that belongs somewhere has all that a message about it needs. -/
theorem exists_opening {f : Finding} {location : Location} {shape : Option ShapeId}
    (h : f.source.BelongsTo location shape) : ∃ opening, f.opening = .ok opening := by
  obtain ⟨term, suggestions, matched, i⟩ := f
  cases h with
  | ofNamespace ns => exact ⟨_, rfl⟩
  | ofShape s => exact ⟨_, rfl⟩
  | ofTrait s t path text =>
    by_cases hpath : path.isEmpty = true
    · simp only [Finding.opening, if_pos hpath]
      exact ⟨_, rfl⟩
    · simp only [Finding.opening, if_neg hpath]
      exact ⟨_, rfl⟩

/-- A text that belongs somewhere is reported there. -/
theorem origin_of_belongsTo {i : TextInstance} {location : Location} {shape : Option ShapeId}
    (h : i.BelongsTo location shape) : i.origin = .ok (location, shape) := by
  cases h <;> rfl

/-- The warning about a term in a text that belongs somewhere. -/
theorem warning_reports {t : TermTable} {i : TextInstance} {term slice : Text}
    {location : Location} {shape : Option ShapeId} (hplace : i.BelongsTo location shape)
    (hfirst : Text.FirstOccurrence term i.text slice) :
    ∃ d, warning ⟨term, (t.terms.get? term).getD [], slice, i⟩ = .ok d ∧
      t.Reports (i, term) d := by
  obtain ⟨opening, hopening⟩ :=
    exists_opening (f := ⟨term, (t.terms.get? term).getD [], slice, i⟩) hplace
  have horigin := origin_of_belongsTo hplace
  have hmessage : Finding.message ⟨term, (t.terms.get? term).getD [], slice, i⟩ = .ok
      (opening ++ (" a non-inclusive term " : Text) ++ Suggestions.marked slice ++ ("." : Text)
        ++ Suggestions.sentence ((t.terms.get? term).getD []) slice) := by
    unfold Finding.message
    rw [hopening]
    simp only [bind, Except.bind, pure, Except.pure]
  refine ⟨⟨Diagnostic.termsId, .warning, _, location, shape⟩, ?_,
    ⟨rfl, rfl, hplace, slice, opening, hfirst, hopening, rfl⟩⟩
  unfold warning
  rw [hmessage]
  simp only [bind, Except.bind, pure, Except.pure, horigin]

/-- The findings of a text, term by term. -/
theorem findings_eq (t : TermTable) (i : TextInstance) :
    t.findings i = t.terms.keys.filterMap fun term => (findTerm i.text term).map fun slice =>
      (⟨term, (t.terms.get? term).getD [], slice, i⟩ : Finding) := by
  unfold findings TermMap.scan
  rw [List.map_filterMap]
  simp only [Option.map_map, Function.comp_def]

/-- The search through some terms for one text. Induction on the terms: each one that occurs gives
a warning, and each one that does not gives nothing. -/
theorem warnings_reports {t : TermTable} {i : TextInstance} {location : Location}
    {shape : Option ShapeId} (hplace : i.BelongsTo location shape) {terms : List Text}
    (hnil : [] ∉ terms) :
    ∃ ds, (terms.filterMap fun term => (findTerm i.text term).map fun slice =>
        (⟨term, (t.terms.get? term).getD [], slice, i⟩ : Finding)).mapM warning = .ok ds ∧
      List.Forall₂ t.Reports
        ((terms.filter fun term => Text.Occurs term i.text).map fun term => (i, term)) ds := by
  induction terms with
  | nil => exact ⟨[], rfl, .nil⟩
  | cons term terms ih =>
    rw [List.mem_cons, not_or] at hnil
    obtain ⟨ds, hds, hreports⟩ := ih hnil.2
    have hterm : term ≠ [] := fun h => hnil.1 h.symm
    cases hfound : findTerm i.text term with
    | none =>
      have hnot : ¬ Text.Occurs term i.text :=
        fun hoccurs => findTerm_eq_none_iff.mp hfound ⟨hterm, hoccurs⟩
      rw [List.filterMap_cons_none (by rw [hfound, Option.map_none]),
        List.filter_cons_of_neg (by simpa using hnot)]
      exact ⟨ds, hds, hreports⟩
    | some slice =>
      have hfirst := (findTerm_eq_some_iff.mp hfound).2
      obtain ⟨d, hd, hreport⟩ := warning_reports (t := t) hplace hfirst
      rw [List.filterMap_cons_some (by rw [hfound, Option.map_some]),
        List.filter_cons_of_pos (by simpa using hfirst.occurs)]
      refine ⟨d :: ds, ?_, .cons hreport hreports⟩
      rw [List.mapM_cons, hd, hds]
      rfl

/-- Texts that belong somewhere get the warnings they are owed. Induction on the texts, where no term in
one of them can stop the check. -/
theorem checkInstances_reports {t : TermTable} (hnil : [] ∉ t.terms.keys)
    {instances : List TextInstance}
    (hplaces : ∀ i ∈ instances, ∃ location shape, TextInstance.BelongsTo i location shape) :
    ∃ ds, t.checkInstances instances = .ok ds ∧
      List.Forall₂ t.Reports (t.occurrences instances) ds := by
  unfold checkInstances occurrences
  induction instances with
  | nil => exact ⟨[], rfl, .nil⟩
  | cons i instances ih =>
    obtain ⟨location, shape, hplace⟩ := hplaces i (List.mem_cons_self ..)
    obtain ⟨ds, hds, hreports⟩ := warnings_reports (t := t) hplace hnil
    obtain ⟨rest, hrest, hrestReports⟩ := ih fun j hj => hplaces j (List.mem_cons_of_mem _ hj)
    refine ⟨ds ++ rest, ?_, ?_⟩
    · rw [List.flatMap_cons, List.mapM_append, findings_eq, hds, hrest]
      rfl
    · rw [List.flatMap_cons]
      exact List.rel_append hreports hrestReports

/-- The texts of a model get the warnings they are owed. Whether the paths can be written is not asked
here: it decides whether there is an index at all. -/
theorem check_reports {t : TermTable} (hnil : [] ∉ t.terms.keys) (m : Model) :
    ∃ ds, t.check m = .ok ds ∧ List.Forall₂ t.Reports (t.occurrences m.textIndex) ds :=
  checkInstances_reports hnil fun _ hi => Model.exists_belongsTo hi

/-- A path that cannot be written stops the check. -/
theorem checkWritable_of_unwritable {t : TermTable} {m : Model} (h : m.hasUnwritablePath = true) :
    t.checkWritable m = .error .overlongInteger :=
  if_pos h

/-- Nothing else does. -/
theorem checkWritable_of_writable {t : TermTable} {m : Model} {ds : List Diagnostic}
    (h : m.hasUnwritablePath = false) (hds : t.check m = .ok ds) : t.checkWritable m = .ok ds := by
  unfold checkWritable
  rw [h, hds]
  rfl

/-- Where every text can be reported, the only other error is an integer too long to be written. -/
theorem checkWritable_ne_unreportable {t : TermTable} {m : Model} {ds : List Diagnostic}
    {e : InstanceError} (hds : t.check m = .ok ds) : t.checkWritable m ≠ .error (.unreportable e) := by
  cases hpath : m.hasUnwritablePath with
  | true =>
    rw [checkWritable_of_unwritable hpath]
    exact fun h => nomatch h
  | false =>
    rw [checkWritable_of_writable hpath hds]
    exact fun h => nomatch h

/-- There are results if every path can be written, and they are those of the check. -/
theorem checkWritable_eq_ok_iff {t : TermTable} {m : Model} {ds : List Diagnostic} :
    t.checkWritable m = .ok ds ↔ m.PathsWritable ∧ t.check m = .ok ds := by
  rw [← Model.hasUnwritablePath_eq_false_iff]
  cases hpath : m.hasUnwritablePath with
  | true =>
    rw [checkWritable_of_unwritable hpath]
    exact iff_of_false (fun h => nomatch h) fun h => nomatch h.1
  | false =>
    unfold checkWritable
    rw [hpath, if_neg Bool.false_ne_true, mapError_eq_ok_iff]
    exact (and_iff_right rfl).symm

/-- A model is checked by its index. -/
theorem checkWritable_eq (t : TermTable) (m : Model) :
    t.checkWritable m = match m.index? with
      | none => .error .overlongInteger
      | some index => (t.checkInstances index).mapError .unreportable := by
  unfold checkWritable Model.index?
  split <;> rfl

end TermTable

namespace Validator

/-- The validator of a table checks with the table. -/
@[simp] theorem ofTable_check (t : TermTable) : (ofTable t).check = t.checkWritable := rfl

/-- A configuration gives the validator of its table. -/
theorem ofConfig_eq_ok_iff {c : TermsConfig} {v : Validator} :
    Validator.ofConfig c = .ok v ↔ ∃ t, c.table TermMap.builtIn = .ok t ∧ v = .ofTable t := by
  unfold ofConfig
  cases c.table TermMap.builtIn with
  | error e => exact iff_of_false (fun h => nomatch h) fun ⟨_, h, _⟩ => nomatch h
  | ok t =>
    constructor
    · intro h
      exact ⟨t, rfl, (Except.ok.inj h).symm⟩
    · rintro ⟨t', ht', rfl⟩
      cases ht'
      rfl

/-- Whatever the validator of a configuration reports, it owes the model. -/
theorem reports_of_check {c : TermsConfig} {v : Validator} {m : Model} {ds : List Diagnostic}
    (h : Validator.ofConfig c = .ok v) (hds : v.check m = .ok ds) :
    ∃ t : TermTable, List.Forall₂ t.Reports (t.occurrences m.textIndex) ds := by
  obtain ⟨t, htable, rfl⟩ := ofConfig_eq_ok_iff.mp h
  obtain ⟨ds', hds', hreports⟩ :=
    TermTable.check_reports (TermTable.nil_notMem_keys_of_resolve htable) m
  have hcheck := (TermTable.checkWritable_eq_ok_iff.mp hds).2
  rw [hds'] at hcheck
  cases hcheck
  exact ⟨t, hreports⟩

/-- The validator of a configuration never meets a text that it cannot report. It gives one warning for
every pair of a text and a term that occurs in it, in order, and nothing else, exactly if every path in the
model can be written. A path that cannot be written has the key of a mapping in it, an integer that is too
long. The index stops there, and no text is looked at, not even in other traits. -/
theorem check_reports_iff {c : TermsConfig} {v : Validator} (h : Validator.ofConfig c = .ok v) :
    ∃ t, c.table TermMap.builtIn = .ok t ∧ ∀ m : Model,
      (∀ e, v.check m ≠ .error (.unreportable e)) ∧
      ((∃ ds, v.check m = .ok ds ∧ List.Forall₂ t.Reports (t.occurrences m.textIndex) ds) ↔
        m.PathsWritable) := by
  obtain ⟨t, htable, rfl⟩ := ofConfig_eq_ok_iff.mp h
  refine ⟨t, htable, fun m => ?_⟩
  obtain ⟨ds, hds, hreports⟩ :=
    TermTable.check_reports (TermTable.nil_notMem_keys_of_resolve htable) m
  refine ⟨fun e => TermTable.checkWritable_ne_unreportable hds, ?_⟩
  constructor
  · rintro ⟨ds', hds', -⟩
    exact (TermTable.checkWritable_eq_ok_iff.mp hds').1
  · intro hpaths
    exact ⟨ds, TermTable.checkWritable_eq_ok_iff.mpr ⟨hpaths, hds⟩, hreports⟩

/-- The built-in terms make a table, so there is a validator that looks for them. -/
theorem check_reports_iff_builtIn :
    ∃ v, Validator.ofConfig .empty = .ok v ∧ ∃ t, TermsConfig.empty.table TermMap.builtIn = .ok t ∧
      ∀ m : Model, (∀ e, v.check m ≠ .error (.unreportable e)) ∧
        ((∃ ds, v.check m = .ok ds ∧ List.Forall₂ t.Reports (t.occurrences m.textIndex) ds) ↔
          m.PathsWritable) :=
  ⟨_, rfl, check_reports_iff rfl⟩

/-- A model with one shape and one trait, whose value has one key: an integer of 4335 digits. Texts with
such a key can be loaded, as the integer can be given in hexadecimal digits. -/
def overlongKeyModel : Model :=
  let id : ShapeId := ⟨"a", "B", none⟩
  let value : Value := .mapping [(.int (Nat.pow 16 3600 - 1), .scalar (.text "x"))]
  ⟨[⟨id, .string, [⟨⟨"c", "d", none⟩, value, .nowhere⟩], [], .nowhere, none⟩], []⟩

/-- No term occurs in the model, so no warning is owed, and still it cannot be checked: a trait has an
integer for a key that is too long to be written in a path. -/
theorem check_overlongKeyModel :
    ∃ v t, Validator.ofConfig .empty = .ok v ∧ TermsConfig.empty.table TermMap.builtIn = .ok t ∧
      t.occurrences overlongKeyModel.textIndex = [] ∧
      v.check overlongKeyModel = .error .overlongInteger := by
  have hpath : overlongKeyModel.hasUnwritablePath = true := by decide +kernel
  refine ⟨.ofTable ⟨TermMap.builtIn⟩, ⟨TermMap.builtIn⟩, rfl, rfl, by decide +kernel, ?_⟩
  rw [ofTable_check]
  exact TermTable.checkWritable_of_unwritable hpath

end Validator

end TermAudit
