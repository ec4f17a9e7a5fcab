import TermAudit.Proofs.Terms.Resolution
import TermAudit.Proofs.Validation.Findings

/-!
# `TermAudit.Proofs.Validation.Appended`: appended terms hide no findings

A table of built-in terms finds what it finds, whatever terms are appended to it. Each term is looked
for by itself, and an appended term that is a built-in one already stays in its place. Only the
suggestions are others then, and with them the words of the warning.

* `TermTable.keys_append`: the built-in terms keep their places in the table;
* `TermTable.report_kept`: what is reported about a term in a text with the one table and the other;
* `TermTable.reported_append_kept`: what is reported about a model;
* `TermTable.message_append_of_other_case`: an appended term counts in lowercase here, however it is
  written.
-/

set_option autoImplicit false

namespace TermAudit

/-- Where a term was found, which one it is, and how it is written there. It is a finding without its
suggestions, which depend on the table. -/
def Finding.occurrence (f : Finding) : TextInstance × Text × Text :=
  (f.source, f.term, f.matched)

/-- The terms of a map in lowercase, as a table made of the map has them. -/
def TermMap.forms (m : TermMap) : List Text :=
  m.keys.map Text.lower

namespace TermTable

open TermMap

/-- What is reported with built-in terms alone, and what is reported with others appended to them. The two
are about the same occurrence, and all of the diagnostic but its words is the same. -/
structure Kept (append : TermMap) (r₀ r : Finding × Diagnostic) : Prop where
  occurrence : r.1.occurrence = r₀.1.occurrence
  id : r.2.id = r₀.2.id
  severity : r.2.severity = r₀.2.severity
  shape : r.2.shape = r₀.2.shape
  location : r.2.location = r₀.2.location
  /-- Only the words can change, and only for a term that is appended, too. -/
  message : r₀.1.term ∉ append.forms → r.2.message = r₀.2.message

variable {builtIn append : TermMap} {t t₀ : TermTable} {i : TextInstance} {term : Text}

/-! ## The table -/

/-- The terms of a table are the built-in ones and those that are appended, in lowercase. -/
theorem keys_of_resolve (h : resolve builtIn append ∅ = .ok t) :
    t.terms.keys = (builtIn.forms ++ append.forms).eraseDups := by
  obtain ⟨-, -, rfl⟩ := resolve_eq_ok_iff.mp h
  show (lowered (builtIn.entries ++ append.entries)).keys = _
  rw [keys_lowered, List.map_append]
  simp only [forms, OrderedMap.keys, List.map_map, Function.comp_def]

/-- Without the appended terms there is a table as well. -/
theorem exists_resolve_builtIn (h : resolve builtIn append ∅ = .ok t) :
    ∃ t₀, resolve builtIn ∅ ∅ = .ok t₀ := by
  have hnil : [] ∉ (builtIn.forms ++ append.forms).eraseDups :=
    keys_of_resolve h ▸ nil_notMem_keys_of_resolve h
  rw [exists_ok_iff]
  rintro (⟨hnonempty, -⟩ | hempty)
  · cases hnonempty
  · -- An empty built-in term would be empty in the table, too.
    rw [keys_usedEntries, if_pos (show (∅ : TermMap).isEmpty = true from rfl)] at hempty
    rcases List.mem_append.mp hempty with hmem | hmem
    · refine hnil (List.mem_eraseDups.mpr (List.mem_append_left _ ?_))
      exact List.mem_map.mpr ⟨[], hmem, rfl⟩
    · cases hmem

/-- The built-in terms keep their places. An appended term that is a built-in one stays where the built-in
one was, and all others come behind. -/
theorem keys_append (h₀ : resolve builtIn ∅ ∅ = .ok t₀) (h : resolve builtIn append ∅ = .ok t) :
    t.terms.keys.filter (fun term => decide (term ∈ builtIn.forms)) = t₀.terms.keys := by
  have hall : builtIn.forms.filter (fun term => decide (term ∈ builtIn.forms)) = builtIn.forms :=
    List.filter_eq_self.mpr fun term hterm => by simpa using hterm
  have hnew : ∀ term ∈ (append.forms.removeAll builtIn.forms).eraseDups,
      ¬ decide (term ∈ builtIn.forms) = true := by
    intro term hterm
    rw [List.mem_eraseDups] at hterm
    simpa [List.removeAll] using (List.mem_filter.mp hterm).2
  -- The new terms come behind all built-in ones, and none of them is chosen.
  rw [keys_of_resolve h, keys_of_resolve h₀, List.eraseDups_append, List.filter_append,
    filter_eraseDups, hall, List.filter_eq_nil_iff.mpr hnew]
  rw [show (∅ : TermMap).forms = [] from rfl, List.append_nil, List.append_nil]

/-- A term that is not appended keeps its suggestions. -/
theorem get?_append (h₀ : resolve builtIn ∅ ∅ = .ok t₀) (h : resolve builtIn append ∅ = .ok t)
    (hterm : term ∉ append.forms) : t.terms.get? term = t₀.terms.get? term := by
  have hnone : lastSuggestions term append.entries = none := by
    have hfilter : (append.entries.filter fun e => e.1.lower == term) = [] := by
      refine List.filter_eq_nil_iff.mpr fun e he heq => hterm ?_
      rw [beq_iff_eq] at heq
      exact List.mem_map.mpr ⟨e.1, List.mem_map_of_mem he, heq⟩
    simp [lastSuggestions, hfilter]
  obtain ⟨-, -, rfl⟩ := resolve_eq_ok_iff.mp h
  obtain ⟨-, -, rfl⟩ := resolve_eq_ok_iff.mp h₀
  show (lowered (builtIn.entries ++ append.entries)).get? term =
    (lowered (builtIn.entries ++ [])).get? term
  -- The last suggestions count, and those for the term are not among the appended ones.
  rw [get?_lowered, get?_lowered, List.append_nil, lastSuggestions_append, hnone, Option.none_or]

/-! ## Findings -/

/-- Findings are chosen by choosing their terms. -/
theorem filter_findings (p : Text → Bool) (t : TermTable) (i : TextInstance) :
    ((t.findings i).filter fun f => p f.term).map Finding.occurrence =
      (t.terms.keys.filter p).filterMap fun term => (findTerm i.text term).map fun slice =>
        (i, term, slice) := by
  rw [findings_eq]
  induction t.terms.keys with
  | nil => rfl
  | cons term terms ih =>
    cases hp : p term <;> cases hfound : findTerm i.text term <;>
      simp [hp, hfound, ih, Finding.occurrence]

/-- The findings of built-in terms are as many and at the same places with appended terms as without. What
is appended can change suggestions, but not what is found. -/
theorem findings_kept (h₀ : resolve builtIn ∅ ∅ = .ok t₀) (h : resolve builtIn append ∅ = .ok t)
    (instances : List TextInstance) :
    (instances.flatMap t₀.findings).map Finding.occurrence =
      ((instances.flatMap t.findings).filter fun f => decide (f.term ∈ builtIn.forms)).map
        Finding.occurrence := by
  rw [List.filter_flatMap, List.map_flatMap, List.map_flatMap]
  refine List.flatMap_congr fun i _ => ?_
  have hall : (t₀.findings i).map Finding.occurrence =
      ((t₀.findings i).filter fun _ => true).map Finding.occurrence := by rw [List.filter_true]
  rw [hall, filter_findings (fun _ => true), filter_findings fun term => decide (term ∈ builtIn.forms),
    keys_append h₀ h, List.filter_true]

/-! ## Reports -/

/-- What is reported about a term in a text that belongs somewhere. Each term is looked for by itself, so
the other terms of the table do not matter. -/
theorem report_kept (h₀ : resolve builtIn ∅ ∅ = .ok t₀) (h : resolve builtIn append ∅ = .ok t)
    {location : Location} {shape : Option ShapeId} (hplace : i.BelongsTo location shape) :
    Option.Rel (Kept append) (t₀.report i term) (t.report i term) := by
  cases hfound : findTerm i.text term with
  | none =>
    rw [report_eq_none hfound, report_eq_none hfound]
    exact .none
  | some slice =>
    obtain ⟨d₀, hd₀⟩ := report_of_belongsTo (t := t₀) hplace hfound
    obtain ⟨d, hd⟩ := report_of_belongsTo (t := t) hplace hfound
    have hwarning₀ := (eq_of_report hd₀).2.2
    have hwarning := (eq_of_report hd).2.2
    obtain ⟨hid₀, hseverity₀, -, horigin₀⟩ := eq_of_warning hwarning₀
    obtain ⟨hid, hseverity, -, horigin⟩ := eq_of_warning hwarning
    -- Where the warnings stand depends on the text, and the text is the same.
    have hsame : (d₀.location, d₀.shape) = (d.location, d.shape) :=
      Except.ok.inj (horigin₀.symm.trans horigin)
    rw [Prod.mk.injEq] at hsame
    rw [hd₀, hd]
    refine .some ⟨rfl, hid.trans hid₀.symm, hseverity.trans hseverity₀.symm, hsame.2.symm, hsame.1.symm,
      fun hterm => ?_⟩
    -- The same suggestions make the same warning.
    rw [get?_append h₀ h hterm] at hwarning
    rw [Except.ok.inj (hwarning.symm.trans hwarning₀)]

/-- Reports are chosen by choosing their terms. -/
theorem filter_reports_term (p : Text → Bool) (t : TermTable) (instances : List TextInstance) :
    (t.reports instances).filter (fun r => p r.1.term) =
      instances.flatMap fun i => (t.terms.keys.filter p).filterMap (t.report i) := by
  unfold reports
  rw [List.filter_flatMap]
  refine List.flatMap_congr fun i _ => ?_
  induction t.terms.keys with
  | nil => rfl
  | cons term terms ih =>
    cases hr : t.report i term with
    | none => cases hp : p term <;> simp [hr, hp, ih]
    | some r =>
      have hterm := (eq_of_report hr).2.1
      cases hp : p term <;> simp [hr, hp, hterm, ih]

/-- What is reported about texts that belong somewhere. -/
theorem reports_kept (h₀ : resolve builtIn ∅ ∅ = .ok t₀) (h : resolve builtIn append ∅ = .ok t)
    {instances : List TextInstance}
    (hplaces : ∀ i ∈ instances, ∃ location shape, TextInstance.BelongsTo i location shape) :
    List.Forall₂ (Kept append) (t₀.reports instances)
      ((t.reports instances).filter fun r => decide (r.1.term ∈ builtIn.forms)) := by
  rw [filter_reports_term fun term => decide (term ∈ builtIn.forms), keys_append h₀ h]
  unfold reports
  induction instances with
  | nil => exact .nil
  | cons i instances ih =>
    rw [List.forall_mem_cons] at hplaces
    obtain ⟨location, shape, hplace⟩ := hplaces.1
    have hterms : List.Forall₂ (· = ·) t₀.terms.keys t₀.terms.keys := List.forall₂_refl _
    rw [List.flatMap_cons, List.flatMap_cons]
    refine List.rel_append (List.rel_filterMap (fun term _ heq => ?_) hterms) (ih hplaces.2)
    rw [← heq]
    exact report_kept h₀ h hplace

/-- Appended terms hide nothing. The built-in terms are found where they are found without the others,
in the same order. A model that can be checked with them alone can be checked with all terms, and the
warnings about built-in terms are the same, up to the words about those that are appended again, in
whatever case. A model with a path that cannot be written is checked with neither table. -/
theorem reported_append_kept (h : resolve builtIn append ∅ = .ok t) :
    ∃ t₀, resolve builtIn ∅ ∅ = .ok t₀ ∧
      (∀ instances : List TextInstance, (instances.flatMap t₀.findings).map Finding.occurrence =
        ((instances.flatMap t.findings).filter fun f => decide (f.term ∈ builtIn.forms)).map
          Finding.occurrence) ∧
      ∀ m : Model,
        (m.PathsWritable → ∃ rs₀ rs, t₀.Reported m rs₀ ∧ t.Reported m rs ∧
          List.Forall₂ (Kept append) rs₀ (rs.filter fun r => decide (r.1.term ∈ builtIn.forms))) ∧
        (¬ m.PathsWritable → t₀.checkWritable m = .error .overlongInteger ∧
          t.checkWritable m = .error .overlongInteger) := by
  obtain ⟨t₀, h₀⟩ := exists_resolve_builtIn h
  refine ⟨t₀, h₀, findings_kept h₀ h, fun m => ⟨fun hwritable => ?_, fun hunwritable => ?_⟩⟩
  · exact ⟨_, _, reported_iff.mpr ⟨hwritable, rfl⟩, reported_iff.mpr ⟨hwritable, rfl⟩,
      reports_kept h₀ h fun _ hi => Model.exists_belongsTo hi⟩
  · rw [← Model.hasUnwritablePath_eq_false_iff, Bool.not_eq_false] at hunwritable
    exact ⟨checkWritable_of_unwritable hunwritable, checkWritable_of_unwritable hunwritable⟩

/-- A term to append that is a built-in one in other letters. It takes the place of the built-in one, and
brings its own suggestions. -/
def shoutedTerms : TermMap :=
  .ofList [("MASTER", ["lead"])]

/-- The table with this term. -/
theorem reported_append_kept_shoutedTerms :
    ∃ t, resolve TermMap.builtIn shoutedTerms ∅ = .ok t ∧ ∃ t₀, resolve TermMap.builtIn ∅ ∅ = .ok t₀ ∧
      (∀ instances : List TextInstance, (instances.flatMap t₀.findings).map Finding.occurrence =
        ((instances.flatMap t.findings).filter fun f =>
          decide (f.term ∈ TermMap.builtIn.forms)).map Finding.occurrence) ∧
      ∀ m : Model,
        (m.PathsWritable → ∃ rs₀ rs, t₀.Reported m rs₀ ∧ t.Reported m rs ∧
          List.Forall₂ (Kept shoutedTerms) rs₀
            (rs.filter fun r => decide (r.1.term ∈ TermMap.builtIn.forms))) ∧
        (¬ m.PathsWritable → t₀.checkWritable m = .error .overlongInteger ∧
          t.checkWritable m = .error .overlongInteger) := by
  obtain ⟨t, h⟩ : ∃ t, resolve TermMap.builtIn shoutedTerms ∅ = .ok t := ⟨_, rfl⟩
  exact ⟨t, h, reported_append_kept h⟩

/-- The warning about the name of the only shape, with the sentence that is given. The sentence is the
part that depends on the table. -/
def masterWarning (sentence : Text) : Text × Text :=
  ("master", ("String shape uses a non-inclusive term 'Master'." : Text) ++ sentence)

/-- The lowercase form of the built-in term is no key of the appended terms as they are written, and the
warning has other words nevertheless. -/
theorem message_append_of_other_case :
    ∃ t₀ t r₀ r, resolve TermMap.builtIn ∅ ∅ = .ok t₀ ∧
      resolve TermMap.builtIn shoutedTerms ∅ = .ok t ∧
      t₀.Reported masterModel [r₀] ∧ t.Reported masterModel [r] ∧
      ("master" : Text) ∈ TermMap.builtIn.keys ∧ Text.lower "master" ∉ shoutedTerms.keys ∧
      (r₀.1.term, r₀.2.message) = masterWarning
        " Consider using one of the following terms instead: 'Primary', 'Parent' and 'Main'." ∧
      (r.1.term, r.2.message) = masterWarning
        " Consider using one of the following terms instead: 'Lead'." := by
  have hresolve₀ : resolve TermMap.builtIn ∅ ∅ = .ok ⟨lowered TermMap.builtIn.entries⟩ := by
    decide +kernel
  have hresolve : resolve TermMap.builtIn shoutedTerms ∅ =
      .ok ⟨lowered (TermMap.builtIn.entries ++ shoutedTerms.entries)⟩ := by
    decide +kernel
  have hone₀ : (reports ⟨lowered TermMap.builtIn.entries⟩ masterModel.textIndex).map
      (fun r => (r.1.term, r.2.message)) = [masterWarning
        " Consider using one of the following terms instead: 'Primary', 'Parent' and 'Main'."] := by
    decide +kernel
  have hone : (reports ⟨lowered (TermMap.builtIn.entries ++ shoutedTerms.entries)⟩
      masterModel.textIndex).map (fun r => (r.1.term, r.2.message)) = [masterWarning
        " Consider using one of the following terms instead: 'Lead'."] := by
    decide +kernel
  obtain ⟨r₀, hr₀, hwords₀⟩ := List.map_eq_singleton_iff.mp hone₀
  obtain ⟨r, hr, hwords⟩ := List.map_eq_singleton_iff.mp hone
  refine ⟨_, _, r₀, r, hresolve₀, hresolve, ?_, ?_, by decide, by decide +kernel, hwords₀, hwords⟩
  · rw [← hr₀]
    exact reported_iff.mpr ⟨pathsWritable_masterModel, rfl⟩
  · rw [← hr]
    exact reported_iff.mpr ⟨pathsWritable_masterModel, rfl⟩

end TermTable

end TermAudit
