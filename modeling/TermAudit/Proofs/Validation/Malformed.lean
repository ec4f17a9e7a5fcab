import TermAudit.Proofs.Validation.Findings

/-!
# `TermAudit.Proofs.Validation.Malformed`: texts that cannot be reported

The texts of an index bring all that a warning about them needs, but a validator takes other texts as
well. One that lacks its shape or its trait, or is at an unknown place, is malformed. It stops the check
as soon as a term is found in it, and with no term in it goes unnoticed.

* `TextInstance.IsMalformed`, `TextInstance.Flaw`: what makes a text malformed, and the error about it;
* `TermTable.warning_eq_error_iff`: a finding has an error instead of a warning just for this reason,
  whether the words or the place of the warning are missing;
* `TermTable.checkInstances_eq_error_iff`: the check of several texts ends with the error of the first
  one that is malformed and has a term;
* `TermTable.checkInstances_stops_iff`: this, and that texts which are checked together get the warnings
  that they get by themselves.
-/

set_option autoImplicit false

namespace TermAudit

namespace TextInstance

/-- The text is at an unknown place, or it lacks what its place requires: the name of a shape its shape,
and a text in the value of a trait the trait and the shape. The name of a namespace requires nothing. -/
def IsMalformed (i : TextInstance) : Prop :=
  (∃ name, i.place = .other name) ∨ (i.place = .shapeName ∧ i.shape = none) ∨
    (i.place = .traitValue ∧ (i.appliedTrait = none ∨ i.shape = none))

/-- The error about a malformed text in which a term is found. Of a trait and a shape that are both
missing, the trait is missed, as it is needed first. -/
inductive Flaw (term : Text) (i : TextInstance) : InstanceError → Prop
  | place {name : Text} (h : i.place = .other name) : Flaw term i (.unknownPlaceOfTerm name term)
  | shape (h : i.place = .shapeName) (hshape : i.shape = none) : Flaw term i (.missingShape i.text)
  | trait (h : i.place = .traitValue) (htrait : i.appliedTrait = none) :
    Flaw term i (.missingTrait i.text)
  | shapeOfTrait {t : Trait} (h : i.place = .traitValue) (htrait : i.appliedTrait = some t)
    (hshape : i.shape = none) : Flaw term i (.incompleteTrait i.text)

/-- A text is malformed if there is an error about it. -/
theorem isMalformed_iff {i : TextInstance} (term : Text) :
    i.IsMalformed ↔ ∃ e, i.Flaw term e := by
  constructor
  · rintro (⟨name, h⟩ | ⟨h, hshape⟩ | ⟨h, hmissing⟩)
    · exact ⟨_, .place h⟩
    · exact ⟨_, .shape h hshape⟩
    · cases htrait : i.appliedTrait with
      | none => exact ⟨_, .trait h htrait⟩
      | some t => exact ⟨_, .shapeOfTrait h htrait (hmissing.resolve_left (by simp [htrait]))⟩
  · rintro ⟨e, hflaw⟩
    cases hflaw with
    | place h => exact Or.inl ⟨_, h⟩
    | shape h hshape => exact Or.inr (Or.inl ⟨h, hshape⟩)
    | trait h htrait => exact Or.inr (Or.inr ⟨h, Or.inl htrait⟩)
    | shapeOfTrait h _ hshape => exact Or.inr (Or.inr ⟨h, Or.inr hshape⟩)

end TextInstance

namespace TermTable

/-- Some term of the table is found in the text. An empty term is never found, although it occurs
everywhere. -/
def IsFoundIn (t : TermTable) (i : TextInstance) : Prop :=
  ∃ term ∈ t.terms.keys, term ≠ [] ∧ Text.Occurs term i.text

/-- Whether a term is found in a text can be computed. -/
instance (t : TermTable) (i : TextInstance) : Decidable (t.IsFoundIn i) :=
  inferInstanceAs (Decidable (∃ term ∈ t.terms.keys, term ≠ [] ∧ Text.Occurs term i.text))

/-- The first term of the table that is found in the text. It is the one about which the check of a
malformed text stops. -/
def IsFirstFoundIn (t : TermTable) (term : Text) (i : TextInstance) : Prop :=
  ∃ before after, t.terms.keys = before ++ term :: after ∧
    (∀ term' ∈ before, ¬ (term' ≠ [] ∧ Text.Occurs term' i.text)) ∧
    term ≠ [] ∧ Text.Occurs term i.text

/-- The warnings about all terms in one text. -/
def warnings (t : TermTable) (i : TextInstance) : Except InstanceError (List Diagnostic) :=
  (t.findings i).mapM warning

variable {t : TermTable} {i : TextInstance} {f : Finding} {e : InstanceError}
  {instances xs ys : List TextInstance} {ds : List Diagnostic}

/-! ## One text -/

/-- A finding in a malformed text has an error. The words are missing first, and only if there are words
the place is. -/
theorem warning_of_flaw (h : f.source.Flaw f.term e) : warning f = .error e := by
  obtain ⟨term, suggestions, matched, text, place, shape, appliedTrait, path⟩ := f
  cases h with
  | place hplace =>
    cases hplace
    rfl
  | shape hplace hshape =>
    cases hplace
    cases hshape
    rfl
  | trait hplace htrait =>
    cases hplace
    cases htrait
    rfl
  | shapeOfTrait hplace htrait hshape =>
    cases hplace
    cases htrait
    cases hshape
    cases path <;> rfl

/-- A finding in any other text has a warning. -/
theorem exists_warning (h : ¬ f.source.IsMalformed) : ∃ d, warning f = .ok d := by
  obtain ⟨term, suggestions, matched, text, place, shape, appliedTrait, path⟩ := f
  cases place with
  | namespaceName => exact ⟨_, rfl⟩
  | other name => exact absurd (Or.inl ⟨name, rfl⟩) h
  | shapeName =>
    cases shape with
    | none => exact absurd (Or.inr (Or.inl ⟨rfl, rfl⟩)) h
    | some s => exact ⟨_, rfl⟩
  | traitValue =>
    cases appliedTrait with
    | none => exact absurd (Or.inr (Or.inr ⟨rfl, Or.inl rfl⟩)) h
    | some t =>
      cases shape with
      | none => exact absurd (Or.inr (Or.inr ⟨rfl, Or.inr rfl⟩)) h
      | some s =>
        cases path with
        | nil => exact ⟨_, rfl⟩
        | cons step path => exact ⟨_, rfl⟩

/-- A finding has an error instead of a warning exactly if there is something wrong with the text that it
is in. The error tells what is missing, and of two things the one that is needed first. -/
theorem warning_eq_error_iff : warning f = .error e ↔ f.source.Flaw f.term e := by
  refine ⟨fun h => ?_, warning_of_flaw⟩
  -- Only malformed texts have errors, and a malformed text has just one about a given term.
  have hmalformed : f.source.IsMalformed := by
    by_contra hnot
    obtain ⟨d, hd⟩ := exists_warning hnot
    rw [h] at hd
    cases hd
  obtain ⟨e', hflaw⟩ := (TextInstance.isMalformed_iff f.term).mp hmalformed
  have hsame := warning_of_flaw hflaw
  rw [h] at hsame
  cases hsame
  exact hflaw

/-- A finding in a text says that it is in this text. -/
theorem source_of_mem_findings (h : f ∈ t.findings i) : f.source = i := by
  rw [findings_eq] at h
  obtain ⟨term, -, hfound⟩ := List.mem_filterMap.mp h
  obtain ⟨slice, -, rfl⟩ := Option.map_eq_some_iff.mp hfound
  rfl

/-- The findings of a text begin with that of the first term that is found in it. -/
theorem isFirstFoundIn_iff {term : Text} :
    t.IsFirstFoundIn term i ↔ ∃ f rest, t.findings i = f :: rest ∧ f.term = term := by
  unfold IsFirstFoundIn
  simp only [findings_eq, List.filterMap_eq_cons_iff, Option.map_eq_none_iff, findTerm_eq_none_iff,
    ← exists_findTerm_iff]
  constructor
  · rintro ⟨before, after, hkeys, hbefore, slice, hslice⟩
    exact ⟨_, _, ⟨before, term, after, hkeys, hbefore, by rw [hslice]; rfl, rfl⟩, rfl⟩
  · rintro ⟨f, rest, ⟨before, term', after, hkeys, hbefore, hfound, -⟩, rfl⟩
    obtain ⟨slice, hslice, rfl⟩ := Option.map_eq_some_iff.mp hfound
    exact ⟨before, after, hkeys, hbefore, slice, hslice⟩

/-- There are no findings exactly if no term is found. -/
theorem findings_eq_nil_iff : t.findings i = [] ↔ ¬ t.IsFoundIn i := by
  rw [findings_eq, List.filterMap_eq_nil_iff]
  unfold IsFoundIn
  simp only [Option.map_eq_none_iff, findTerm_eq_none_iff, not_exists, not_and]

/-- Some term is found first exactly if some term is found. -/
theorem exists_isFirstFoundIn_iff : (∃ term, t.IsFirstFoundIn term i) ↔ t.IsFoundIn i := by
  simp only [isFirstFoundIn_iff]
  cases hfindings : t.findings i with
  | nil => exact iff_of_false (fun ⟨_, _, _, h, _⟩ => nomatch h) (findings_eq_nil_iff.mp hfindings)
  | cons f rest =>
    refine iff_of_true ⟨f.term, f, rest, rfl, rfl⟩ (by_contra fun hnot => ?_)
    rw [findings_eq_nil_iff.mpr hnot] at hfindings
    cases hfindings

/-- The warnings about a text end with an error if it is malformed and a term is found in it. The first
such term is the one in the error. -/
theorem warnings_eq_error_iff :
    t.warnings i = .error e ↔ ∃ term, t.IsFirstFoundIn term i ∧ i.Flaw term e := by
  unfold warnings
  rw [mapM_eq_error_iff]
  constructor
  · rintro ⟨front, f, back, hfindings, hfront, herror⟩
    have hsource : ∀ g ∈ front ++ f :: back, g.source = i :=
      fun g hg => source_of_mem_findings (hfindings ▸ hg)
    have hflaw : i.Flaw f.term e := hsource f (by simp) ▸ warning_eq_error_iff.mp herror
    cases front with
    | nil => exact ⟨f.term, isFirstFoundIn_iff.mpr ⟨f, back, hfindings, rfl⟩, hflaw⟩
    | cons g front =>
      -- The text is malformed, so its first finding has an error already.
      obtain ⟨d, hd⟩ := hfront g List.mem_cons_self
      obtain ⟨e', hflaw'⟩ :=
        (TextInstance.isMalformed_iff g.term).mp ((TextInstance.isMalformed_iff _).mpr ⟨e, hflaw⟩)
      have herror' := warning_of_flaw ((hsource g (by simp)).symm ▸ hflaw' : g.source.Flaw g.term e')
      rw [hd] at herror'
      cases herror'
  · rintro ⟨term, hfirst, hflaw⟩
    obtain ⟨f, rest, hfindings, rfl⟩ := isFirstFoundIn_iff.mp hfirst
    have hsource : f.source = i := source_of_mem_findings (hfindings ▸ List.mem_cons_self)
    exact ⟨[], f, rest, hfindings, fun _ hg => absurd hg List.not_mem_nil,
      warning_of_flaw (hsource.symm ▸ hflaw)⟩

/-- A text stops its warnings exactly if it is malformed and a term is found in it. Both are needed: the
text is looked at only when there is a finding to report. -/
theorem exists_warnings_eq_error_iff :
    (∃ e, t.warnings i = .error e) ↔ t.IsFoundIn i ∧ i.IsMalformed := by
  simp only [warnings_eq_error_iff, ← exists_isFirstFoundIn_iff]
  constructor
  · rintro ⟨e, term, hfirst, hflaw⟩
    exact ⟨⟨term, hfirst⟩, (TextInstance.isMalformed_iff term).mpr ⟨e, hflaw⟩⟩
  · rintro ⟨⟨term, hfirst⟩, hmalformed⟩
    obtain ⟨e, hflaw⟩ := (TextInstance.isMalformed_iff term).mp hmalformed
    exact ⟨e, term, hfirst, hflaw⟩

/-- A text has warnings, or none, exactly if it is not malformed where a term is found. -/
theorem exists_warnings_eq_ok_iff :
    (∃ ds, t.warnings i = .ok ds) ↔ (t.IsFoundIn i → ¬ i.IsMalformed) := by
  rw [exists_ok_iff_forall_ne, ← not_and, ← exists_warnings_eq_error_iff, not_exists]

/-! ## Several texts -/

/-- Texts are checked one after the other. -/
theorem checkInstances_eq (t : TermTable) (instances : List TextInstance) :
    t.checkInstances instances = List.flatten <$> instances.mapM t.warnings :=
  mapM_flatMap warning t.findings instances

/-- The check ends with the error of the first text that is malformed and has a term. What comes behind is
not looked at, and the warnings from before are lost. -/
theorem checkInstances_eq_error_iff : t.checkInstances instances = .error e ↔
    ∃ front i back, instances = front ++ i :: back ∧
      (∀ j ∈ front, t.IsFoundIn j → ¬ j.IsMalformed) ∧
      ∃ term, t.IsFirstFoundIn term i ∧ i.Flaw term e := by
  rw [checkInstances_eq, map_eq_error_iff, mapM_eq_error_iff]
  simp only [exists_warnings_eq_ok_iff, warnings_eq_error_iff]

/-- A check is stopped exactly if one of its texts would stop it by itself. -/
theorem exists_checkInstances_eq_error_iff : (∃ e, t.checkInstances instances = .error e) ↔
    ∃ i ∈ instances, t.IsFoundIn i ∧ i.IsMalformed := by
  -- It is easier to say when there is no error: all texts have their warnings.
  have hok : (∃ ds, t.checkInstances instances = .ok ds) ↔
      ∀ i ∈ instances, t.IsFoundIn i → ¬ i.IsMalformed := by
    simp only [← exists_warnings_eq_ok_iff, ← exists_mapM_eq_ok_iff, checkInstances_eq, map_eq_ok_iff]
    exact ⟨fun ⟨_, dss, h, _⟩ => ⟨dss, h⟩, fun ⟨dss, h⟩ => ⟨_, dss, h, rfl⟩⟩
  rw [exists_ok_iff_forall_ne] at hok
  rw [← not_iff_not, not_exists, hok]
  simp only [not_exists, not_and]

/-- Texts without a term are passed over, malformed ones as well. -/
theorem checkInstances_filter (t : TermTable) (instances : List TextInstance) :
    t.checkInstances (instances.filter fun i => decide (t.IsFoundIn i)) =
      t.checkInstances instances := by
  unfold checkInstances
  congr 1
  induction instances with
  | nil => rfl
  | cons i instances ih =>
    by_cases hfound : t.IsFoundIn i
    · rw [List.filter_cons_of_pos (by simpa using hfound), List.flatMap_cons, List.flatMap_cons, ih]
    · rw [List.filter_cons_of_neg (by simpa using hfound), List.flatMap_cons, ih,
        findings_eq_nil_iff.mpr hfound, List.nil_append]

/-- Texts are checked together as they are in two parts. -/
theorem checkInstances_append_eq_ok_iff : t.checkInstances (xs ++ ys) = .ok ds ↔
    ∃ ds₁ ds₂, t.checkInstances xs = .ok ds₁ ∧ t.checkInstances ys = .ok ds₂ ∧ ds = ds₁ ++ ds₂ := by
  unfold checkInstances
  rw [List.flatMap_append, List.mapM_append]
  simp only [bind_eq_ok_iff]
  constructor
  · rintro ⟨ds₁, h₁, ds₂, h₂, h⟩
    exact ⟨ds₁, ds₂, h₁, h₂, (Except.ok.inj h).symm⟩
  · rintro ⟨ds₁, ds₂, h₁, h₂, rfl⟩
    exact ⟨ds₁, h₁, ds₂, h₂, rfl⟩

/-- The check of texts is stopped by those that are malformed and have a term, and by no others. Its
error is that of the first one, about the first term in it. Texts without a term make no difference.
Texts that can be checked together have the warnings of the first ones, and then those of the rest. -/
theorem checkInstances_stops_iff (t : TermTable) (xs ys : List TextInstance) :
    ((∃ e, t.checkInstances xs = .error e) ↔ ∃ i ∈ xs, t.IsFoundIn i ∧ i.IsMalformed) ∧
      (∀ e, t.checkInstances xs = .error e ↔ ∃ front i back, xs = front ++ i :: back ∧
        (∀ j ∈ front, t.IsFoundIn j → ¬ j.IsMalformed) ∧
        ∃ term, t.IsFirstFoundIn term i ∧ i.Flaw term e) ∧
      t.checkInstances (xs.filter fun i => decide (t.IsFoundIn i)) = t.checkInstances xs ∧
      ∀ ds, t.checkInstances (xs ++ ys) = .ok ds ↔ ∃ ds₁ ds₂,
        t.checkInstances xs = .ok ds₁ ∧ t.checkInstances ys = .ok ds₂ ∧ ds = ds₁ ++ ds₂ :=
  ⟨exists_checkInstances_eq_error_iff, fun _ => checkInstances_eq_error_iff,
    checkInstances_filter t xs, fun _ => checkInstances_append_eq_ok_iff⟩

end TermTable

end TermAudit
