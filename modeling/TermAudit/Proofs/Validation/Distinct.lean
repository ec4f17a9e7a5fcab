import TermAudit.Proofs.Index.Listing
import TermAudit.Proofs.Model.Keys
import TermAudit.Proofs.Validation.Findings
import TermAudit.Proofs.Validation.Messages

/-!
# `TermAudit.Proofs.Validation.Distinct`: diagnostics that are told apart

Two diagnostics about a model can be the same. Nothing in a diagnostic says which of two terms was found
that are equal up to case, and of the way to a text in a trait it has the steps with slashes between them
alone. `TermTable.TellsApart` says when this happens:

* `TermTable.warning_eq_iff`: two warnings are the same if and only if the findings have the same words
  and their texts are indistinct;
* `Model.TextsApart`, `TermTable.nodup_reports`: what keeps all diagnostics about a model apart;
* `Validator.tellsApart_of_check`: this put together for a model that is read.
-/

set_option autoImplicit false

namespace TermAudit

/-! ## Texts of a model -/

namespace TextInstance

variable {i i' : TextInstance}

/-- Texts that cannot be told apart are at the same kind of place. -/
theorem Indistinct.place_eq (h : i.Indistinct i') : i.place = i'.place := by
  cases h <;> rfl

/-- Texts in traits are indistinct if these stand at one place and the same is said of the texts. -/
theorem indistinct_ofTrait_iff {s s' : Shape} {t t' : Trait} {path path' : List Text} {x x' : Text} :
    Indistinct (.ofTrait s t path x) (.ofTrait s' t' path' x') ↔
      s.id = s'.id ∧ t.location = t'.location ∧ t.words path = t'.words path' := by
  constructor
  · rintro (_ | _ | ⟨hid, hlocation, hwords⟩)
    exact ⟨hid, hlocation, hwords⟩
  · rintro ⟨hid, hlocation, hwords⟩
    exact .ofTrait hid hlocation hwords

end TextInstance

namespace Model

/-- Nothing in a model keeps diagnostics about it from being told apart: no two shapes have the same id
and place, nor have two traits the same shape and place, and in no trait do two paths read the same. It is
a condition on the model alone, whatever is looked for. -/
structure TextsApart (m : Model) : Prop where
  shapes : (m.walk.map fun s => (s.id, s.location)).Nodup
  traits : (m.walk.flatMap fun s => s.proseTraits.map fun t => (s.id, t.location)).Nodup
  paths : ∀ s ∈ m.walk, ∀ t ∈ s.proseTraits, (t.value.texts.map fun e => Text.joinWith "/" e.1).Nodup

/-- Whether the texts of a model are apart can be computed. -/
instance (m : Model) : Decidable m.TextsApart :=
  decidable_of_iff ((m.walk.map fun s => (s.id, s.location)).Nodup ∧
      (m.walk.flatMap fun s => s.proseTraits.map fun t => (s.id, t.location)).Nodup ∧
      ∀ s ∈ m.walk, ∀ t ∈ s.proseTraits, (t.value.texts.map fun e => Text.joinWith "/" e.1).Nodup)
    ⟨fun h => ⟨h.1, h.2.1, h.2.2⟩, fun h => ⟨h.shapes, h.traits, h.paths⟩⟩

variable {m : Model}

/-- The texts of one trait are told apart by their paths. -/
theorem pairwise_ofTrait (s : Shape) {t : Trait}
    (hpaths : (t.value.texts.map fun e => Text.joinWith "/" e.1).Nodup) :
    (t.value.texts.map fun e => TextInstance.ofTrait s t e.1 e.2).Pairwise
      fun i i' => ¬ i.Indistinct i' := by
  rw [List.pairwise_map]
  refine (List.pairwise_map.mp hpaths).imp fun hne hind => hne ?_
  exact (Trait.words_eq_iff.mp (TextInstance.indistinct_ofTrait_iff.mp hind).2.2).2

/-- The texts of a shape are told apart by their kinds, and those in traits by the places of these. -/
theorem pairwise_textInstances {s : Shape} (htraits : (s.proseTraits.map fun t => (s.id, t.location)).Nodup)
    (hpaths : ∀ t ∈ s.proseTraits, (t.value.texts.map fun e => Text.joinWith "/" e.1).Nodup) :
    s.textInstances.Pairwise fun i i' => ¬ i.Indistinct i' := by
  unfold Shape.textInstances
  rw [List.pairwise_cons, List.pairwise_flatMap]
  refine ⟨fun i hi hind => ?_, fun t ht => pairwise_ofTrait s (hpaths t ht), ?_⟩
  · -- A name is at another kind of place than a text in a trait.
    obtain ⟨t, -, hi⟩ := List.mem_flatMap.mp hi
    obtain ⟨e, -, rfl⟩ := List.mem_map.mp hi
    exact nomatch hind.place_eq
  · refine (List.pairwise_map.mp htraits).imp fun hne i hi i' hi' hind => ?_
    obtain ⟨e, -, rfl⟩ := List.mem_map.mp hi
    obtain ⟨e', -, rfl⟩ := List.mem_map.mp hi'
    exact hne (Prod.ext rfl (TextInstance.indistinct_ofTrait_iff.mp hind).2.1)

/-- The texts of two shapes are told apart by the places of the shapes and of their traits. -/
theorem not_indistinct_of_ne {s s' : Shape} (hshapes : (s.id, s.location) ≠ (s'.id, s'.location))
    (htraits : ∀ t ∈ s.proseTraits, ∀ t' ∈ s'.proseTraits, (s.id, t.location) ≠ (s'.id, t'.location))
    {i i' : TextInstance} (hi : i ∈ s.textInstances) (hi' : i' ∈ s'.textInstances) :
    ¬ i.Indistinct i' := by
  intro hind
  rcases Shape.mem_textInstances_iff.mp hi with rfl | ⟨t, ht, e, -, rfl⟩
  · rcases Shape.mem_textInstances_iff.mp hi' with rfl | ⟨t', ht', e', -, rfl⟩
    · obtain ⟨hlocation, hid⟩ := Prod.mk.inj (Except.ok.inj hind.origin_eq)
      exact hshapes (Prod.ext (Option.some.inj hid) hlocation)
    · exact nomatch hind.place_eq
  · rcases Shape.mem_textInstances_iff.mp hi' with rfl | ⟨t', ht', e', -, rfl⟩
    · exact nomatch hind.place_eq
    · obtain ⟨hid, hlocation, -⟩ := TextInstance.indistinct_ofTrait_iff.mp hind
      exact htraits t ht t' ht' (Prod.ext hid hlocation)

/-- No two texts in the index are indistinct. -/
theorem TextsApart.pairwise (h : m.TextsApart) :
    m.textIndex.Pairwise fun i i' => ¬ i.Indistinct i' := by
  obtain ⟨htraits, hbetween⟩ := List.pairwise_flatMap.mp h.traits
  -- Inside of one shape, between two shapes, between namespaces, and between a shape and a namespace.
  unfold textIndex
  rw [List.pairwise_append, List.pairwise_flatMap, List.pairwise_map, namespacesOf_eq]
  refine ⟨⟨fun s hs => pairwise_textInstances (htraits s hs) (h.paths s hs), ?_⟩, ?_, ?_⟩
  · refine ((List.pairwise_map.mp h.shapes).and hbetween).imp fun hne i hi i' hi' => ?_
    refine not_indistinct_of_ne hne.1 (fun t ht t' ht' => ?_) hi hi'
    exact hne.2 _ (List.mem_map_of_mem ht) _ (List.mem_map_of_mem ht')
  · refine (nodup_eraseDups _).imp fun hne hind => hne ?_
    cases hind
    rfl
  · -- The name of a namespace is in no shape.
    intro i hi i' hi' hind
    obtain ⟨s, -, hi⟩ := List.mem_flatMap.mp hi
    obtain ⟨ns, -, rfl⟩ := List.mem_map.mp hi'
    rcases Shape.mem_textInstances_iff.mp hi with rfl | ⟨t, -, e, -, rfl⟩
    · exact nomatch hind.place_eq
    · exact nomatch hind.place_eq

end Model

/-! ## Warnings -/

namespace TermTable

variable {t : TermTable} {f f' : Finding} {d d' : Diagnostic}

/-- A warning has the location and the shape of the text that it is about. -/
theorem belongsTo_of_warning {location : Location} {shape : Option ShapeId}
    (hplace : f.source.BelongsTo location shape) (h : warning f = .ok d) :
    f.source.BelongsTo d.location d.shape := by
  obtain ⟨-, -, -, horigin⟩ := eq_of_warning h
  obtain ⟨rfl, rfl⟩ := Prod.mk.inj (Except.ok.inj ((origin_of_belongsTo hplace).symm.trans horigin))
  exact hplace

/-- Two warnings are the same if and only if the findings have the same words and nothing tells their
texts apart, as far as the words can be read back from the messages. -/
theorem warning_eq_iff (hplace : f.source.BelongsTo d.location d.shape)
    (hplace' : f'.source.BelongsTo d'.location d'.shape) (h : warning f = .ok d)
    (h' : warning f' = .ok d') (hreadable : f.SameWords f' ∨ f.IsPlain ∧ f'.IsPlain) :
    d = d' ↔ f.SameWords f' ∧ f.source.Indistinct f'.source := by
  obtain ⟨hid, hseverity, hmessage, -⟩ := eq_of_warning h
  obtain ⟨hid', hseverity', hmessage', -⟩ := eq_of_warning h'
  obtain ⟨opening, hopening⟩ := exists_opening hplace
  obtain ⟨opening', hopening'⟩ := exists_opening hplace'
  have hwords := Finding.message_eq_iff hopening hopening' hreadable
  have hind := Finding.indistinct_iff hplace hplace' hopening hopening'
  rw [hmessage, hmessage', Except.ok.injEq] at hwords
  constructor
  · rintro rfl
    obtain ⟨heq, hsame⟩ := hwords.mp rfl
    exact ⟨hsame, hind.mpr ⟨heq, rfl, rfl⟩⟩
  · rintro ⟨hsame, hindistinct⟩
    obtain ⟨heq, hlocation, hshape⟩ := hind.mp hindistinct
    have hsaid := hwords.mpr ⟨heq, hsame⟩
    cases d
    cases d'
    simp_all

/-- So has each diagnostic of a report those of its finding. -/
theorem belongsTo_of_mem_reports {instances : List TextInstance}
    (hplaces : ∀ i ∈ instances, ∃ location shape, TextInstance.BelongsTo i location shape)
    {r : Finding × Diagnostic} (h : r ∈ t.reports instances) :
    r.1.source.BelongsTo r.2.location r.2.shape := by
  obtain ⟨i, hi, term, -, hreport⟩ := mem_reports h
  obtain ⟨hsource, -, hwarning⟩ := eq_of_report hreport
  obtain ⟨location, shape, hplace⟩ := hplaces i hi
  exact belongsTo_of_warning (hsource ▸ hplace) hwarning

/-- What was found is the term up to case. -/
theorem sameLetters_of_report {i : TextInstance} {term : Text} {r : Finding × Diagnostic}
    (h : t.report i term = some r) : Text.SameLetters term r.1.matched := by
  unfold report at h
  obtain ⟨slice, hfound, h⟩ := Option.bind_eq_some_iff.mp h
  obtain ⟨d, -, rfl⟩ := Option.map_eq_some_iff.mp h
  obtain ⟨-, start, ⟨-, -, -, -, hsame⟩, -⟩ := findTerm_eq_some_iff.mp hfound
  exact hsame

/-- All warnings are different if the terms differ by more than case, nothing between apostrophes has one
itself, and no two of the texts are indistinct. Each condition is needed for a case of its own. -/
theorem nodup_reports {instances : List TextInstance}
    (hplaces : ∀ i ∈ instances, ∃ location shape, TextInstance.BelongsTo i location shape)
    (hplain : ∀ r ∈ t.reports instances, r.1.IsPlain)
    (hterms : t.terms.keys.Pairwise fun term term' => ¬ Text.SameLetters term term')
    (hinstances : instances.Pairwise fun i i' => ¬ i.Indistinct i') :
    ((t.reports instances).map Prod.snd).Nodup := by
  have heq {i i' : TextInstance} (hi : i ∈ instances) (hi' : i' ∈ instances) {term term' : Text}
      (hterm : term ∈ t.terms.keys) (hterm' : term' ∈ t.terms.keys) {r r' : Finding × Diagnostic}
      (h : t.report i term = some r) (h' : t.report i' term' = some r') (hsame : r.2 = r'.2) :
      Text.SameLetters term term' ∧ i.Indistinct i' := by
    have hr : r ∈ t.reports instances :=
      List.mem_flatMap.mpr ⟨i, hi, List.mem_filterMap.mpr ⟨term, hterm, h⟩⟩
    have hr' : r' ∈ t.reports instances :=
      List.mem_flatMap.mpr ⟨i', hi', List.mem_filterMap.mpr ⟨term', hterm', h'⟩⟩
    obtain ⟨hsource, -, hwarning⟩ := eq_of_report h
    obtain ⟨hsource', -, hwarning'⟩ := eq_of_report h'
    obtain ⟨hwords, hind⟩ := (warning_eq_iff (belongsTo_of_mem_reports hplaces hr)
      (belongsTo_of_mem_reports hplaces hr') hwarning hwarning'
      (Or.inr ⟨hplain r hr, hplain r' hr'⟩)).mp hsame
    have hletters : Text.SameLetters term r'.1.matched := hwords.matched ▸ sameLetters_of_report h
    exact ⟨hletters.trans (sameLetters_of_report h').symm, hsource ▸ hsource' ▸ hind⟩
  unfold reports at heq ⊢
  refine List.pairwise_map.mpr (List.pairwise_flatMap.mpr ⟨fun i hi => ?_, ?_⟩)
  · -- In one text the terms decide.
    refine List.pairwise_filterMap.mpr (hterms.imp_of_mem fun hterm hterm' hne r h r' h' hsame => ?_)
    exact hne (heq hi hi hterm hterm' h h' hsame).1
  · -- In two texts it does not matter which terms were found.
    refine hinstances.imp_of_mem fun hi hi' hne r hr r' hr' hsame => ?_
    obtain ⟨term, hterm, h⟩ := List.mem_filterMap.mp hr
    obtain ⟨term', hterm', h'⟩ := List.mem_filterMap.mp hr'
    exact hne (heq hi hi' hterm hterm' h h' hsame).2

/-! ## Diagnostics about a model -/

/-- What tells the findings in a model and the diagnostics about them apart, and what does not. The first
field gives the exact condition for two diagnostics, and the others what follows for a model. -/
structure TellsApart (t : TermTable) (m : Model) (rs : List (Finding × Diagnostic)) : Prop where
  /-- Two diagnostics are the same if and only if the findings have the same words and nothing tells their
  texts apart. The words can be read back if they are the same, or if they have no apostrophes. -/
  eq_iff : ∀ r ∈ rs, ∀ r' ∈ rs, (r.1.SameWords r'.1 ∨ r.1.IsPlain ∧ r'.1.IsPlain) →
    (r.2 = r'.2 ↔ r.1.SameWords r'.1 ∧ r.1.source.Indistinct r'.1.source)
  /-- Of two texts in one trait, the paths decide, with slashes between their steps. -/
  indistinct_iff : ∀ s ∈ m.walk, ∀ trait ∈ s.traits, ∀ e ∈ trait.value.texts, ∀ e' ∈ trait.value.texts,
    (TextInstance.Indistinct (.ofTrait s trait e.1 e.2) (.ofTrait s trait e'.1 e'.2) ↔
      Text.joinWith "/" e.1 = Text.joinWith "/" e'.1)
  /-- These are different ones if all keys are texts without slashes. -/
  joined_nodup : ∀ s ∈ m.walk, ∀ trait ∈ s.traits, trait.value.HasTextKeys → trait.value.KeysLackSlash →
    (trait.value.texts.map fun e => Text.joinWith "/" e.1).Nodup
  /-- No two diagnostics are the same if the terms differ by more than case, nothing between apostrophes
  has one itself, and nothing in the model keeps its texts from being told apart. -/
  nodup : t.terms.keys.Pairwise (fun term term' => ¬ Text.SameLetters term term') →
    (∀ r ∈ rs, r.1.IsPlain) → m.TextsApart → (rs.map Prod.snd).Nodup

end TermTable

namespace Validator

/-- When two diagnostics about a model that is read are the same, and what keeps all of them apart, whatever
is looked for. A diagnostic shows the path of a text with slashes between its steps and the text in the case
in which it was found, so two texts or two terms can come to the same words. -/
theorem tellsApart_of_check {file text : Text} {m : Model} {c : TermsConfig} {v : Validator}
    {ds : List Diagnostic} (hm : Model.ofText file text = .ok m) (hv : Validator.ofConfig c = .ok v)
    (hds : v.check m = .ok ds) :
    ∃ t rs, c.table TermMap.builtIn = .ok t ∧ t.Reported m rs ∧ rs.map Prod.snd = ds ∧
      t.TellsApart m rs := by
  obtain ⟨t, ht, rfl⟩ := ofConfig_eq_ok_iff.mp hv
  rw [ofTable_check] at hds
  have hreported : t.Reported m (t.reports m.textIndex) :=
    TermTable.reported_iff.mpr ⟨(TermTable.checkWritable_eq_ok_iff.mp hds).1, rfl⟩
  have hplaces : ∀ i ∈ m.textIndex, ∃ location shape, TextInstance.BelongsTo i location shape :=
    fun _ hi => Model.exists_belongsTo hi
  refine ⟨t, _, ht, hreported, Except.ok.inj (hreported.check.symm.trans hds), ?_, ?_, ?_, ?_⟩
  · intro r hr r' hr'
    exact TermTable.warning_eq_iff (TermTable.belongsTo_of_mem_reports hplaces hr)
      (TermTable.belongsTo_of_mem_reports hplaces hr') (hreported.warnings r hr)
      (hreported.warnings r' hr')
  · intro s _ trait _ e he e' he'
    rw [TextInstance.indistinct_ofTrait_iff, Trait.words_eq_iff]
    simp only [true_and, Value.isEmpty_path_of_mem_texts he he']
  · intro s hs trait htrait htexts hslash
    exact Value.nodup_joined (Model.keysDiffer_of_ofText hm hs htrait) htexts hslash
  · intro hterms hplain hapart
    exact TermTable.nodup_reports hplaces hplain hterms hapart.pairwise

/-- A document with two terms in the name of a shape, and one in two places of a trait. All diagnostics
about it are told apart. -/
def masterSlaveText : Text :=
  "shapes:\n a#MasterSlave:\n  type: string\n  traits:\n   c#d: [master, \x7bx: master\x7d]\n"

/-- The four diagnostics about this document are different ones. -/
theorem tellsApart_of_check_masterSlaveText :
    ∃ m v ds, Model.ofText "m.yaml" masterSlaveText = .ok m ∧ Validator.ofConfig .empty = .ok v ∧
      v.check m = .ok ds ∧ ds.length = 4 ∧ ds.Nodup := by
  -- One evaluation checks all conditions of the theorem, so that the text is read once.
  have hread : (Model.ofText "m.yaml" masterSlaveText).toOption.any (fun m =>
      decide m.TextsApart &&
      (TermTable.reports ⟨TermMap.builtIn⟩ m.textIndex).all (fun r => decide r.1.IsPlain) &&
      ((Validator.ofTable ⟨TermMap.builtIn⟩).check m).toOption.any fun ds => ds.length == 4) = true := by
    decide +kernel
  obtain ⟨m, hm, hany⟩ := exists_ok_of_toOption_any hread
  rw [Bool.and_eq_true, Bool.and_eq_true, decide_eq_true_eq, List.all_eq_true] at hany
  obtain ⟨⟨hapart, hplain⟩, hany⟩ := hany
  obtain ⟨ds, hds, hlength⟩ := exists_ok_of_toOption_any hany
  have htable : TermsConfig.empty.table TermMap.builtIn = .ok ⟨TermMap.builtIn⟩ := rfl
  obtain ⟨t, rs, ht, hreported, rfl, htold⟩ := tellsApart_of_check hm (c := .empty) rfl hds
  cases htable.symm.trans ht
  obtain ⟨-, rfl⟩ := TermTable.reported_iff.mp hreported
  refine ⟨m, _, _, hm, rfl, hds, beq_iff_eq.mp hlength, htold.nodup ?_ ?_ hapart⟩
  · decide
  · exact fun r hr => decide_eq_true_eq.mp (hplain r hr)

/-- Two diagnostics about the model in the text are the same. The text is read and checked, so this is
about what a user of the validator can see. -/
def IsAmbiguous (text : Text) (c : TermsConfig) : Prop :=
  ∃ m v ds, Model.ofText "m.yaml" text = .ok m ∧ Validator.ofConfig c = .ok v ∧ v.check m = .ok ds ∧
    ¬ ds.Nodup

/-- The same as a computation, for a given text and configuration. -/
theorem isAmbiguous_of_toOption {text : Text} {c : TermsConfig}
    (h : (Model.ofText "m.yaml" text).toOption.any (fun m => (Validator.ofConfig c).toOption.any fun v =>
      (v.check m).toOption.any fun ds => !decide ds.Nodup) = true) : IsAmbiguous text c := by
  obtain ⟨m, hm, hany⟩ := exists_ok_of_toOption_any h
  obtain ⟨v, hv, hany⟩ := exists_ok_of_toOption_any hany
  obtain ⟨ds, hds, htwins⟩ := exists_ok_of_toOption_any hany
  exact ⟨m, v, ds, hm, hv, hds, by simpa using htwins⟩

/-- A document with a trait whose value is given in YAML. It is a frame for values that make diagnostics
alike. -/
def traitText (value : Text) : Text :=
  ("shapes:\n a#B:\n  type: string\n  traits:\n   c#d: " : Text) ++ value

/-- Not all diagnostics are told apart: not behind a key with a slash, nor if terms are equal up to case, or
if a term has apostrophes. Each of the three inputs lacks one of the conditions of the theorem before. -/
theorem isAmbiguous_inputs :
    IsAmbiguous (traitText "\x7bx/y: master, x: \x7by: master\x7d\x7d") .empty ∧
    IsAmbiguous "shapes:\n a#\u03c3:\n  type: string\n"
      ⟨.ofList [("\u03c3", []), ("\u03c2", [])], ∅⟩ ∧
    IsAmbiguous (traitText "'x''. Consider using one of the following terms instead: ''y'")
      ⟨.ofList [("x", ["y"]), ("x'. consider using one of the following terms instead: 'y", [])], ∅⟩ := by
  refine ⟨?_, ?_, ?_⟩
  all_goals exact isAmbiguous_of_toOption (by decide +kernel)

end Validator

end TermAudit
