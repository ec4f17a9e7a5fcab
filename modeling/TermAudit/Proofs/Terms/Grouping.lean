import TermAudit.Proofs.Terms.Layers

/-!
# `TermAudit.Proofs.Terms.Grouping`: layers of configurations in groups

Any number of configurations can be laid over each other: files, and the options of a command on top
of them. `TermsConfig.layered` does so one by one, from the lowest layer to the highest. A `Layering`
is another way to go about it, in groups that are put together first.

* `TermsConfig.layered_append`: layers that are put together in two groups come to the same as one by
  one, so the groups of a layering do not matter (`Layering.merged_eq_layered`);
* `TermsConfig.keys_layered`, `TermsConfig.get?_layered`: which terms the layers have together, in
  which order, and with which suggestions;
* `TermsConfig.isLayering_merged`: the laws of layers, all of them about ordered maps.
-/

set_option autoImplicit false

namespace TermAudit

/-- Layers in groups, from the lowest to the highest. It is a tree, so that every way of putting layers
together two by two is one of these. -/
inductive Layering where
  | none
  | layer (c : TermsConfig)
  | group (lower upper : Layering)

namespace Layering

/-- The layers, without the groups. -/
def layers : Layering → List TermsConfig
  | none => []
  | layer c => [c]
  | group lower upper => lower.layers ++ upper.layers

/-- The layers put together by `merge`, group by group; `empty` stands for no layer. The operations are
left open, so that the laws can be stated for them alone. -/
def mergedBy (merge : TermsConfig → TermsConfig → TermsConfig) (empty : TermsConfig) :
    Layering → TermsConfig
  | none => empty
  | layer c => c
  | group lower upper => merge (lower.mergedBy merge empty) (upper.mergedBy merge empty)

end Layering

namespace TermsConfig

/-- What one expects of laying configurations over each other. Configurations are equal if both of their
maps have the same terms with the same suggestions in the same order. -/
structure IsLayering (merge : TermsConfig → TermsConfig → TermsConfig) (empty : TermsConfig) : Prop where
  assoc (a b c : TermsConfig) : merge (merge a b) c = merge a (merge b c)
  self (c : TermsConfig) : merge c c = c
  empty_under (c : TermsConfig) : merge empty c = c
  empty_over (c : TermsConfig) : merge c empty = c
  /-- The same layers come to the same in all groups. -/
  groups (g g' : Layering) : g.layers = g'.layers → g.mergedBy merge empty = g'.mergedBy merge empty
  /-- The first layer that spells a term decides about its place. -/
  places (g : Layering) (part : ConfigSection) : ((g.mergedBy merge empty).terms part).keys =
    (g.layers.flatMap fun c => (c.terms part).keys).eraseDups
  /-- The last layer that spells a term decides about its suggestions. -/
  suggestions (g : Layering) (part : ConfigSection) (lower upper : List TermsConfig) (c : TermsConfig)
    (term : Text) : g.layers = lower ++ c :: upper → term ∈ (c.terms part).keys →
    (∀ c' ∈ upper, term ∉ (c'.terms part).keys) →
    ((g.mergedBy merge empty).terms part).get? term = (c.terms part).get? term

/-! ## Two layers -/

/-- Configurations with the same terms in both sections are the same. -/
theorem ext_terms {c c' : TermsConfig} (h : ∀ part, c.terms part = c'.terms part) : c = c' := by
  obtain ⟨append, replace⟩ := c
  obtain ⟨append', replace'⟩ := c'
  exact congrArg₂ TermsConfig.mk (h .append) (h .replace)

/-- The empty configuration has no terms in either section. -/
@[simp] theorem terms_empty (part : ConfigSection) : empty.terms part = ∅ := by
  cases part <;> rfl

/-- Three configurations can be put over each other in either order. The sections are merged apart, and
merging maps is associative. -/
theorem merged_assoc (a b c : TermsConfig) : (a.merged b).merged c = a.merged (b.merged c) :=
  ext_terms fun part => by simp only [terms_merged, OrderedMap.union_assoc]

/-- A configuration that is put over itself changes nothing. -/
theorem merged_self (c : TermsConfig) : c.merged c = c :=
  ext_terms fun part => by rw [terms_merged, OrderedMap.union_self]

/-- A configuration over the empty one is itself. -/
@[simp] theorem empty_merged (c : TermsConfig) : empty.merged c = c :=
  ext_terms fun part => by rw [terms_merged, terms_empty, OrderedMap.empty_union]

/-- The empty configuration changes nothing that it is put over. -/
@[simp] theorem merged_empty (c : TermsConfig) : c.merged empty = c :=
  ext_terms fun part => by rw [terms_merged, terms_empty, OrderedMap.union_empty]

/-- Merging can be regrouped freely, which the library's lemmas about folds ask for. -/
instance : Std.Associative merged := ⟨merged_assoc⟩

/-! ## Any number of layers -/

/-- Layers put over each other one by one, from the lowest to the highest. It is the way in which a
program would do it, with a loop. -/
def layered (layers : List TermsConfig) : TermsConfig :=
  layers.foldl merged empty

/-- The last layer is put over all others. -/
theorem layered_concat (layers : List TermsConfig) (c : TermsConfig) :
    layered (layers ++ [c]) = (layered layers).merged c :=
  List.foldl_append

/-- The layers of two parts are put over each other like the two parts. It follows from associativity, and
the empty configuration is the unit. -/
theorem layered_append (lower upper : List TermsConfig) :
    layered (lower ++ upper) = (layered lower).merged (layered upper) :=
  calc layered (lower ++ upper)
      = upper.foldl merged (layered lower) := List.foldl_append
    _ = upper.foldl merged ((layered lower).merged empty) := by rw [merged_empty]
    _ = (layered lower).merged (layered upper) := List.foldl_assoc

/-- The terms of all layers, each at the place where it is spelled first. Induction from the highest
layer, which adds what is new in it. -/
theorem keys_layered (layers : List TermsConfig) (part : ConfigSection) :
    ((layered layers).terms part).keys =
      (layers.flatMap fun c => (c.terms part).keys).eraseDups := by
  induction layers using List.reverseRecOn with
  | nil =>
    show (empty.terms part).keys = [].eraseDups
    rw [terms_empty]
    rfl
  | append_singleton layers c ih =>
    rw [layered_concat, terms_merged, OrderedMap.keys_union_eq_eraseDups, ih,
      eraseDups_eraseDups_append, List.flatMap_append, List.flatMap_singleton]

/-- The suggestions for a term are those of the last layer that has any. The spelling counts here, as
terms in other letters are other terms until a table is made. -/
theorem get?_layered (layers : List TermsConfig) (part : ConfigSection) (term : Text) :
    ((layered layers).terms part).get? term =
      (layers.filterMap fun c => (c.terms part).get? term).getLast? := by
  induction layers using List.reverseRecOn with
  | nil =>
    show (empty.terms part).get? term = none
    rw [terms_empty]
    rfl
  | append_singleton layers c ih =>
    rw [layered_concat, terms_merged, OrderedMap.get?_union, ih, List.filterMap_append,
      List.getLast?_append]
    cases hterm : (c.terms part).get? term <;> simp [hterm]

/-- Layers above that do not spell a term leave its suggestions as they are. -/
theorem get?_layered_of_last {lower upper : List TermsConfig} {c : TermsConfig} {part : ConfigSection}
    {term : Text} (hterm : term ∈ (c.terms part).keys)
    (hupper : ∀ c' ∈ upper, term ∉ (c'.terms part).keys) :
    ((layered (lower ++ c :: upper)).terms part).get? term = (c.terms part).get? term := by
  have hnone : (upper.filterMap fun c' => (c'.terms part).get? term) = [] :=
    List.filterMap_eq_nil_iff.mpr fun c' hc' => OrderedMap.get?_eq_none_iff.mpr (hupper c' hc')
  have hlast : ((c :: upper).filterMap fun c' => (c'.terms part).get? term).getLast? =
      (c.terms part).get? term := by
    rw [List.filterMap_cons, hnone]
    cases hterm : (c.terms part).get? term <;> rfl
  -- The layers below do not matter, because there are suggestions in `c`.
  have hsome : ((c.terms part).get? term).isSome = true :=
    Option.isSome_iff_ne_none.mpr fun hnot => OrderedMap.get?_eq_none_iff.mp hnot hterm
  rw [get?_layered, List.filterMap_append, List.getLast?_append, hlast, Option.or_of_isSome hsome]

end TermsConfig

/-- The groups of a layering do not matter. Induction on the groups, where each group is two layerings one
over the other. -/
theorem Layering.merged_eq_layered (g : Layering) :
    g.mergedBy TermsConfig.merged TermsConfig.empty = TermsConfig.layered g.layers := by
  induction g with
  | none => rfl
  | layer c => exact (TermsConfig.empty_merged c).symm
  | group lower upper ihLower ihUpper =>
    show (lower.mergedBy _ _).merged (upper.mergedBy _ _) = _
    rw [ihLower, ihUpper, ← TermsConfig.layered_append]
    rfl

/-- Laying configurations over each other is associative, changes nothing when it is done twice, and has
the empty configuration for its unit. So layers can be grouped in any way. The last layer that spells a
term decides about its suggestions, and the first one about its place. -/
theorem TermsConfig.isLayering_merged : IsLayering merged empty where
  assoc := merged_assoc
  self := merged_self
  empty_under := empty_merged
  empty_over := merged_empty
  groups g g' hlayers := by rw [g.merged_eq_layered, g'.merged_eq_layered, hlayers]
  places g part := by rw [g.merged_eq_layered, keys_layered]
  suggestions g part lower upper c term hlayers hterm hupper := by
    rw [g.merged_eq_layered, hlayers]
    exact get?_layered_of_last hterm hupper

end TermAudit
