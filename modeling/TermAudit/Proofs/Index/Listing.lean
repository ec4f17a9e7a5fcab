import Mathlib.Data.List.Forall2
import Mathlib.Data.Set.Card
import TermAudit.Model.Reader
import TermAudit.Proofs.Index
import TermAudit.Proofs.Index.Leaves
import TermAudit.Proofs.Result

/-!
# `TermAudit.Proofs.Index.Listing`: what the index of a model lists, and in which order

The index of a model is put together from blocks. `Trait.Lists`, `Shape.Lists` and `Model.Lists` say
what the block of a trait, of a shape and of the whole model is: a trait has one instance for each leaf
of its value, a shape its name and then the blocks of its traits, and a model the blocks of its shapes
and then each namespace once.

* `Model.lists_iff`: there is one such list, the one that the program puts together;
* `Model.Lists.length_eq`: the number of its instances;
* `Model.index_lists_iff`: the index of a model is this list if every path in the model can be written,
  and there is no index otherwise. The paths of a trait lead back to its texts.
-/

set_option autoImplicit false

namespace TermAudit

/-- The instances of a trait of the shape: one for each leaf of its value, in the order of the document.
An instance keeps the shape and the trait, so what is found in it can be located. -/
def Trait.Lists (s : Shape) (t : Trait) (block : List TextInstance) : Prop :=
  ∃ leaves, t.value.LeafList leaves ∧ block = leaves.map fun l => .ofTrait s t l.path l.text

/-- The instances of a shape: its name, and then those of each trait that is no reference. The value of a
reference is an id, and no prose. -/
def Shape.Lists (s : Shape) (block : List TextInstance) : Prop :=
  ∃ blocks, List.Forall₂ (Trait.Lists s) (s.traits.filter fun t => !t.isReference) blocks ∧
    block = .ofShape s :: blocks.flatten

/-- The instances of a model: those of each shape and member, and then one for each namespace in the order
in which they first occur. Namespaces come last, as they belong to no shape in particular. -/
def Model.Lists (m : Model) (index : List TextInstance) : Prop :=
  ∃ blocks, List.Forall₂ Shape.Lists m.walk blocks ∧
    index = blocks.flatten ++ ((m.walk.map (·.id.ns)).eraseDups).map .ofNamespace

/-- If each block can only be one, so can be the list of all. -/
theorem forall₂_iff_eq_map {α β : Type} {R : α → β → Prop} {f : α → β} (h : ∀ a b, R a b ↔ b = f a)
    {as : List α} {bs : List β} : List.Forall₂ R as bs ↔ bs = as.map f := by
  have hR : R = fun a b => f a = b := by
    funext a b
    exact propext ((h a b).trans eq_comm)
  rw [hR, ← List.forall₂_map_left_iff, List.forall₂_eq_eq_eq, eq_comm]

/-- The block of a trait can only be the one that the index makes for it. -/
theorem Trait.lists_iff {s : Shape} {t : Trait} {block : List TextInstance} :
    Trait.Lists s t block ↔ block = t.value.texts.map fun (path, text) => .ofTrait s t path text := by
  unfold Trait.Lists
  simp only [Value.leafList_iff, exists_eq_left, Value.texts_eq, List.map_map, Function.comp_def]

/-- The block of a shape can only be the one that the index makes for it. -/
theorem Shape.lists_iff {s : Shape} {block : List TextInstance} :
    s.Lists block ↔ block = s.textInstances := by
  unfold Shape.Lists Shape.textInstances Shape.proseTraits
  simp only [forall₂_iff_eq_map (fun t block => @Trait.lists_iff s t block),
    exists_eq_left, List.flatMap_def]

namespace Model

variable {m : Model} {index : List TextInstance}

/-- The namespaces of shapes are collected as they first occur. -/
theorem namespacesOf_eq (shapes : List Shape) :
    namespacesOf shapes = (shapes.map (·.id.ns)).eraseDups := by
  unfold namespacesOf
  rw [foldl_addNew_eq]
  simp

/-- Of shapes in two lists the namespaces of the first list come first, and then the new ones of the
second. -/
theorem namespacesOf_append (xs ys : List Shape) :
    namespacesOf (xs ++ ys) = namespacesOf xs ++
      (namespacesOf ys).filter fun ns => decide (ns ∉ xs.map (·.id.ns)) := by
  have hnew : (ys.map (·.id.ns)).removeAll (xs.map (·.id.ns)) =
      (ys.map (·.id.ns)).filter fun ns => decide (ns ∉ xs.map (·.id.ns)) :=
    List.filter_congr fun ns _ => by simp only [List.elem_eq_mem, decide_not]
  rw [namespacesOf_eq, namespacesOf_eq, namespacesOf_eq, List.map_append, List.eraseDups_append, hnew,
    filter_eraseDups]

/-- The texts of a model can be listed in one way only, which is the one of the index. The blocks of
shapes and traits are determined, and so is their order. -/
theorem lists_iff : m.Lists index ↔ index = m.textIndex := by
  unfold Lists textIndex
  -- The blocks of shapes are one for each shape in the walk, and so their list is determined.
  rw [namespacesOf_eq]
  simp only [forall₂_iff_eq_map (fun s block => @Shape.lists_iff s block),
    exists_eq_left, List.flatMap_def]

end Model

/-! ## The number of instances -/

/-- A list without repetitions is as long as there are elements. -/
theorem length_eq_ncard {α : Type} {l : List α} {S : Set α} (hl : l.Nodup) (hS : ∀ a, a ∈ l ↔ a ∈ S) :
    l.length = S.ncard := by
  classical
  have hcoe : (l.toFinset : Set α) = S := by
    ext a
    rw [List.coe_toFinset, Set.mem_ofPred_eq, hS a]
  rw [← hcoe, Set.ncard_coe_finset, List.toFinset_card_of_nodup hl]

/-- The number of texts inside of a value, as the size of the set of its leaves. It is said without any
order, so the counts do not depend on how the index goes through the model. -/
noncomputable def Value.leafCount (v : Value) : Nat :=
  {l | v.HasLeaf l}.ncard

/-- The number of texts inside of the traits of a shape that are no references. Members are counted for
themselves. -/
noncomputable def Shape.leafCount (s : Shape) : Nat :=
  ((s.traits.filter fun t => !t.isReference).map fun t => t.value.leafCount).sum

namespace Model

/-- The number of texts inside of traits that are no references, over all shapes and members. -/
noncomputable def leafCount (m : Model) : Nat :=
  (m.walk.map Shape.leafCount).sum

/-- The number of namespaces of shapes and members. Each is counted once, however many shapes are in
it. -/
noncomputable def namespaceCount (m : Model) : Nat :=
  {ns | ∃ s ∈ m.walk, s.id.ns = ns}.ncard

end Model

/-- A value has as many texts in the index as it has leaves. -/
theorem Value.length_texts (v : Value) : v.texts.length = v.leafCount := by
  have hleaves : v.LeafList v.leaves := Value.leafList_iff.mpr rfl
  rw [texts_eq, List.length_map, leafCount]
  exact length_eq_ncard hleaves.nodup hleaves.mem_iff

/-- A shape has one text for its name and one for each leaf in its traits. -/
theorem Shape.length_textInstances (s : Shape) : s.textInstances.length = 1 + s.leafCount := by
  unfold textInstances leafCount proseTraits
  simp only [List.length_cons, List.length_flatMap, List.length_map, Value.length_texts]
  rw [Nat.add_comm]

namespace Model

variable {m : Model} {index : List TextInstance}

/-- Each namespace is there once. -/
theorem length_namespacesOf_walk (m : Model) : (namespacesOf m.walk).length = m.namespaceCount := by
  rw [namespacesOf_eq]
  refine length_eq_ncard (nodup_eraseDups _) fun ns => ?_
  rw [List.mem_eraseDups, List.mem_map, Set.mem_ofPred_eq]

/-- There is a text for each shape and member, for each leaf, and for each namespace. The number is told
from the model alone, without the index. -/
theorem Lists.length_eq (h : m.Lists index) :
    index.length = m.walk.length + m.leafCount + m.namespaceCount := by
  -- A shape has one instance for its name and one for each leaf, and the names make the walk.
  rw [lists_iff.mp h, textIndex, List.length_append, List.length_flatMap, List.length_map,
    length_namespacesOf_walk, leafCount]
  simp only [Shape.length_textInstances, List.sum_map_add, List.map_const', List.sum_replicate_nat]
  omega

/-! ## The index -/

/-- The index of a model lists its texts in order exactly if every path in the model can be written. It has
as many texts as there are shapes, leaves and namespaces. Where the keys of mappings are texts, the paths
tell the texts of a trait apart and lead to them; of other keys two can look the same in writing. -/
theorem index_lists_iff (m : Model) :
    ((∃ index, m.index? = some index ∧ m.Lists index ∧
        index.length = m.walk.length + m.leafCount + m.namespaceCount) ↔ m.PathsWritable) ∧
      ∀ s ∈ m.walk, ∀ t ∈ s.traits, t.value.KeysDiffer → t.value.HasTextKeys →
        t.value.PathsLeadBack := by
  refine ⟨⟨?_, fun h => ?_⟩, fun s _ t _ hdiffer htexts => Value.pathsLeadBack hdiffer htexts⟩
  · rintro ⟨index, hindex, -, -⟩
    exact pathsWritable_of_index? hindex
  · have hlists : m.Lists m.textIndex := lists_iff.mpr rfl
    exact ⟨m.textIndex, index?_of_pathsWritable h, hlists, hlists.length_eq⟩

/-- A document with a trait whose value has an integer of 4335 digits for a key. It is written with
hexadecimal digits, which can be read in any number, while only so many decimal digits can be written. -/
def longKeyText : Text :=
  ("shapes:\n a#B:\n  type: blob\n  traits:\n   c#d:\n    ? 0x" : Text)
    ++ List.replicate 3600 (CodePoint.ofChar 'F') ++ ("\n    : x\n" : Text)

/-- The document is read, and it has a path with a step that is too long to be written. -/
theorem exists_ofText_longKeyText :
    ∃ m, ofText "m.yaml" longKeyText = .ok m ∧ m.hasUnwritablePath = true := by
  have hread : (ofText "m.yaml" longKeyText).toOption.any hasUnwritablePath = true := by
    decide +kernel
  exact exists_ok_of_toOption_any hread

/-- There is a list of the texts in the model, but no index, because one step of a path cannot be
written. -/
theorem no_index_longKeyText : ∃ m index, ofText "m.yaml" longKeyText = .ok m ∧ m.Lists index ∧
    m.index? = none := by
  obtain ⟨m, hok, hpath⟩ := exists_ofText_longKeyText
  exact ⟨m, m.textIndex, hok, lists_iff.mpr rfl, index?_of_hasUnwritablePath hpath⟩

end Model

end TermAudit
