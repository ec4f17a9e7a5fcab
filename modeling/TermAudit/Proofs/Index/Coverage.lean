import TermAudit.Model.Reader
import TermAudit.Proofs.Index
import TermAudit.Proofs.Index.Leaves
import TermAudit.Proofs.Result

/-!
# `TermAudit.Proofs.Index.Coverage`: which texts inside of a trait are found

The value of a trait can hold texts in four ways: in lists, as values of mappings, in tuples and in
sets (`Value.Holds`). The index looks into lists and mappings alone:

* `Value.exists_mem_texts_iff`: the texts of a value in the index are those in lists and mappings;
* `Model.covers_iff`: there is an index, and all texts in the value of a trait are in it, exactly if all
  paths can be written and the texts in tuples and sets of the value are also somewhere else in it;
* `Model.misses_pair`: a document whose trait has a text in a tuple alone.
-/

set_option autoImplicit false

namespace TermAudit

namespace Value

/-! ## Texts in values -/

/-- The text is a value somewhere inside of the value. Keys are no values, neither those of a mapping nor
what comes first in a tuple: an ordered mapping is made as a list of tuples, whose first items are its
keys. -/
inductive Holds : Value → Text → Prop
  | here (t : Text) : Holds (.scalar (.text t)) t
  | inItem {items : List Value} {v : Value} {t : Text} (h : v ∈ items) (hv : Holds v t) :
    Holds (.list items) t
  | inEntry {entries : List (Scalar × Value)} {k : Scalar} {v : Value} {t : Text}
    (h : (k, v) ∈ entries) (hv : Holds v t) : Holds (.mapping entries) t
  | inTuple {key v : Value} {rest : List Value} {t : Text} (h : v ∈ rest) (hv : Holds v t) :
    Holds (.tuple (key :: rest)) t
  | inSet {elements : List Scalar} {t : Text} (h : .text t ∈ elements) : Holds (.set elements) t

/-- The text is a value in lists and mappings, outside of all tuples and sets. These are the texts that
the index comes to (`exists_mem_texts_iff`). -/
inductive Shows : Value → Text → Prop
  | here (t : Text) : Shows (.scalar (.text t)) t
  | inItem {items : List Value} {v : Value} {t : Text} (h : v ∈ items) (hv : Shows v t) :
    Shows (.list items) t
  | inEntry {entries : List (Scalar × Value)} {k : Scalar} {v : Value} {t : Text}
    (h : (k, v) ∈ entries) (hv : Shows v t) : Shows (.mapping entries) t

/-- The text is a value in some tuple or set. What is held is shown or hidden, and it can be both, if the
same text stands in two places. -/
inductive Hides : Value → Text → Prop
  | inItem {items : List Value} {v : Value} {t : Text} (h : v ∈ items) (hv : Hides v t) :
    Hides (.list items) t
  | inEntry {entries : List (Scalar × Value)} {k : Scalar} {v : Value} {t : Text}
    (h : (k, v) ∈ entries) (hv : Hides v t) : Hides (.mapping entries) t
  | inTuple {key v : Value} {rest : List Value} {t : Text} (h : v ∈ rest) (hv : Holds v t) :
    Hides (.tuple (key :: rest)) t
  | inSet {elements : List Scalar} {t : Text} (h : .text t ∈ elements) : Hides (.set elements) t

/-- A text in the open is in the value. -/
theorem Shows.holds {v : Value} {t : Text} (h : v.Shows t) : v.Holds t := by
  induction h with
  | here t => exact .here t
  | inItem hmem _ ih => exact .inItem hmem ih
  | inEntry hmem _ ih => exact .inEntry hmem ih

/-- So is one that is hidden in a tuple or a set. -/
theorem Hides.holds {v : Value} {t : Text} (h : v.Hides t) : v.Holds t := by
  induction h with
  | inItem hmem _ ih => exact .inItem hmem ih
  | inEntry hmem _ ih => exact .inEntry hmem ih
  | inTuple hmem hv => exact .inTuple hmem hv
  | inSet hmem => exact .inSet hmem

/-- A text in a value is in the open, or in a tuple or a set. -/
theorem Holds.shows_or_hides {v : Value} {t : Text} (h : v.Holds t) : v.Shows t ∨ v.Hides t := by
  induction h with
  | here t => exact Or.inl (.here t)
  | inItem hmem _ ih => exact ih.imp (.inItem hmem) (.inItem hmem)
  | inEntry hmem _ ih => exact ih.imp (.inEntry hmem) (.inEntry hmem)
  | inTuple hmem hv _ => exact Or.inr (.inTuple hmem hv)
  | inSet hmem => exact Or.inr (.inSet hmem)

/-! ## Texts with their paths -/

/-- A text in the open is one to which a path leads. -/
theorem shows_iff_exists_leaf {v : Value} {t : Text} : v.Shows t ↔ ∃ l, v.HasLeaf l ∧ l.text = t := by
  constructor
  · intro h
    -- Whatever is in a list has an index there, which is the next step of the path.
    induction h with
    | here t => exact ⟨_, .here t, rfl⟩
    | inItem hmem _ ih =>
      obtain ⟨l, hl, rfl⟩ := ih
      obtain ⟨n, hn⟩ := List.getElem?_of_mem hmem
      exact ⟨_, .inItem hn hl, rfl⟩
    | inEntry hmem _ ih =>
      obtain ⟨l, hl, rfl⟩ := ih
      obtain ⟨n, hn⟩ := List.getElem?_of_mem hmem
      exact ⟨_, .inEntry hn hl, rfl⟩
  · rintro ⟨l, hl, rfl⟩
    induction hl with
    | here t => exact .here t
    | inItem hn _ ih => exact .inItem (List.mem_of_getElem? hn) ih
    | inEntry hn _ ih => exact .inEntry (List.mem_of_getElem? hn) ih

/-- The texts that are listed are those in the open. Whether a text is also somewhere in a tuple or a set
makes no difference. -/
theorem exists_mem_texts_iff {v : Value} {t : Text} :
    (∃ path, (path, t) ∈ v.texts) ↔ v.Shows t := by
  rw [shows_iff_exists_leaf, texts_eq]
  constructor
  · rintro ⟨path, hmem⟩
    obtain ⟨l, hl, heq⟩ := List.mem_map.mp hmem
    cases heq
    exact ⟨l, (mem_leaves_iff v l).mp hl, rfl⟩
  · rintro ⟨l, hl, rfl⟩
    exact ⟨l.path, List.mem_map.mpr ⟨l, (mem_leaves_iff v l).mpr hl, rfl⟩⟩

end Value

namespace Model

variable {m : Model} {s : Shape} {t : Trait}

/-- A text in the index for a trait is a text of its value. -/
theorem ofTrait_mem_textIndex_iff (hs : s ∈ m.walk) (ht : t ∈ s.traits)
    (hprose : t.isReference = false) {path : List Text} {x : Text} :
    TextInstance.ofTrait s t path x ∈ m.textIndex ↔ (path, x) ∈ t.value.texts := by
  unfold textIndex
  rw [List.mem_append, List.mem_flatMap, List.mem_map]
  constructor
  · rintro (⟨s', -, h⟩ | ⟨ns, -, h⟩)
    · rcases Shape.mem_textInstances_iff.mp h with h | ⟨t', -, e, he, h⟩
      · cases h
      · cases h
        exact he
    · cases h
  · intro h
    have hmem : t ∈ s.proseTraits := List.mem_filter.mpr ⟨ht, by rw [hprose]; rfl⟩
    exact Or.inl ⟨s, hs, Shape.mem_textInstances_iff.mpr (Or.inr ⟨t, hmem, (path, x), h, rfl⟩)⟩

/-- The model has an index, and every text in the value of a trait is in it, exactly if all paths of the
model can be written and every text in a tuple or a set of the value is also outside of tuples and sets. The
index looks into lists and mappings alone. Tuples and sets come into a value by tags, as ordered mappings,
lists of pairs and sets. -/
theorem covers_iff (hs : s ∈ m.walk) (ht : t ∈ s.traits) (hprose : t.isReference = false) :
    (∃ index, m.index? = some index ∧
        ∀ x, t.value.Holds x → ∃ path, TextInstance.ofTrait s t path x ∈ index) ↔
      m.PathsWritable ∧ ∀ x, t.value.Hides x → t.value.Shows x := by
  have hcovers : (∀ x, t.value.Holds x → ∃ path, TextInstance.ofTrait s t path x ∈ m.textIndex) ↔
      ∀ x, t.value.Hides x → t.value.Shows x := by
    simp only [ofTrait_mem_textIndex_iff hs ht hprose, Value.exists_mem_texts_iff]
    constructor
    · intro h x hx
      exact h x hx.holds
    · intro h x hx
      exact hx.shows_or_hides.elim id (h x)
  constructor
  · rintro ⟨index, hindex, h⟩
    have hpaths := pathsWritable_of_index? hindex
    -- The index of a model with writable paths is the list of its text instances.
    obtain rfl : m.textIndex = index := by
      rw [index?_of_pathsWritable hpaths] at hindex
      exact Option.some.inj hindex
    exact ⟨hpaths, hcovers.mp h⟩
  · rintro ⟨hpaths, h⟩
    exact ⟨m.textIndex, index?_of_pathsWritable hpaths, hcovers.mpr h⟩

/-- A shape with one trait, whose value holds a text in a list and the same one in a set. Nothing is
missed there, although there is a set. -/
def listedShape : Shape :=
  let value : Value := .list [.scalar (.text "main"), .set [.text "main"]]
  ⟨⟨"a", "B", none⟩, .string, [⟨⟨"c", "d", none⟩, value, .nowhere⟩], [], .nowhere, none⟩

/-- The theorem at a model with this shape. -/
theorem covers_iff_listedShape :
    ∃ t, listedShape ∈ (Model.mk [listedShape] []).walk ∧ t ∈ listedShape.traits ∧
      t.isReference = false ∧
      ((∃ index, (Model.mk [listedShape] []).index? = some index ∧ ∀ x, t.value.Holds x →
          ∃ path, TextInstance.ofTrait listedShape t path x ∈ index) ↔
        (Model.mk [listedShape] []).PathsWritable ∧ ∀ x, t.value.Hides x → t.value.Shows x) := by
  have hs : listedShape ∈ (Model.mk [listedShape] []).walk := List.mem_cons_self
  exact ⟨_, hs, List.mem_cons_self, by decide, covers_iff hs List.mem_cons_self (by decide)⟩

/-- A document with a trait whose value is a list of one tuple. It is written as an ordered mapping, and
each entry of such a mapping is made as a tuple of two. -/
def pairText : Text :=
  "shapes:
  a#B:
    type: string
    traits:
      c#d: !!omap [lead: master]
"

/-- Whether the value is a list of one tuple of two, the second of which is the text. It is a check that
computes, to find the value in the model that was read. -/
def isListedPair (x : Text) : Value → Bool
  | .list [.tuple [_, .scalar (.text t)]] => t == x
  | _ => false

/-- The test finds lists of one tuple of two, and nothing else. -/
theorem eq_of_isListedPair {x : Text} {v : Value} (h : isListedPair x v = true) :
    ∃ first, v = .list [.tuple [first, .scalar (.text x)]] := by
  unfold isListedPair at h
  split at h
  · rename_i first t
    obtain rfl : t = x := by simpa using h
    exact ⟨first, rfl⟩
  · cases h

/-- The second item of the tuple is a text in the value of the trait, and is not in the index. -/
theorem misses_pair :
    ∃ m index s t, ofText "m.yaml" pairText = .ok m ∧ m.index? = some index ∧ s ∈ m.walk ∧
      t ∈ s.traits ∧ t.isReference = false ∧ t.value.Holds "master" ∧
      ∀ path, TextInstance.ofTrait s t path "master" ∉ index := by
  have hread : (ofText "m.yaml" pairText).toOption.any (fun m => !m.hasUnwritablePath &&
      m.walk.any fun s => s.traits.any fun t => !t.isReference && isListedPair "master" t.value) = true := by
    decide +kernel
  obtain ⟨m, hok, hall⟩ := exists_ok_of_toOption_any hread
  rw [Bool.and_eq_true, Bool.not_eq_true'] at hall
  obtain ⟨hpath, hany⟩ := hall
  have hindex := index?_of_pathsWritable (hasUnwritablePath_eq_false_iff.mp hpath)
  obtain ⟨s, hs, hany⟩ := List.any_eq_true.mp hany
  obtain ⟨t, ht, hpair⟩ := List.any_eq_true.mp hany
  rw [Bool.and_eq_true, Bool.not_eq_true'] at hpair
  obtain ⟨hprose, hpair⟩ := hpair
  obtain ⟨first, hvalue⟩ := eq_of_isListedPair hpair
  refine ⟨m, _, s, t, hok, hindex, hs, ht, hprose, ?_, ?_⟩
  · rw [hvalue]
    exact .inItem List.mem_cons_self (.inTuple List.mem_cons_self (.here _))
  · intro path hmem
    have hshows := Value.exists_mem_texts_iff.mp
      ⟨path, (ofTrait_mem_textIndex_iff hs ht hprose).mp hmem⟩
    -- Neither a list nor a mapping leads into the tuple.
    rw [hvalue] at hshows
    cases hshows with
    | inItem hitem hshows =>
      cases List.mem_singleton.mp hitem
      cases hshows

end Model

end TermAudit
