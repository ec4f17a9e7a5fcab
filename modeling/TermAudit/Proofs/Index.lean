import TermAudit.Index

/-!
# `TermAudit.Proofs.Index`: where the texts of an index come from

A finding is reported at the place of its text, so every text of an index has to bring the shape
and the trait that its place calls for:

* `TextInstance.BelongsTo i location shape`: what is found in `i` is reported at `location` for
  `shape`;
* `Model.exists_belongsTo`: every text in the index of a model belongs somewhere.

Paths are written as texts, which no integer of more than `maxDecimalDigits` digits has.
`Model.PathsWritable` says that no trait that is looked into has such an integer for a key, however
deep inside of its value. `Model.hasUnwritablePath_eq_false_iff` says that the program sees this, and
gives an index to these models alone.
-/

set_option autoImplicit false

namespace TermAudit

namespace TextInstance

/-- What is found in a text is reported at a location and for a shape: for the name of a namespace
nowhere and for no shape, for the name of a shape at the shape, and for a text in the value of a
trait at the trait, for the shape that has it. -/
inductive BelongsTo : TextInstance → Location → Option ShapeId → Prop
  | ofNamespace (ns : Text) : BelongsTo (.ofNamespace ns) .nowhere none
  | ofShape (s : Shape) : BelongsTo (.ofShape s) s.location (some s.id)
  | ofTrait (s : Shape) (t : Trait) (path : List Text) (text : Text) :
    BelongsTo (.ofTrait s t path text) t.location (some s.id)

end TextInstance

/-- What the texts of a shape are. -/
theorem Shape.mem_textInstances_iff {s : Shape} {i : TextInstance} : i ∈ s.textInstances ↔
    i = .ofShape s ∨ ∃ t ∈ s.proseTraits, ∃ e ∈ t.value.texts, i = .ofTrait s t e.1 e.2 := by
  unfold textInstances
  rw [List.mem_cons, List.mem_flatMap]
  refine or_congr_right (exists_congr fun t => and_congr_right fun _ => ?_)
  rw [List.mem_map]
  exact exists_congr fun e => and_congr_right fun _ => eq_comm

/-- What the texts in the index of a model are. -/
theorem Model.mem_textIndex {m : Model} {i : TextInstance} (h : i ∈ m.textIndex) :
    (∃ ns, i = .ofNamespace ns) ∨ ∃ s ∈ m.walk, i = .ofShape s ∨
      ∃ t ∈ s.traits, ∃ path text, i = .ofTrait s t path text := by
  unfold Model.textIndex at h
  rcases List.mem_append.mp h with h | h
  · obtain ⟨s, hs, h⟩ := List.mem_flatMap.mp h
    rcases Shape.mem_textInstances_iff.mp h with rfl | ⟨t, ht, e, -, rfl⟩
    · exact Or.inr ⟨s, hs, Or.inl rfl⟩
    · exact Or.inr ⟨s, hs, Or.inr ⟨t, (List.mem_filter.mp ht).1, e.1, e.2, rfl⟩⟩
  · obtain ⟨ns, -, rfl⟩ := List.mem_map.mp h
    exact Or.inl ⟨ns, rfl⟩

open TextInstance in
/-- Every text in the index of a model belongs somewhere. So no text of an index is malformed, and the
check of a model does not stop at one. -/
theorem Model.exists_belongsTo {m : Model} {i : TextInstance} (h : i ∈ m.textIndex) :
    ∃ location shape, BelongsTo i location shape := by
  rcases Model.mem_textIndex h with ⟨ns, rfl⟩ | ⟨s, -, rfl | ⟨t, -, path, text, rfl⟩⟩
  · exact ⟨_, _, .ofNamespace ns⟩
  · exact ⟨_, _, .ofShape s⟩
  · exact ⟨_, _, .ofTrait s t path text⟩

namespace Value

/-- Some mapping inside of a value has the key. Like the index, this looks into mappings and lists alone,
so a key in a tuple does not count: no path leads there, and it is never written. -/
inductive HasKey : Value → Scalar → Prop
  | here {entries : List (Scalar × Value)} {k : Scalar} {v : Value} (h : (k, v) ∈ entries) :
    HasKey (.mapping entries) k
  | inEntry {entries : List (Scalar × Value)} {k key : Scalar} {v : Value}
    (h : (k, v) ∈ entries) (hv : HasKey v key) : HasKey (.mapping entries) key
  | inItem {items : List Value} {v : Value} {key : Scalar} (h : v ∈ items) (hv : HasKey v key) :
    HasKey (.list items) key

/-- A key is in a list if it is in an item. -/
theorem hasKey_list_iff {items : List Value} {key : Scalar} :
    HasKey (.list items) key ↔ ∃ v ∈ items, HasKey v key := by
  constructor
  · intro h
    cases h with
    | inItem hv hkey => exact ⟨_, hv, hkey⟩
  · rintro ⟨v, hv, hkey⟩
    exact .inItem hv hkey

/-- A key is in a mapping if it is one of its own, or in a value. -/
theorem hasKey_mapping_iff {entries : List (Scalar × Value)} {key : Scalar} :
    HasKey (.mapping entries) key ↔ ∃ e ∈ entries, e.1 = key ∨ HasKey e.2 key := by
  constructor
  · intro h
    cases h with
    | here hv => exact ⟨_, hv, Or.inl rfl⟩
    | inEntry hv hkey => exact ⟨_, hv, Or.inr hkey⟩
  · rintro ⟨⟨k, v⟩, he, rfl | hkey⟩
    · exact .here he
    · exact .inEntry he hkey

mutual

/-- The test for overlong keys sees all of them. -/
theorem hasOverlongKey_iff :
    ∀ v : Value, v.hasOverlongKey = true ↔ ∃ k, v.HasKey k ∧ k.isOverlong = true
  | .list items => by
    rw [hasOverlongKey, anyOverlongKey_iff items]
    constructor
    · rintro ⟨v, hv, k, hkey, hk⟩
      exact ⟨k, .inItem hv hkey, hk⟩
    · rintro ⟨k, hkey, hk⟩
      obtain ⟨v, hv, hkey⟩ := hasKey_list_iff.mp hkey
      exact ⟨v, hv, k, hkey, hk⟩
  | .mapping entries => by
    rw [hasOverlongKey, anyOverlongEntry_iff entries]
    constructor
    · rintro ⟨e, he, k, hkey, hk⟩
      exact ⟨k, hasKey_mapping_iff.mpr ⟨e, he, hkey⟩, hk⟩
    · rintro ⟨k, hkey, hk⟩
      obtain ⟨e, he, hkey⟩ := hasKey_mapping_iff.mp hkey
      exact ⟨e, he, k, hkey, hk⟩
  | .scalar _ | .tuple _ | .set _ => by
    constructor
    · intro h
      cases h
    · rintro ⟨k, h, -⟩
      cases h

/-- The same for the items of a list. -/
theorem anyOverlongKey_iff :
    ∀ items : List Value, anyOverlongKey items = true ↔
      ∃ v ∈ items, ∃ k, v.HasKey k ∧ k.isOverlong = true
  | [] => by simp [anyOverlongKey]
  | v :: rest => by
    rw [anyOverlongKey, Bool.or_eq_true, hasOverlongKey_iff v, anyOverlongKey_iff rest]
    simp only [List.mem_cons, exists_eq_or_imp]

/-- The same for the entries of a mapping. -/
theorem anyOverlongEntry_iff :
    ∀ entries : List (Scalar × Value), anyOverlongEntry entries = true ↔
      ∃ e ∈ entries, ∃ k, (e.1 = k ∨ e.2.HasKey k) ∧ k.isOverlong = true
  | [] => by simp [anyOverlongEntry]
  | (key, v) :: rest => by
    rw [anyOverlongEntry, Bool.or_eq_true, Bool.or_eq_true, hasOverlongKey_iff v,
      anyOverlongEntry_iff rest]
    simp only [List.mem_cons, or_and_right, exists_or, exists_eq_left, exists_eq_left']

end

end Value

/-- An overlong scalar is an integer that is too long to be written. -/
theorem Scalar.isOverlong_iff {s : Scalar} :
    s.isOverlong = true ↔ ∃ n, s = .int n ∧ Nat.pow 10 maxDecimalDigits ≤ n.natAbs := by
  cases s <;> simp [Scalar.isOverlong, TermAudit.isOverlong]

namespace Model

/-- Every key on a path into a trait that is looked into can be written. Only integers can fail here, as
all other keys have a written form. References are not looked into, so their values do not matter. -/
def PathsWritable (m : Model) : Prop :=
  ∀ s ∈ m.walk, ∀ t ∈ s.proseTraits, ∀ n : Int, t.value.HasKey (.int n) →
    n.natAbs < Nat.pow 10 maxDecimalDigits

/-- The test for paths that cannot be written finds none exactly if all can be. The test goes through the
values of a model as the index does, and stops at the first integer that is too long. -/
theorem hasUnwritablePath_eq_false_iff {m : Model} :
    m.hasUnwritablePath = false ↔ m.PathsWritable := by
  unfold hasUnwritablePath PathsWritable
  simp only [← Bool.not_eq_true, List.any_eq_true, not_exists, not_and,
    Value.hasOverlongKey_iff, Scalar.isOverlong_iff]
  constructor
  · intro h s hs t ht n hkey
    have hnot := h s hs t ht (.int n) hkey n rfl
    omega
  · rintro h s hs t ht k hkey n rfl hn
    have hlt := h s hs t ht n hkey
    omega

/-- Where all paths can be written, the index is the list of texts. -/
theorem index?_of_pathsWritable {m : Model} (h : m.PathsWritable) : m.index? = some m.textIndex := by
  rw [index?, hasUnwritablePath_eq_false_iff.mpr h, if_neg Bool.false_ne_true]

/-- A path that cannot be written leaves the model without an index. -/
theorem index?_of_hasUnwritablePath {m : Model} (h : m.hasUnwritablePath = true) : m.index? = none :=
  if_pos h

/-- Where there is an index, all paths can be written. -/
theorem pathsWritable_of_index? {m : Model} {index : List TextInstance} (h : m.index? = some index) :
    m.PathsWritable := by
  refine hasUnwritablePath_eq_false_iff.mp (Bool.eq_false_iff.mpr fun hpath => ?_)
  rw [index?_of_hasUnwritablePath hpath] at h
  cases h

end Model

end TermAudit
