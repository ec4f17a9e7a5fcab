import TermAudit.Model.Shape
import TermAudit.Proofs.Swapped

/-!
# `TermAudit.Proofs.Alike`: values and models that are equal but for order

The program keeps mappings and sets in the order in which their keys and elements came, and compares them
without regard to it. `Value.Alike` says that two values are equal in this sense, and `Model.Alike` that two
models are: they have the same shapes with the same members and traits, in the same order, and the values of
traits and the metadata are alike.

`Model.Related` leaves open how values compare. With equality it is equality (`Model.eq_of_related`).
-/

set_option autoImplicit false

namespace TermAudit

/-- Where each element that a list was made to gives a partner that is made to the same item, the partners
make a list. -/
theorem exists_forall₂_of_mem {α β γ : Type} {Q : α → β → Prop} {Q' : α → γ → Prop} {R : β → γ → Prop}
    {l : List α} {bs : List β} (h : List.Forall₂ Q l bs)
    (hex : ∀ a ∈ l, ∀ b, Q a b → ∃ c, Q' a c ∧ R b c) :
    ∃ cs, List.Forall₂ Q' l cs ∧ List.Forall₂ R bs cs := by
  induction h with
  | nil => exact ⟨[], .nil, .nil⟩
  | @cons a b l bs hab _ ih =>
    obtain ⟨c, hc, hbc⟩ := hex a List.mem_cons_self b hab
    obtain ⟨cs, hcs, hbcs⟩ := ih fun a' ha' => hex a' (List.mem_cons_of_mem _ ha')
    exact ⟨c :: cs, .cons hc hcs, .cons hbc hbcs⟩

/-! ## Values -/

/-- The two values differ at most in the order of the keys in mappings and of the elements of sets. The
order of a list or a tuple is part of it and stays. Two mappings are alike if one of them can be brought
into the order of the other so that the values of its keys are alike. -/
inductive Value.Alike : Value → Value → Prop
  | scalar (s : Scalar) : Alike (.scalar s) (.scalar s)
  | list {items items' : List Value} (h : List.Forall₂ Alike items items') :
    Alike (.list items) (.list items')
  | tuple {items items' : List Value} (h : List.Forall₂ Alike items items') :
    Alike (.tuple items) (.tuple items')
  | set {elements elements' : List Scalar} (h : elements.Perm elements') :
    Alike (.set elements) (.set elements')
  | mapping {entries entries' between : List (Scalar × Value)}
    (hkeys : between.map Prod.fst = entries.map Prod.fst)
    (hvalues : List.Forall₂ Alike (entries.map Prod.snd) (between.map Prod.snd))
    (h : between.Perm entries') : Alike (.mapping entries) (.mapping entries')

namespace Value

mutual

/-- Every value is like itself. -/
theorem Alike.refl : (v : Value) → v.Alike v
  | .scalar s => .scalar s
  | .list items => .list (alike_items items)
  | .tuple items => .tuple (alike_items items)
  | .set elements => .set (.refl elements)
  | .mapping entries => .mapping rfl (alike_entries entries) (.refl entries)

/-- So is each item of a list. -/
theorem alike_items : (items : List Value) → List.Forall₂ Alike items items
  | [] => .nil
  | v :: items => .cons (Alike.refl v) (alike_items items)

/-- So is the value of each entry. -/
theorem alike_entries : (entries : List (Scalar × Value)) →
    List.Forall₂ Alike (entries.map Prod.snd) (entries.map Prod.snd)
  | [] => .nil
  | (_, v) :: entries => .cons (Alike.refl v) (alike_entries entries)

end

/-- What is like a mapping is one. -/
theorem Alike.exists_mapping {entries : List (Scalar × Value)} {v : Value}
    (h : Alike (.mapping entries) v) : ∃ entries', v = .mapping entries' := by
  cases h with
  | mapping _ _ _ => exact ⟨_, rfl⟩

/-! ## Entries that are put in another order -/

/-- The keys of the two entries are different texts. This is what makes it safe to put them in either
order: keys that are numbers can be the same key without being written alike, and then the last value
counts. -/
def DifferentTexts (e e' : Scalar × Value) : Prop :=
  ∃ s t, e.1 = .text s ∧ e'.1 = .text t ∧ s ≠ t

variable {k : Scalar} {s t : Text} {entries entries' made made' : List (Scalar × Value)}
  {e e' : Scalar × Value}

/-- Only a text is the same key as a text. -/
theorem sameKey_text_iff : k.sameKey (.text t) = true ↔ k = .text t := by
  cases k <;> simp [Scalar.sameKey]

/-- A text is the same key as itself alone. -/
theorem text_sameKey_iff : Scalar.sameKey (.text t) k = true ↔ k = .text t := by
  cases k <;> simp only [Scalar.sameKey, beq_iff_eq, Scalar.text.injEq, Bool.false_eq_true, reduceCtorEq]
  exact eq_comm

/-- Different texts are different keys. -/
theorem sameKey_of_ne (h : s ≠ t) : Scalar.sameKey (.text s) (.text t) = false :=
  Bool.eq_false_iff.mpr fun hsame => h (Scalar.text.inj (sameKey_text_iff.mp hsame))

/-- Two entries with different texts can be put in either order. -/
theorem swapped_put_put (h : DifferentTexts e e') (entries : List (Scalar × Value)) :
    Swapped DifferentTexts (putEntry (putEntry entries e.1 e.2) e'.1 e'.2)
      (putEntry (putEntry entries e'.1 e'.2) e.1 e.2) := by
  obtain ⟨_, v⟩ := e
  obtain ⟨_, v'⟩ := e'
  obtain ⟨s, t, rfl, rfl, hne⟩ := h
  have hst := sameKey_of_ne hne
  have hts := sameKey_of_ne hne.symm
  unfold putEntry
  induction entries with
  | nil =>
    simp only [Entries.put, hst, hts, Bool.false_eq_true, if_false]
    exact .swap ⟨s, t, rfl, rfl, hne⟩ []
  | cons first entries ih =>
    obtain ⟨key, value⟩ := first
    -- The first entry may have one of the two keys, but not both.
    by_cases hs : key.sameKey (.text s) = true
    · obtain rfl := sameKey_text_iff.mp hs
      simp only [Entries.put, hs, hst, if_true, Bool.false_eq_true, if_false]
      exact .refl _
    by_cases ht : key.sameKey (.text t) = true
    · obtain rfl := sameKey_text_iff.mp ht
      simp only [Entries.put, ht, hts, if_true, Bool.false_eq_true, if_false]
      exact .refl _
    simp only [Entries.put, hs, ht, Bool.false_eq_true, if_false]
    exact .cons _ ih

/-- An entry that is put takes the place of one of two neighbours with different texts at most, so swapped
lists stay swapped. It is the step of the argument that mappings filled in another order are alike. -/
theorem swapped_putEntry (h : Swapped DifferentTexts entries entries') (k : Scalar) (v : Value) :
    Swapped DifferentTexts (putEntry entries k v) (putEntry entries' k v) := by
  unfold putEntry
  induction h with
  | nil => exact .refl _
  | cons e h ih =>
    unfold Entries.put
    split
    · exact .cons _ h
    · exact .cons _ ih
  | @swap e e' hdiffer entries =>
    obtain ⟨_, value⟩ := e
    obtain ⟨_, value'⟩ := e'
    obtain ⟨s, t, rfl, rfl, hne⟩ := hdiffer
    -- The new entry takes the place of the first one, or of the second one, or it is put behind both.
    by_cases hs : Scalar.sameKey (.text s) k = true
    · obtain rfl := text_sameKey_iff.mp hs
      simp only [Entries.put, hs, sameKey_of_ne hne.symm, if_true, Bool.false_eq_true, if_false]
      exact .swap ⟨s, t, rfl, rfl, hne⟩ _
    by_cases ht : Scalar.sameKey (.text t) k = true
    · simp only [Entries.put, hs, ht, if_true, Bool.false_eq_true, if_false]
      exact .swap ⟨s, t, rfl, rfl, hne⟩ _
    simp only [Entries.put, hs, ht, Bool.false_eq_true, if_false]
    exact .swap ⟨s, t, rfl, rfl, hne⟩ _
  | trans _ _ ih ih' => exact ih.trans ih'

/-- The entries of a mapping, after more have been put one after the other. This is how the constructor
fills a mapping, so a key that comes again keeps its place and gets the later value. -/
def putEntries (entries made : List (Scalar × Value)) : List (Scalar × Value) :=
  made.foldl (fun entries e => putEntry entries e.1 e.2) entries

/-- Swapped lists stay swapped if the same entries are put. -/
theorem swapped_putEntries_left (h : Swapped DifferentTexts entries entries')
    (made : List (Scalar × Value)) :
    Swapped DifferentTexts (putEntries entries made) (putEntries entries' made) := by
  unfold putEntries
  induction made generalizing entries entries' with
  | nil => exact h
  | cons e made ih => exact ih (swapped_putEntry h e.1 e.2)

/-- Neighbours with different texts can be put in either order. -/
theorem swapped_putEntries (h : Swapped DifferentTexts made made') (entries : List (Scalar × Value)) :
    Swapped DifferentTexts (putEntries entries made) (putEntries entries made') := by
  induction h generalizing entries with
  | nil => exact .refl _
  | cons e _ ih => exact ih _
  | swap hdiffer made => exact swapped_putEntries_left (swapped_put_put hdiffer entries) made
  | trans _ _ ih ih' => exact (ih entries).trans (ih' entries)

/-- The entries have the same keys in the same order, and values that are alike. It is what remains to be
compared of two mappings after their entries have been brought into one order. -/
def SameKeys (entries entries' : List (Scalar × Value)) : Prop :=
  List.Forall₂ (fun e e' => e'.1 = e.1 ∧ e.2.Alike e'.2) entries entries'

/-- An entry with a value that is alike is put at the same place. -/
theorem SameKeys.putEntry (h : SameKeys entries entries') (k : Scalar) {v v' : Value} (hv : v.Alike v') :
    SameKeys (putEntry entries k v) (putEntry entries' k v') := by
  unfold Value.putEntry
  induction h with
  | nil => exact .cons ⟨rfl, hv⟩ .nil
  | @cons e e' rest rest' he hrest ih =>
    obtain ⟨key, value⟩ := e
    obtain ⟨_, value'⟩ := e'
    obtain ⟨rfl, hvalue⟩ := he
    unfold Entries.put
    dsimp only at hvalue ⊢
    split
    · exact .cons ⟨rfl, hv⟩ hrest
    · exact .cons ⟨rfl, hvalue⟩ ih

/-- So are more entries. -/
theorem SameKeys.putEntries (h : SameKeys entries entries') (hmade : SameKeys made made') :
    SameKeys (putEntries entries made) (putEntries entries' made') := by
  unfold Value.putEntries
  induction hmade generalizing entries entries' with
  | nil => exact h
  | @cons e e' _ _ he _ ih =>
    refine ih ?_
    dsimp only
    rw [he.1]
    exact h.putEntry e.1 he.2

/-- The keys are those of the first list. -/
theorem SameKeys.keys (h : SameKeys entries entries') : entries'.map Prod.fst = entries.map Prod.fst := by
  induction h with
  | nil => rfl
  | cons he _ ih => rw [List.map_cons, List.map_cons, he.1, ih]

/-- Mappings whose entries have the same keys and have been swapped besides are alike. -/
theorem SameKeys.alike {between : List (Scalar × Value)} (h : SameKeys entries between)
    (hswapped : Swapped DifferentTexts between entries') : Alike (.mapping entries) (.mapping entries') :=
  .mapping h.keys
    (List.forall₂_map_left_iff.mpr (List.forall₂_map_right_iff.mpr (h.imp fun _ _ he => he.2)))
    hswapped.perm

end Value

/-! ## Models -/

/-- The traits are the same but for their values. Ids and locations have to be equal, as both come from
the keys of a mapping, and these are the same nodes in a document that is rearranged. -/
structure Trait.Related (R : Value → Value → Prop) (t t' : Trait) : Prop where
  id : t'.id = t.id
  location : t'.location = t.location
  value : R t.value t'.value

/-- The shapes are the same but for the values of traits. The relation between values is left open, so
that one induction over the reading of a shape serves equality and likeness. -/
inductive Shape.Related (R : Value → Value → Prop) : Shape → Shape → Prop
  | mk {id : ShapeId} {type : ShapeType} {traits traits' : List Trait} {members members' : List Shape}
    {location : Location} {target : Option ShapeId}
    (htraits : List.Forall₂ (Trait.Related R) traits traits')
    (hmembers : List.Forall₂ (Shape.Related R) members members') :
    Related R ⟨id, type, traits, members, location, target⟩ ⟨id, type, traits', members', location, target⟩

/-- The models are the same but for the values of traits and the metadata. The metadata are a mapping that
the reader takes over as it is made, so they compare as values do. -/
structure Model.Related (R : Value → Value → Prop) (m m' : Model) : Prop where
  shapes : List.Forall₂ (Shape.Related R) m.shapes m'.shapes
  metadata : R (.mapping m.metadata) (.mapping m'.metadata)

/-- The models are equal, whatever the order of keys in their values. Shapes, members and traits are in
the same order in both, and so is what a validator reports about them apart from the texts in values. -/
def Model.Alike : Model → Model → Prop :=
  Model.Related Value.Alike

/-- With equal values, traits are equal. -/
theorem Trait.eq_of_related {t t' : Trait} (h : t.Related Eq t') : t = t' := by
  obtain ⟨id, value, location⟩ := t
  obtain ⟨id', value', location'⟩ := t'
  obtain ⟨hid, hlocation, hvalue⟩ := h
  dsimp only at hid hlocation hvalue
  rw [hid, hlocation, hvalue]

mutual

/-- With equal values, shapes are equal. Members are shapes again, so the recursion goes through them. -/
theorem Shape.eq_of_related : (s : Shape) → ∀ s', s.Related Eq s' → s = s'
  | ⟨_, _, traits, members, _, _⟩, _, .mk htraits hmembers => by
    have hequal : List.Forall₂ Eq traits _ := htraits.imp fun _ _ => Trait.eq_of_related
    rw [List.forall₂_eq_eq_eq] at hequal
    rw [hequal, Shape.eq_of_related_members members _ hmembers]

/-- So are lists of shapes. -/
theorem Shape.eq_of_related_members : (ss : List Shape) →
    ∀ ss', List.Forall₂ (Shape.Related Eq) ss ss' → ss = ss'
  | [], _, .nil => rfl
  | s :: ss, _, .cons hs hrest => by
    rw [Shape.eq_of_related s _ hs, Shape.eq_of_related_members ss _ hrest]

end

/-- With equal values, models are equal. So what is proved for related models covers equal ones, with no
second induction. -/
theorem Model.eq_of_related {m m' : Model} (h : m.Related Eq m') : m = m' := by
  obtain ⟨shapes, metadata⟩ := m
  obtain ⟨shapes', metadata'⟩ := m'
  obtain ⟨hshapes, hmetadata⟩ := h
  dsimp only at hshapes hmetadata
  rw [Shape.eq_of_related_members shapes shapes' hshapes, Value.mapping.inj hmetadata]

end TermAudit
