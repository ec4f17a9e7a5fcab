import Mathlib.Data.List.Nodup
import TermAudit.Index
import TermAudit.Proofs.OrderedMap

/-!
# `TermAudit.Proofs.Index.Leaves`: texts inside of a value and the ways to them

A text inside of a value is a leaf of a tree whose branches go through the items of lists and the
entries of mappings. `Value.HasLeaf` says what the leaves of a value are, each with its branch, the
positions of the parts on the way down. The index lists them:

* `Value.texts_eq`: it has each of `Value.leaves` with its path, the branch in writing;
* `Value.LeafList`, `Value.leafList_iff`: these are all leaves, each one once, and depth first, which is
  the lexicographic order of their branches.

A path tells less than a branch, since different keys can look the same in writing. In a value whose
mappings have texts for keys, all different, this does not happen: no two leaves have the same path, and
each path leads back to its leaf (`Value.pathsLeadBack`). Written out with slashes between its steps, a
path tells still less. It is enough then that no key has a slash itself (`Value.nodup_joined`).
-/

set_option autoImplicit false

namespace TermAudit

namespace Value

/-- A text inside of a value: the positions of the parts that lead to it, the same way in writing, and the
text. The positions tell all leaves apart and order them, which the way in writing may fail to do. -/
structure Leaf where
  branch : List Nat
  path : List Text
  text : Text

/-- The leaf as one of a value around it, which has the value of the leaf at a position. The way to it
gets one more step at its start. -/
def Leaf.inside (position : Nat) (step : Text) (l : Leaf) : Leaf :=
  ⟨position :: l.branch, step :: l.path, l.text⟩

/-- The text is inside of the value. The way to it leads through lists and mappings alone. A step is the
number of an item or the key of an entry, both in writing. -/
inductive HasLeaf : Value → Leaf → Prop
  | here (t : Text) : HasLeaf (.scalar (.text t)) ⟨[], [], t⟩
  | inItem {items : List Value} {n : Nat} {v : Value} {l : Leaf} (h : items[n]? = some v)
    (hv : HasLeaf v l) : HasLeaf (.list items) (l.inside n (Text.ofNat n))
  | inEntry {entries : List (Scalar × Value)} {n : Nat} {k : Scalar} {v : Value} {l : Leaf}
    (h : entries[n]? = some (k, v)) (hv : HasLeaf v l) :
    HasLeaf (.mapping entries) (l.inside n k.plainText)

/-! ## All leaves in order -/

mutual

/-- The leaves of a value, depth first. Tuples and sets have none, however many texts are in them, since
the index does not look into them. -/
def leaves : Value → List Leaf
  | .scalar (.text t) => [⟨[], [], t⟩]
  | .scalar _ => []
  | .list items => leavesOfItems 0 items
  | .mapping entries => leavesOfEntries 0 entries
  | .tuple _ => []
  | .set _ => []

/-- The leaves of the items of a list, the first of which has the position `n`. -/
def leavesOfItems (n : Nat) : List Value → List Leaf
  | [] => []
  | v :: rest => v.leaves.map (·.inside n (Text.ofNat n)) ++ leavesOfItems (n + 1) rest

/-- The leaves of the entries of a mapping, the first of which has the position `n`. -/
def leavesOfEntries (n : Nat) : List (Scalar × Value) → List Leaf
  | [] => []
  | (k, v) :: rest => v.leaves.map (·.inside n k.plainText) ++ leavesOfEntries (n + 1) rest

end

mutual

/-- The index lists the leaves with their paths. -/
theorem textsFrom_eq (start : List Text) :
    ∀ v : Value, textsFrom start v = v.leaves.map fun l => (start ++ l.path, l.text)
  | .scalar (.text t) => by simp [textsFrom, leaves]
  | .scalar .null | .scalar (.bool _) | .scalar (.int _) | .scalar (.float _) | .scalar (.octets _)
  | .scalar (.date _) | .scalar (.timestamp _) => rfl
  | .list items => by
    rw [textsFrom, leaves, textsInItems_eq start 0 items]
  | .mapping entries => by
    rw [textsFrom, leaves, textsInEntries_eq start 0 entries]
  | .tuple _ => rfl
  | .set _ => rfl

/-- The same for the items of a list. -/
theorem textsInItems_eq (start : List Text) (n : Nat) :
    ∀ items : List Value,
      textsInItems start n items = (leavesOfItems n items).map fun l => (start ++ l.path, l.text)
  | [] => rfl
  | v :: rest => by
    -- What is inside of the first item has paths that begin with its position.
    rw [textsInItems, leavesOfItems, List.map_append, List.map_map,
      textsFrom_eq (start ++ [Text.ofNat n]) v, textsInItems_eq start (n + 1) rest]
    simp [Function.comp_def, Leaf.inside]

/-- The same for the entries of a mapping. -/
theorem textsInEntries_eq (start : List Text) (n : Nat) :
    ∀ entries : List (Scalar × Value),
      textsInEntries start entries =
        (leavesOfEntries n entries).map fun l => (start ++ l.path, l.text)
  | [] => rfl
  | (k, v) :: rest => by
    rw [textsInEntries, leavesOfEntries, List.map_append, List.map_map,
      textsFrom_eq (start ++ [k.plainText]) v, textsInEntries_eq start (n + 1) rest]
    simp [Function.comp_def, Leaf.inside]

end

/-- The index has the leaves of a value, each by its path and its text. It forgets the positions, so the
leaves know more than the index. -/
theorem texts_eq (v : Value) : v.texts = v.leaves.map fun l => (l.path, l.text) :=
  textsFrom_eq [] v

example : (Value.mapping [(.text "a", .list [.scalar .null, .scalar (.text "x")]),
      (.int 1, .scalar (.text "y"))]).texts =
    [([("a" : Text), ("1" : Text)], ("x" : Text)), ([("1" : Text)], ("y" : Text))] := by
  decide

mutual

/-- The leaves that are listed are those of the value. -/
theorem mem_leaves_iff (v : Value) (l : Leaf) : l ∈ v.leaves ↔ v.HasLeaf l := by
  match v with
  | .scalar s =>
    cases s with
    | text t =>
      rw [leaves, List.mem_singleton]
      constructor
      · rintro rfl
        exact .here t
      · intro h
        cases h
        rfl
    | _ =>
      rw [leaves]
      · exact iff_of_false List.not_mem_nil fun h => nomatch h
      · exact fun _ h => nomatch h
  | .list items =>
    rw [leaves, mem_leavesOfItems_iff 0 items l]
    constructor
    · rintro ⟨i, v, leaf, hi, hleaf, rfl⟩
      rw [Nat.zero_add]
      exact .inItem hi hleaf
    · intro h
      cases h with
      | inItem hi hleaf => exact ⟨_, _, _, hi, hleaf, by rw [Nat.zero_add]⟩
  | .mapping entries =>
    rw [leaves, mem_leavesOfEntries_iff 0 entries l]
    constructor
    · rintro ⟨i, k, v, leaf, hi, hleaf, rfl⟩
      rw [Nat.zero_add]
      exact .inEntry hi hleaf
    · intro h
      cases h with
      | inEntry hi hleaf => exact ⟨_, _, _, _, hi, hleaf, by rw [Nat.zero_add]⟩
  | .tuple _ | .set _ =>
    rw [leaves]
    -- The walk does not look into tuples and sets, and no path leads into them.
    exact iff_of_false List.not_mem_nil fun h => nomatch h

/-- The same for the items of a list. -/
theorem mem_leavesOfItems_iff (n : Nat) (items : List Value) (l : Leaf) :
    l ∈ leavesOfItems n items ↔ ∃ (i : Nat) (v : Value) (leaf : Leaf), items[i]? = some v ∧
      v.HasLeaf leaf ∧ l = leaf.inside (n + i) (Text.ofNat (n + i)) := by
  match items with
  | [] => simp [leavesOfItems]
  | v :: rest =>
    -- The first item has the position `n`, and the position of another one is one more than in `rest`.
    rw [leavesOfItems, List.mem_append, List.mem_map, mem_leavesOfItems_iff (n + 1) rest l]
    constructor
    · rintro (⟨leaf, hleaf, rfl⟩ | ⟨i, v', leaf, hi, hleaf, rfl⟩)
      · exact ⟨0, v, leaf, rfl, (mem_leaves_iff v leaf).mp hleaf, rfl⟩
      · exact ⟨i + 1, v', leaf, hi, hleaf, by rw [Nat.add_assoc, Nat.add_comm 1]⟩
    · rintro ⟨i, v', leaf, hi, hleaf, rfl⟩
      cases i with
      | zero =>
        cases hi
        exact Or.inl ⟨leaf, (mem_leaves_iff v leaf).mpr hleaf, rfl⟩
      | succ i => exact Or.inr ⟨i, v', leaf, hi, hleaf, by rw [Nat.add_assoc, Nat.add_comm 1]⟩

/-- The same for the entries of a mapping. -/
theorem mem_leavesOfEntries_iff (n : Nat) (entries : List (Scalar × Value)) (l : Leaf) :
    l ∈ leavesOfEntries n entries ↔ ∃ (i : Nat) (k : Scalar) (v : Value) (leaf : Leaf),
      entries[i]? = some (k, v) ∧ v.HasLeaf leaf ∧ l = leaf.inside (n + i) k.plainText := by
  match entries with
  | [] => simp [leavesOfEntries]
  | (k, v) :: rest =>
    rw [leavesOfEntries, List.mem_append, List.mem_map, mem_leavesOfEntries_iff (n + 1) rest l]
    constructor
    · rintro (⟨leaf, hleaf, rfl⟩ | ⟨i, k', v', leaf, hi, hleaf, rfl⟩)
      · exact ⟨0, k, v, leaf, rfl, (mem_leaves_iff v leaf).mp hleaf, rfl⟩
      · exact ⟨i + 1, k', v', leaf, hi, hleaf, by rw [Nat.add_assoc, Nat.add_comm 1]⟩
    · rintro ⟨i, k', v', leaf, hi, hleaf, rfl⟩
      cases i with
      | zero =>
        cases hi
        exact Or.inl ⟨leaf, (mem_leaves_iff v leaf).mpr hleaf, rfl⟩
      | succ i => exact Or.inr ⟨i, k', v', leaf, hi, hleaf, by rw [Nat.add_assoc, Nat.add_comm 1]⟩

end

/-- The leaves of a part come before those of the parts behind it. -/
theorem pairwise_append_inside {n : Nat} {step : Text} {first rest : List Leaf}
    (hfirst : first.Pairwise (·.branch < ·.branch)) (hrest : rest.Pairwise (·.branch < ·.branch))
    (hbehind : ∀ l ∈ rest, ∃ i branch, l.branch = (n + 1 + i) :: branch) :
    (first.map (·.inside n step) ++ rest).Pairwise (·.branch < ·.branch) := by
  rw [List.pairwise_append, List.pairwise_map]
  refine ⟨hfirst.imp fun h => ?_, hrest, fun l hl l' hl' => ?_⟩
  · -- In one part the branches go on differently after the same position.
    exact List.cons_lt_cons_iff.mpr (Or.inr ⟨rfl, h⟩)
  · -- In different parts the positions decide.
    obtain ⟨leaf, -, rfl⟩ := List.mem_map.mp hl
    obtain ⟨i, branch, hbranch⟩ := hbehind l' hl'
    rw [hbranch]
    exact List.cons_lt_cons_iff.mpr (Or.inl (by omega))

mutual

/-- The leaves are listed depth first. -/
theorem pairwise_leaves : ∀ v : Value, v.leaves.Pairwise (·.branch < ·.branch)
  | .scalar (.text _) => List.pairwise_singleton _ _
  | .scalar .null | .scalar (.bool _) | .scalar (.int _) | .scalar (.float _) | .scalar (.octets _)
  | .scalar (.date _) | .scalar (.timestamp _) => .nil
  | .list items => pairwise_leavesOfItems 0 items
  | .mapping entries => pairwise_leavesOfEntries 0 entries
  | .tuple _ => .nil
  | .set _ => .nil

/-- The same for the items of a list. -/
theorem pairwise_leavesOfItems (n : Nat) :
    ∀ items : List Value, (leavesOfItems n items).Pairwise (·.branch < ·.branch)
  | [] => .nil
  | v :: rest => by
    refine pairwise_append_inside (pairwise_leaves v) (pairwise_leavesOfItems (n + 1) rest)
      fun l hl => ?_
    obtain ⟨i, -, leaf, -, -, rfl⟩ := (mem_leavesOfItems_iff (n + 1) rest l).mp hl
    exact ⟨i, leaf.branch, rfl⟩

/-- The same for the entries of a mapping. -/
theorem pairwise_leavesOfEntries (n : Nat) :
    ∀ entries : List (Scalar × Value), (leavesOfEntries n entries).Pairwise (·.branch < ·.branch)
  | [] => .nil
  | (k, v) :: rest => by
    refine pairwise_append_inside (pairwise_leaves v) (pairwise_leavesOfEntries (n + 1) rest)
      fun l hl => ?_
    obtain ⟨i, -, -, leaf, -, -, rfl⟩ := (mem_leavesOfEntries_iff (n + 1) rest l).mp hl
    exact ⟨i, leaf.branch, rfl⟩

end

/-- All leaves of a value, each one once, in the order of the document. The branches increase
lexicographically, which is the order in which a walk through the value comes to them. So there is one
such list (`leafList_iff`). -/
structure LeafList (v : Value) (ls : List Leaf) : Prop where
  mem_iff (l : Leaf) : l ∈ ls ↔ v.HasLeaf l
  ordered : ls.Pairwise (·.branch < ·.branch)

/-- No leaf is there twice, since their branches increase strictly. -/
theorem LeafList.nodup {v : Value} {ls : List Leaf} (h : v.LeafList ls) : ls.Nodup := by
  refine h.ordered.imp fun {l l'} hlt heq => ?_
  rw [heq] at hlt
  exact List.lt_irrefl _ hlt

/-- There is one list of this kind. A list with these members and this order is determined, as no branch
comes twice. -/
theorem leafList_iff {v : Value} {ls : List Leaf} : v.LeafList ls ↔ ls = v.leaves := by
  have hleaves : v.LeafList v.leaves := ⟨mem_leaves_iff v, pairwise_leaves v⟩
  constructor
  · intro h
    have hperm : ls.Perm v.leaves := (List.perm_ext_iff_of_nodup h.nodup hleaves.nodup).mpr fun l => by
      rw [h.mem_iff, hleaves.mem_iff]
    exact hperm.eq_of_pairwise (fun l l' _ _ hlt hlt' => absurd hlt' (List.lt_asymm hlt))
      h.ordered hleaves.ordered
  · rintro rfl
    exact hleaves

/-! ## Following a path -/

/-- The part of a value to which a step of a path leads: the item at the position, or the value of the
key. Keys that are not texts are not looked for, as a path does not say what kind of key a step was. -/
def part? : Value → Text → Option Value
  | .list items, step => (items.zipIdx.find? fun e => Text.ofNat e.2 == step).map Prod.fst
  | .mapping entries, step => entries.lookup (.text step)
  | _, _ => none

/-- What a path leads to, step by step. It has no value where a step leads nowhere. -/
def follow? (v : Value) (path : List Text) : Option Value :=
  path.foldlM part? v

/-- Every mapping in the value has the property. Like the index, this looks into mappings and lists alone,
and so nothing is asked of a mapping in a tuple. -/
inductive Throughout (P : List (Scalar × Value) → Prop) : Value → Prop
  | scalar (s : Scalar) : Throughout P (.scalar s)
  | tuple (items : List Value) : Throughout P (.tuple items)
  | set (elements : List Scalar) : Throughout P (.set elements)
  | list {items : List Value} (h : ∀ v ∈ items, Throughout P v) : Throughout P (.list items)
  | mapping {entries : List (Scalar × Value)} (here : P entries)
    (h : ∀ e ∈ entries, Throughout P e.2) : Throughout P (.mapping entries)

/-- The keys of each mapping are different keys. This holds of all values that are made of a document or
come from a mapping of the language, since equal keys share an entry there. -/
def KeysDiffer : Value → Prop :=
  Throughout fun entries => entries.Pairwise fun e e' => e.1.sameKey e'.1 = false

/-- The keys of each mapping are texts. Keys of other kinds can look like each other in writing, such as
the integer and the text `1`. -/
def HasTextKeys : Value → Prop :=
  Throughout fun entries => ∀ e ∈ entries, ∃ key, e.1 = .text key

variable {v w : Value} {l l' : Leaf} {items : List Value} {entries : List (Scalar × Value)} {n : Nat}

/-- What holds throughout a list holds throughout each item. -/
theorem Throughout.item {P : List (Scalar × Value) → Prop} (h : Throughout P (.list items))
    (hv : v ∈ items) : Throughout P v := by
  cases h with
  | list h => exact h v hv

/-- What holds throughout a mapping holds throughout the value of each entry. -/
theorem Throughout.entry {P : List (Scalar × Value) → Prop} (h : Throughout P (.mapping entries))
    {e : Scalar × Value} (he : e ∈ entries) : Throughout P e.2 := by
  cases h with
  | mapping _ h => exact h e he

/-- What holds throughout a mapping holds of its own entries. -/
theorem Throughout.here {P : List (Scalar × Value) → Prop} (h : Throughout P (.mapping entries)) :
    P entries := by
  cases h with
  | mapping here _ => exact here

/-- Different keys that are texts are different texts. -/
theorem nodup_keys (hdiffer : KeysDiffer (.mapping entries)) (htexts : HasTextKeys (.mapping entries)) :
    (entries.map Prod.fst).Nodup := by
  refine List.pairwise_map.mpr (hdiffer.here.imp_of_mem fun he _ hdifferent heq => ?_)
  obtain ⟨key, hkey⟩ := htexts.here _ he
  rw [← heq, hkey] at hdifferent
  simp [Scalar.sameKey] at hdifferent

/-- A key has one position. -/
theorem eq_of_key {k : Scalar} {n' : Nat} {v' : Value} (hnodup : (entries.map Prod.fst).Nodup)
    (h : entries[n]? = some (k, v)) (h' : entries[n']? = some (k, v')) : n = n' := by
  have hkey {m : Nat} {e : Scalar × Value} (he : entries[m]? = some e) :
      (entries.map Prod.fst)[m]? = some e.1 := by
    rw [List.getElem?_map, he, Option.map_some]
  have hlt : n < (entries.map Prod.fst).length := by
    rw [List.length_map]
    exact (List.getElem?_eq_some_iff.mp h).1
  refine (List.getElem?_inj hlt hnodup).mp ?_
  rw [hkey h, hkey h']

/-- Different positions are written differently, so the first item with a position is the right one. -/
theorem find?_zipIdx (h : items[n]? = some v) (start : Nat) :
    ((items.zipIdx start).find? fun e => Text.ofNat e.2 == Text.ofNat (start + n)) =
      some (v, start + n) := by
  induction items generalizing n start with
  | nil => cases h
  | cons item items ih =>
    rw [List.zipIdx_cons]
    cases n with
    | zero =>
      cases h
      exact List.find?_cons_of_pos (beq_self_eq_true _)
    | succ n =>
      have hne : (Text.ofNat start == Text.ofNat (start + (n + 1))) = false := by
        rw [beq_eq_false_iff_ne, Ne, Text.ofNat_inj]
        omega
      simp only [List.find?_cons, hne]
      rw [← Nat.add_assoc, Nat.add_right_comm]
      exact ih h (start + 1)

/-- The position of an item leads to it. -/
theorem part?_item (h : items[n]? = some v) : (Value.list items).part? (Text.ofNat n) = some v := by
  have hfind := find?_zipIdx h 0
  rw [Nat.zero_add] at hfind
  rw [part?, hfind, Option.map_some]

/-- A path leads back to its leaf if the keys of mappings are different texts. -/
theorem HasLeaf.follow?_path (h : v.HasLeaf l) (hdiffer : v.KeysDiffer) (htexts : v.HasTextKeys) :
    v.follow? l.path = some (.scalar (.text l.text)) := by
  -- The first step leads to the part, and the others lead on inside of it.
  induction h with
  | here t => rfl
  | @inItem items n v l hi _ ih =>
    have hmem := List.mem_of_getElem? hi
    show ((Value.list items).part? (Text.ofNat n)).bind (fun v => v.follow? l.path) = _
    rw [part?_item hi, Option.bind_some]
    exact ih (hdiffer.item hmem) (htexts.item hmem)
  | @inEntry entries n k v l hi _ ih =>
    have hmem := List.mem_of_getElem? hi
    obtain ⟨key, rfl⟩ := htexts.here _ hmem
    have hpart : (Value.mapping entries).part? key = some v :=
      OrderedMap.lookup_of_mem (nodup_keys hdiffer htexts) hmem
    show ((Value.mapping entries).part? key).bind (fun v => v.follow? l.path) = _
    rw [hpart, Option.bind_some]
    exact ih (hdiffer.entry hmem) (htexts.entry hmem)

/-- No two leaves have the same path if the keys of mappings are different texts. -/
theorem HasLeaf.eq_of_path (h : v.HasLeaf l) (h' : v.HasLeaf l') (hdiffer : v.KeysDiffer)
    (htexts : v.HasTextKeys) (hpath : l.path = l'.path) : l = l' := by
  induction h generalizing l' with
  | here t =>
    cases h'
    rfl
  | @inItem items n v l hi _ ih =>
    cases h' with
    | @inItem _ n' v' l' hi' h' =>
      obtain ⟨hstep, hrest⟩ := List.cons.inj hpath
      -- The positions are the same in writing, and so the items are the same.
      obtain rfl := Text.ofNat_inj.mp hstep
      rw [hi] at hi'
      cases hi'
      have hmem := List.mem_of_getElem? hi
      rw [ih h' (hdiffer.item hmem) (htexts.item hmem) hrest]
  | @inEntry entries n k v l hi _ ih =>
    cases h' with
    | @inEntry _ n' k' v' l' hi' h' =>
      obtain ⟨hstep, hrest⟩ := List.cons.inj hpath
      have hmem := List.mem_of_getElem? hi
      obtain ⟨key, rfl⟩ := htexts.here _ hmem
      obtain ⟨key', rfl⟩ := htexts.here _ (List.mem_of_getElem? hi')
      -- The keys are the same text, and there is one entry for it.
      obtain rfl : key = key' := hstep
      obtain rfl := eq_of_key (nodup_keys hdiffer htexts) hi hi'
      rw [hi] at hi'
      cases hi'
      rw [ih h' (hdiffer.entry hmem) (htexts.entry hmem) hrest]

/-- The paths tell the texts inside of a value apart, and each one leads to its text. Together they make a
path in a diagnostic a sufficient address of what was found. -/
structure PathsLeadBack (v : Value) : Prop where
  eq_of_path : ∀ l l', v.HasLeaf l → v.HasLeaf l' → l.path = l'.path → l = l'
  follow?_path : ∀ l, v.HasLeaf l → v.follow? l.path = some (.scalar (.text l.text))

/-- In a value whose mappings have different texts for keys, paths tell the leaves apart and lead back
to them. A path does not say which of two keys is meant that look the same in writing, such as `1` and
`"1"`. -/
theorem pathsLeadBack (hdiffer : v.KeysDiffer) (htexts : v.HasTextKeys) : v.PathsLeadBack where
  eq_of_path _ _ h h' hpath := h.eq_of_path h' hdiffer htexts hpath
  follow?_path _ h := h.follow?_path hdiffer htexts

/-! ## Paths in one line -/

/-- The keys of each mapping have no slash in writing. Then the steps of a path can be told apart when it
is written with slashes between them. -/
def KeysLackSlash : Value → Prop :=
  Throughout fun entries => ∀ e ∈ entries, CodePoint.ofChar '/' ∉ e.1.plainText

/-- The position in a list is written with digits alone. -/
theorem slash_notMem_ofNat (n : Nat) : CodePoint.ofChar '/' ∉ Text.ofNat n :=
  fun h => absurd (Text.isDigit_of_mem_ofNat h) (by decide)

/-- If no key has a slash, no step of a path has one. -/
theorem HasLeaf.slash_notMem (h : v.HasLeaf l) (hslash : v.KeysLackSlash) :
    ∀ step ∈ l.path, CodePoint.ofChar '/' ∉ step := by
  induction h with
  | here t => exact List.forall_mem_nil _
  | @inItem items n v l hi _ ih =>
    exact List.forall_mem_cons.mpr
      ⟨slash_notMem_ofNat n, ih (hslash.item (List.mem_of_getElem? hi))⟩
  | @inEntry entries n k v l hi _ ih =>
    have hmem := List.mem_of_getElem? hi
    exact List.forall_mem_cons.mpr ⟨hslash.here _ hmem, ih (hslash.entry hmem)⟩

/-- A value that is a text has one leaf, and all leaves of others are further inside. -/
theorem HasLeaf.isEmpty_path (h : v.HasLeaf l) (h' : v.HasLeaf l') :
    l.path.isEmpty = l'.path.isEmpty := by
  cases h <;> cases h' <;> rfl

/-- Either all paths in a value are empty, or none is. So an empty path and one empty step, which are joined
to the same text, do not meet. -/
theorem isEmpty_path_of_mem_texts {e e' : List Text × Text} (h : e ∈ v.texts) (h' : e' ∈ v.texts) :
    e.1.isEmpty = e'.1.isEmpty := by
  rw [texts_eq] at h h'
  obtain ⟨l, hl, rfl⟩ := List.mem_map.mp h
  obtain ⟨l', hl', rfl⟩ := List.mem_map.mp h'
  exact ((mem_leaves_iff v l).mp hl).isEmpty_path ((mem_leaves_iff v l').mp hl')

/-- Steps without slashes can be read off the joined path, and it tells the leaves apart like the path
itself. -/
theorem HasLeaf.eq_of_joined (h : v.HasLeaf l) (h' : v.HasLeaf l') (hdiffer : v.KeysDiffer)
    (htexts : v.HasTextKeys) (hslash : v.KeysLackSlash)
    (hjoined : Text.joinWith "/" l.path = Text.joinWith "/" l'.path) : l = l' := by
  refine h.eq_of_path h' hdiffer htexts ?_
  have hempty := h.isEmpty_path h'
  by_cases hnil : l.path = []
  · rw [hnil, List.isEmpty_nil, eq_comm, List.isEmpty_iff] at hempty
    rw [hnil, hempty]
  · have hnil' : l'.path ≠ [] := by
      rw [← List.isEmpty_iff, hempty, List.isEmpty_iff] at hnil
      exact hnil
    have hsplit := congrArg (Text.splitAll '/') hjoined
    exact (Text.splitAll_joinWith hnil (h.slash_notMem hslash)).symm.trans
      (hsplit.trans (Text.splitAll_joinWith hnil' (h'.slash_notMem hslash)))

/-- The joined paths of a value are different, if its keys are different texts without slashes. Then a
path can be taken apart at its slashes, and it leads to one place only. -/
theorem nodup_joined (hdiffer : v.KeysDiffer) (htexts : v.HasTextKeys) (hslash : v.KeysLackSlash) :
    (v.texts.map fun e => Text.joinWith "/" e.1).Nodup := by
  rw [texts_eq, List.map_map]
  refine List.Nodup.map_on (fun l hl l' hl' => ?_) (leafList_iff.mpr rfl).nodup
  exact ((mem_leaves_iff v l).mp hl).eq_of_joined ((mem_leaves_iff v l').mp hl') hdiffer htexts hslash

end Value

end TermAudit
