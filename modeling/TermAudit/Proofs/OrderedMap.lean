import Mathlib.Logic.Basic
import TermAudit.OrderedMap

/-!
# `TermAudit.Proofs.OrderedMap`: what a map has

`OrderedMap.keys_put` says what putting one entry does to the keys. The theorems here carry it to
lists of entries: `mem_keys_putAll` for a map that entries are put into, and `mem_keys_ofList` for
the map that a list of entries makes. Such a map has no other entries (`mem_entries_ofList`), and a
map is made of its own (`ofList_entries`).

A map is known by its keys and by what it gives for them (`ext_get?`). Of a list of entries the map
has each key at its first place (`keys_ofList`) with its last value (`get?_ofList`); of two maps the
union has the keys of the first one and then the new ones of the second (`keys_union`), and the
values of the second one count (`get?_union`). So unions can be grouped in any way (`union_assoc`).
-/

set_option autoImplicit false

namespace TermAudit

/-- If each element of a list is added unless it is there already, the list is what was there and
then the new elements at their first places. -/
theorem foldl_addNew_eq {α : Type} [BEq α] [LawfulBEq α] (seen l : List α) :
    l.foldl (fun seen a => if a ∈ seen then seen else seen ++ [a]) seen =
      seen ++ (l.filter fun a => decide (a ∉ seen)).eraseDups := by
  induction l generalizing seen with
  | nil => simp
  | cons a l ih =>
    rw [List.foldl_cons, ih]
    by_cases ha : a ∈ seen
    · rw [if_pos ha, List.filter_cons_of_neg (by simpa using ha)]
    · -- What was there has `a` at its end now, so `a` is not new any more.
      have hrest : (l.filter fun b => decide (b ∉ seen ++ [a])) =
          (l.filter fun b => decide (b ∉ seen)).filter fun b => !b == a := by
        rw [List.filter_filter]
        refine List.filter_congr fun b _ => ?_
        by_cases hb : b = a <;> simp [hb]
      rw [if_neg ha, List.filter_cons_of_pos (by simpa using ha), List.eraseDups_cons, hrest,
        List.append_assoc, List.singleton_append]

/-- Nothing changes if all elements are there already. -/
theorem foldl_addNew_eq_self {α : Type} [BEq α] [LawfulBEq α] {seen l : List α} (h : ∀ a ∈ l, a ∈ seen) :
    l.foldl (fun seen a => if a ∈ seen then seen else seen ++ [a]) seen = seen := by
  have hnone : (l.filter fun a => decide (a ∉ seen)) = [] :=
    List.filter_eq_nil_iff.mpr fun a ha => by simpa using h a ha
  rw [foldl_addNew_eq, hnone, List.eraseDups_nil, List.append_nil]

/-- First places are different. -/
theorem nodup_eraseDups {α : Type} [BEq α] [LawfulBEq α] (l : List α) : l.eraseDups.Nodup := by
  match l with
  | [] => exact List.nodup_nil
  | a :: l =>
    rw [List.eraseDups_cons, List.nodup_cons, List.mem_eraseDups]
    refine ⟨fun ha => ?_, nodup_eraseDups _⟩
    simp at ha
termination_by l.length
decreasing_by exact Nat.lt_succ_of_le (List.length_filter_le ..)

/-- Elements that are different are all at their first places. -/
theorem eraseDups_of_nodup {α : Type} [BEq α] [LawfulBEq α] {l : List α} (h : l.Nodup) :
    l.eraseDups = l := by
  induction l with
  | nil => rfl
  | cons a l ih =>
    obtain ⟨ha, hl⟩ := List.nodup_cons.mp h
    have hfilter : (l.filter fun b => !b == a) = l := by
      refine List.filter_eq_self.mpr fun b hb => ?_
      have hne : b ≠ a := fun heq => ha (heq ▸ hb)
      simpa using hne
    rw [List.eraseDups_cons, hfilter, ih hl]

/-- The first places of some elements are those that they have among all elements. -/
theorem filter_eraseDups {α : Type} [BEq α] [LawfulBEq α] (p : α → Bool) (l : List α) :
    l.eraseDups.filter p = (l.filter p).eraseDups := by
  match l with
  | [] => rfl
  | a :: l =>
    have hrest := filter_eraseDups p (l.filter fun b => !b == a)
    have hcomm : (l.filter fun b => !b == a).filter p = (l.filter p).filter fun b => !b == a := by
      rw [List.filter_filter, List.filter_filter]
      exact List.filter_congr fun b _ => Bool.and_comm _ _
    rw [List.eraseDups_cons]
    by_cases ha : p a = true
    · rw [List.filter_cons_of_pos ha, List.filter_cons_of_pos ha, List.eraseDups_cons, hrest, hcomm]
    · -- An element that is left out need not be kept from coming again.
      have hnone : (l.filter p).filter (fun b => !b == a) = l.filter p := by
        refine List.filter_eq_self.mpr fun b hb => ?_
        have hne : b ≠ a := fun heq => ha (heq ▸ (List.mem_filter.mp hb).2)
        simpa using hne
      rw [List.filter_cons_of_neg ha, List.filter_cons_of_neg ha, hrest, hcomm, hnone]
termination_by l.length
decreasing_by exact Nat.lt_succ_of_le (List.length_filter_le ..)

/-- Repetitions that are left out once need not be left out again. -/
theorem eraseDups_eraseDups_append {α : Type} [BEq α] [LawfulBEq α] (l l' : List α) :
    (l.eraseDups ++ l').eraseDups = (l ++ l').eraseDups := by
  have hnew : l'.removeAll l.eraseDups = l'.removeAll l := by
    unfold List.removeAll
    exact List.filter_congr fun a _ => by simp [List.elem_eq_contains]
  rw [List.eraseDups_append, List.eraseDups_append, eraseDups_of_nodup (nodup_eraseDups l), hnew]

/-- What is found is there. -/
theorem mem_of_lookup {α β : Type} [BEq α] [LawfulBEq α] {es : List (α × β)} {k : α} {v : β}
    (h : es.lookup k = some v) : (k, v) ∈ es := by
  obtain ⟨before, after, rfl, -⟩ := List.lookup_eq_some_iff.mp h
  exact List.mem_append_right _ List.mem_cons_self

namespace Entries

variable {α β : Type} {same : α → α → Bool} {k : α} {v : β} {es : List (α × β)}

/-- Keys and values that are put in are new or were there, if not together. -/
theorem forall_put {K : α → Prop} {V : β → Prop} (hk : K k) (hv : V v)
    (h : ∀ e ∈ es, K e.1 ∧ V e.2) : ∀ e ∈ put same k v es, K e.1 ∧ V e.2 := by
  induction es with
  | nil => exact List.forall_mem_singleton.mpr ⟨hk, hv⟩
  | cons e es ih =>
    obtain ⟨hfirst, hrest⟩ := List.forall_mem_cons.mp h
    unfold put
    split
    · exact List.forall_mem_cons.mpr ⟨⟨hfirst.1, hv⟩, hrest⟩
    · exact List.forall_mem_cons.mpr ⟨hfirst, ih hrest⟩

/-- A key that is not the same as any other goes to the end. -/
theorem put_of_other (h : ∀ e ∈ es, same e.1 k = false) : put same k v es = es ++ [(k, v)] := by
  induction es with
  | nil => rfl
  | cons e es ih =>
    obtain ⟨hfirst, hrest⟩ := List.forall_mem_cons.mp h
    unfold put
    rw [hfirst, if_neg Bool.false_ne_true, ih hrest]
    rfl

/-- What is there afterwards is the entry that was put in or was there before. -/
theorem mem_put {e : α × β} (h : e ∈ put same k v es) :
    ((e.1 = k ∨ same e.1 k = true) ∧ e.2 = v) ∨ e ∈ es := by
  induction es with
  | nil =>
    obtain rfl := List.mem_singleton.mp h
    exact Or.inl ⟨Or.inl rfl, rfl⟩
  | cons e' es ih =>
    unfold put at h
    split at h
    · rename_i hsame
      rcases List.mem_cons.mp h with rfl | h
      · exact Or.inl ⟨Or.inr hsame, rfl⟩
      · exact Or.inr (List.mem_cons_of_mem _ h)
    · rcases List.mem_cons.mp h with rfl | h
      · exact Or.inr List.mem_cons_self
      · exact (ih h).imp_right (List.mem_cons_of_mem _)

/-- A key is only added if none of those before it is the same. -/
theorem pairwise_put (h : es.Pairwise fun e e' => same e.1 e'.1 = false) :
    (put same k v es).Pairwise fun e e' => same e.1 e'.1 = false := by
  induction es with
  | nil => exact List.pairwise_singleton _ _
  | cons e es ih =>
    obtain ⟨hfirst, hrest⟩ := List.pairwise_cons.mp h
    unfold put
    split
    · -- The keys are those that were there.
      exact List.pairwise_cons.mpr ⟨hfirst, hrest⟩
    · rename_i hother
      have hkeys : ∀ e' ∈ put same k v es, same e.1 e'.1 = false ∧ True :=
        forall_put (K := fun key => same e.1 key = false) (V := fun _ => True)
          (Bool.eq_false_iff.mpr hother) trivial fun e' he' => ⟨hfirst e' he', trivial⟩
      exact List.pairwise_cons.mpr ⟨fun e' he' => (hkeys e' he').1, ih hrest⟩

end Entries

namespace OrderedMap

variable {α β : Type} [DecidableEq α]

/-- After `put` the keys are those from before and the one that was put. -/
theorem mem_keys_put {m : OrderedMap α β} {k k' : α} {v : β} :
    k' ∈ (m.put k v).keys ↔ k' ∈ m.keys ∨ k' = k := by
  rw [keys_put]
  split
  · rename_i hk
    constructor
    · exact Or.inl
    · rintro (h | rfl)
      · exact h
      · exact hk
  · simp

/-- After `putAll` the keys are those from before and those of the entries. -/
theorem mem_keys_putAll {m : OrderedMap α β} {es : List (α × β)} {k : α} :
    k ∈ (m.putAll es).keys ↔ k ∈ m.keys ∨ k ∈ es.map Prod.fst := by
  unfold putAll
  induction es generalizing m with
  | nil => simp
  | cons e es ih =>
    rw [List.foldl_cons, ih, mem_keys_put, List.map_cons, List.mem_cons, or_assoc]

/-- A map made of entries has their keys. -/
theorem mem_keys_ofList {es : List (α × β)} {k : α} :
    k ∈ (ofList es).keys ↔ k ∈ es.map Prod.fst := by
  unfold ofList
  rw [mem_keys_putAll]
  simp [empty, keys]

/-- A new key goes to the end. -/
theorem entries_put_of_notMem {m : OrderedMap α β} {k : α} {v : β} (h : k ∉ m.keys) :
    (m.put k v).entries = m.entries ++ [(k, v)] := by
  refine Entries.put_of_other fun e he => decide_eq_false fun heq => h ?_
  rw [← heq]
  exact List.mem_map_of_mem he

/-- Entries with new and different keys go to the end. -/
theorem entries_putAll_of_nodup {m : OrderedMap α β} {es : List (α × β)}
    (h : (m.keys ++ es.map Prod.fst).Nodup) : (m.putAll es).entries = m.entries ++ es := by
  unfold putAll
  induction es generalizing m with
  | nil => exact (List.append_nil _).symm
  | cons e es ih =>
    have hnew : e.1 ∉ m.keys := by
      intro hmem
      exact (List.nodup_append.mp h).2.2 _ hmem _ List.mem_cons_self rfl
    have hkeys : (m.put e.1 e.2).keys = m.keys ++ [e.1] := by
      rw [keys_put, if_neg hnew]
    rw [List.map_cons, List.append_cons, ← hkeys] at h
    rw [List.foldl_cons, ih h, entries_put_of_notMem hnew, List.append_assoc]
    rfl

/-- A map is made of its entries. As its keys are different, each entry is put behind those that are
there. -/
theorem ofList_entries (m : OrderedMap α β) : ofList m.entries = m := by
  refine ext_entries ?_
  unfold ofList
  rw [entries_putAll_of_nodup]
  · rfl
  · exact m.nodup

/-- What a map has when an entry is put into it is this entry or was there. -/
theorem mem_entries_put {m : OrderedMap α β} {k : α} {v : β} {e : α × β}
    (h : e ∈ (m.put k v).entries) : e = (k, v) ∨ e ∈ m.entries := by
  refine (Entries.mem_put h).imp_left fun ⟨hkey, hvalue⟩ => ?_
  rw [decide_eq_true_iff, or_self] at hkey
  exact Prod.ext hkey hvalue

/-- An entry of the map afterwards is one from before or one that was put. The converse fails: a later entry
takes the value of an earlier one. -/
theorem mem_entries_putAll {m : OrderedMap α β} {es : List (α × β)} {e : α × β}
    (h : e ∈ (m.putAll es).entries) : e ∈ m.entries ∨ e ∈ es := by
  unfold putAll at h
  induction es generalizing m with
  | nil => exact Or.inl h
  | cons e' es ih =>
    rw [List.foldl_cons] at h
    rcases ih h with h | h
    · rcases mem_entries_put h with rfl | h
      · exact Or.inr List.mem_cons_self
      · exact Or.inl h
    · exact Or.inr (List.mem_cons_of_mem _ h)

/-- A map made of entries has no others. -/
theorem mem_entries_ofList {es : List (α × β)} {e : α × β} (h : e ∈ (ofList es).entries) :
    e ∈ es :=
  (mem_entries_putAll h).resolve_left List.not_mem_nil

/-- The test for a key finds the keys that are there. -/
theorem contains_iff {m : OrderedMap α β} {k : α} : m.contains k = true ↔ k ∈ m.keys := by
  simp [contains]

/-! ## Keys in order -/

/-- The keys after `putAll` do not depend on values: each new key goes to the end. -/
theorem keys_putAll_eq_foldl (m : OrderedMap α β) (es : List (α × β)) : (m.putAll es).keys =
    (es.map Prod.fst).foldl (fun ks k => if k ∈ ks then ks else ks ++ [k]) m.keys := by
  unfold putAll
  induction es generalizing m with
  | nil => rfl
  | cons e es ih => rw [List.foldl_cons, ih, keys_put, List.map_cons, List.foldl_cons]

/-- New keys go to the end, in the order in which they come. -/
theorem keys_putAll (m : OrderedMap α β) (es : List (α × β)) :
    (m.putAll es).keys =
      m.keys ++ ((es.map Prod.fst).filter fun k => decide (k ∉ m.keys)).eraseDups := by
  rw [keys_putAll_eq_foldl, foldl_addNew_eq]

/-- A map made of entries has their keys, each at its first place. A key that comes again gets another
value and stays where it is. -/
theorem keys_ofList [inst : BEq α] [LawfulBEq α] (es : List (α × β)) :
    (ofList es).keys = (es.map Prod.fst).eraseDups := by
  obtain rfl : inst = instBEqOfDecidableEq := lawful_beq_subsingleton _ _
  have h := keys_putAll (empty : OrderedMap α β) es
  have hnone : (empty : OrderedMap α β).keys = [] := rfl
  rw [hnone, List.nil_append] at h
  rw [ofList, h, List.filter_eq_self.mpr fun k _ => decide_eq_true List.not_mem_nil]

/-- The keys of a union are those of the first map, and then the new ones of the second. Places are
decided by the first map, and values by the second (`get?_union`). -/
theorem keys_union (m n : OrderedMap α β) :
    (m.union n).keys = m.keys ++ n.keys.filter fun k => decide (k ∉ m.keys) := by
  unfold union
  rw [keys_putAll]
  show m.keys ++ (n.keys.filter fun k => decide (k ∉ m.keys)).eraseDups = _
  have hnodup : n.keys.Nodup := n.nodup
  rw [eraseDups_of_nodup (hnodup.filter _)]

/-- The keys of a union are those of both maps, each at its first place. -/
theorem keys_union_eq_eraseDups [inst : BEq α] [LawfulBEq α] (m n : OrderedMap α β) :
    (m.union n).keys = (m.keys ++ n.keys).eraseDups := by
  obtain rfl : inst = instBEqOfDecidableEq := lawful_beq_subsingleton _ _
  have hm : m.keys.Nodup := m.nodup
  have hn : n.keys.Nodup := n.nodup
  have hnew : (n.keys.removeAll m.keys).Nodup := hn.filter _
  rw [keys_union, List.eraseDups_append, eraseDups_of_nodup hm, eraseDups_of_nodup hnew]
  unfold List.removeAll
  exact congrArg _ (List.filter_congr fun k _ => by simp [List.elem_eq_contains])

/-! ## Values -/

/-- The first entry with the key counts. -/
theorem lookup_cons_eq (e : α × β) (es : List (α × β)) (k : α) :
    (e :: es).lookup k = if k = e.1 then some e.2 else es.lookup k := by
  by_cases h : k = e.1
  · rw [List.lookup_cons, beq_iff_eq.mpr h, if_pos h]
  · rw [List.lookup_cons, beq_eq_false_iff_ne.mpr h, if_neg h]

/-- Among entries with different keys each one is found by its key. -/
theorem lookup_of_mem {es : List (α × β)} {e : α × β} (hnodup : (es.map Prod.fst).Nodup)
    (h : e ∈ es) : es.lookup e.1 = some e.2 := by
  induction es with
  | nil => cases h
  | cons e' es ih =>
    obtain ⟨hnew, hrest⟩ := List.nodup_cons.mp hnodup
    rw [lookup_cons_eq]
    rcases List.mem_cons.mp h with rfl | h
    · exact if_pos rfl
    · have hne : e.1 ≠ e'.1 := fun heq => hnew (heq ▸ List.mem_map_of_mem h)
      rw [if_neg hne, ih hrest h]

/-- After `put` the key has the new value, and every other key has the value from before. -/
theorem lookup_put (es : List (α × β)) (k : α) (v : β) (key : α) :
    (Entries.put (fun a b => decide (a = b)) k v es).lookup key =
      if key = k then some v else es.lookup key := by
  induction es with
  | nil => rw [Entries.put, lookup_cons_eq, List.lookup_nil]
  | cons e es ih =>
    obtain ⟨k', v'⟩ := e
    unfold Entries.put
    by_cases hk : k' = k
    · subst hk
      rw [if_pos (decide_eq_true rfl), lookup_cons_eq, lookup_cons_eq]
      split <;> rfl
    · rw [if_neg (by simpa using hk), lookup_cons_eq, lookup_cons_eq, ih]
      by_cases h : key = k'
      · rw [if_pos h, if_pos h, if_neg fun heq => hk (h.symm.trans heq)]
      · rw [if_neg h, if_neg h]

/-- What was put last is found. -/
theorem get?_put (m : OrderedMap α β) (k : α) (v : β) (key : α) :
    (m.put k v).get? key = if key = k then some v else m.get? key :=
  lookup_put m.entries k v key

/-- When the entries of a key are removed it has no value, and every other key keeps its own. -/
theorem lookup_filter_ne (es : List (α × β)) (k key : α) :
    (es.filter fun e => decide (e.1 ≠ k)).lookup key =
      if key = k then none else es.lookup key := by
  induction es with
  | nil => simp
  | cons e es ih =>
    by_cases he : e.1 = k
    · rw [List.filter_cons_of_neg (by simpa using he), ih, lookup_cons_eq, he]
      split <;> rfl
    · rw [List.filter_cons_of_pos (by simpa using he), lookup_cons_eq, lookup_cons_eq, ih]
      by_cases hkey : key = e.1
      · rw [if_pos hkey, if_pos hkey, if_neg fun heq => he (hkey.symm.trans heq)]
      · rw [if_neg hkey, if_neg hkey]

/-- A key that was removed is not found any more, and the others are as before. -/
theorem get?_erase (m : OrderedMap α β) (k key : α) :
    (m.erase k).get? key = if key = k then none else m.get? key :=
  lookup_filter_ne m.entries k key

/-- Of the values put under a key the last one is found, or else what was there. -/
theorem get?_putAll (m : OrderedMap α β) (es : List (α × β)) (k : α) :
    (m.putAll es).get? k = (es.reverse.lookup k).or (m.get? k) := by
  unfold putAll
  induction es generalizing m with
  | nil => rfl
  | cons e es ih =>
    rw [List.foldl_cons, ih, get?_put, List.reverse_cons, List.lookup_append, Option.or_assoc,
      lookup_cons_eq, List.lookup_nil]
    congr 1
    split <;> rfl

/-- A map made of entries has the last value of each key. -/
theorem get?_ofList (es : List (α × β)) (k : α) : (ofList es).get? k = es.reverse.lookup k := by
  unfold ofList
  rw [get?_putAll]
  exact Option.or_none

/-- A key has the value of the last entry with it. -/
theorem get?_ofList_eq_some_iff {es : List (α × β)} {k : α} {v : β} : (ofList es).get? k = some v ↔
    ∃ before after, es = before ++ (k, v) :: after ∧ ∀ e ∈ after, e.1 ≠ k := by
  rw [get?_ofList, List.lookup_eq_some_iff]
  -- Read backwards, the last entry with the key is the first one.
  constructor
  · rintro ⟨after, before, heq, hafter⟩
    refine ⟨before.reverse, after.reverse, ?_, fun e he heq => ?_⟩
    · simpa using congrArg List.reverse heq
    · simpa [heq] using hafter e (List.mem_reverse.mp he)
  · rintro ⟨before, after, rfl, hafter⟩
    refine ⟨after.reverse, before.reverse, by simp, fun e he => ?_⟩
    simpa using Ne.symm (hafter e (List.mem_reverse.mp he))

/-- The values of the second map count. -/
theorem get?_union (m n : OrderedMap α β) (k : α) :
    (m.union n).get? k = (n.get? k).or (m.get? k) := by
  unfold union
  rw [get?_putAll, ← get?_ofList, ofList_entries]

/-- A key has no value exactly if it is not there. -/
theorem get?_eq_none_iff {m : OrderedMap α β} {k : α} : m.get? k = none ↔ k ∉ m.keys := by
  unfold get? keys
  simp only [List.lookup_eq_none_iff, List.mem_map, not_exists, not_and, bne_iff_ne]
  exact ⟨fun h e he heq => h e he heq.symm, fun h e he heq => h e he heq.symm⟩

/-- A key has the value of its entry. -/
theorem get?_of_mem_entries {m : OrderedMap α β} {e : α × β} (h : e ∈ m.entries) :
    m.get? e.1 = some e.2 :=
  lookup_of_mem m.nodup h

/-- Maps with the same keys, in the same order, and the same values are the same. There is nothing else to
a map, since its keys are different. -/
theorem ext_get? {m n : OrderedMap α β} (hkeys : m.keys = n.keys)
    (hget : ∀ k ∈ m.keys, m.get? k = n.get? k) : m = n := by
  have hentries (m : OrderedMap α β) :
      m.entries.map some = m.keys.map fun k => (m.get? k).map (Prod.mk k) := by
    unfold keys
    rw [List.map_map]
    refine List.map_congr_left fun e he => ?_
    show some e = (m.get? e.1).map (Prod.mk e.1)
    rw [get?_of_mem_entries he, Option.map_some]
  have hsame : (m.keys.map fun k => (m.get? k).map (Prod.mk k)) =
      m.keys.map fun k => (n.get? k).map (Prod.mk k) :=
    List.map_congr_left fun k hk => by rw [hget k hk]
  refine ext_entries ((List.map_inj_right fun _ _ => Option.some.inj).mp ?_)
  rw [hentries m, hentries n, hsame, hkeys]

/-! ## Unions -/

/-- Nothing is put into the map. -/
@[simp] theorem union_empty (m : OrderedMap α β) : m.union ∅ = m :=
  rfl

/-- What is put into the empty map is all there is, in the same order. -/
@[simp] theorem empty_union (m : OrderedMap α β) : union ∅ m = m :=
  ofList_entries m

/-- A map that is put into itself does not change. -/
@[simp] theorem union_self (m : OrderedMap α β) : m.union m = m := by
  have hnone : (m.keys.filter fun k => decide (k ∉ m.keys)) = [] :=
    List.filter_eq_nil_iff.mpr fun k hk => by simpa using hk
  refine ext_get? ?_ fun k _ => ?_
  · rw [keys_union, hnone, List.append_nil]
  · rw [get?_union, Option.or_self]

/-- Three maps can be put together in either order. Places come from the first map that has a key, values
from the last. -/
theorem union_assoc (l m n : OrderedMap α β) : (l.union m).union n = l.union (m.union n) := by
  refine ext_get? ?_ fun k _ => ?_
  · -- A key of the last map is new to both others if it is new to each of them.
    have hnew : (n.keys.filter fun k => decide (k ∉ (l.union m).keys)) =
        (n.keys.filter fun k => decide (k ∉ m.keys)).filter fun k => decide (k ∉ l.keys) := by
      rw [List.filter_filter]
      refine List.filter_congr fun k _ => ?_
      have hmem : k ∈ (l.union m).keys ↔ k ∈ l.keys ∨ k ∈ m.keys := mem_keys_putAll
      simp only [hmem, not_or, Bool.decide_and]
    rw [keys_union, hnew, keys_union, keys_union l, keys_union m, List.filter_append,
      List.append_assoc]
  · rw [get?_union, get?_union, get?_union, get?_union, Option.or_assoc]

end OrderedMap

end TermAudit
