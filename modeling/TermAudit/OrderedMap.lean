/-!
# `TermAudit.OrderedMap`: maps that remember the order of their keys

An `OrderedMap` holds each key once, with one value, in the order in which the keys first came.
`put` gives a key a new value and leaves it at its place; a new key goes to the end. `union` puts
all entries of a second map into a first one. The view of a map is its list of entries; `get?` and
`keys` are functions of that list.
-/

set_option autoImplicit false

namespace TermAudit

namespace Entries

variable {α β : Type}

/-- Gives the first key that `same` relates to `k` the value `v`, or adds an entry at the end. The
key that was there first stays. -/
def put (same : α → α → Bool) (k : α) (v : β) : List (α × β) → List (α × β)
  | [] => [(k, v)]
  | (k', v') :: rest => if same k' k then (k', v) :: rest else (k', v') :: put same k v rest

variable [DecidableEq α]

/-- `put` by equality of keys keeps the keys, with a new one at the end. -/
theorem keys_put (k : α) (v : β) (es : List (α × β)) :
    (put (fun a b => decide (a = b)) k v es).map Prod.fst =
      if k ∈ es.map Prod.fst then es.map Prod.fst else es.map Prod.fst ++ [k] := by
  induction es with
  | nil => simp [put]
  | cons e rest ih =>
    obtain ⟨k', v'⟩ := e
    by_cases h : k' = k
    · simp [put, h]
    · have hne : ¬ k = k' := fun hk => h hk.symm
      simp only [put, h, decide_false, Bool.false_eq_true, if_false, List.map_cons, ih,
        List.mem_cons, hne, false_or]
      split <;> simp

/-- Putting a key keeps keys different, so that a map stays well-formed. -/
theorem nodup_put (k : α) (v : β) {es : List (α × β)} (h : (es.map Prod.fst).Nodup) :
    ((put (fun a b => decide (a = b)) k v es).map Prod.fst).Nodup := by
  rw [keys_put]
  split
  · exact h
  · rename_i hk
    rw [List.nodup_append]
    refine ⟨h, by simp, ?_⟩
    intro a ha b hb hab
    simp only [List.mem_singleton] at hb
    exact hk (hb ▸ hab ▸ ha)

end Entries

/-- A map that remembers the order in which its keys first came. That no key is there twice is part of the
map, so no operation can lose it. -/
structure OrderedMap (α β : Type) where
  /-- Keys with their values, in order. -/
  entries : List (α × β)
  /-- No key is there twice. -/
  nodup : (entries.map Prod.fst).Nodup

namespace OrderedMap

variable {α β : Type}

/-- Maps with the same entries in the same order are the same. -/
theorem ext_entries {m n : OrderedMap α β} (h : m.entries = n.entries) : m = n := by
  cases m; cases n; simp_all

/-- The map without entries. -/
def empty : OrderedMap α β := ⟨[], by simp⟩

/-- The empty map can be written as a set. -/
instance : EmptyCollection (OrderedMap α β) := ⟨empty⟩

/-- The keys in order. -/
def keys (m : OrderedMap α β) : List α :=
  m.entries.map Prod.fst

/-- How many keys there are. -/
def size (m : OrderedMap α β) : Nat :=
  m.entries.length

/-- Whether there are no entries. -/
def isEmpty (m : OrderedMap α β) : Bool :=
  m.entries.isEmpty

variable [DecidableEq α]

/-- Equality of maps can be computed by their entries. -/
instance [DecidableEq β] : DecidableEq (OrderedMap α β) := fun m n =>
  if h : m.entries = n.entries then isTrue (ext_entries h) else isFalse fun e => h (e ▸ rfl)

/-- The value of a key. -/
def get? (m : OrderedMap α β) (k : α) : Option β :=
  m.entries.lookup k

/-- Whether a key is there. This is decided by the keys alone, whatever their values. -/
def contains (m : OrderedMap α β) (k : α) : Bool :=
  decide (k ∈ m.keys)

/-- Gives a key a value: at its place if it is there, and at the end if it is new. -/
def put (m : OrderedMap α β) (k : α) (v : β) : OrderedMap α β where
  entries := Entries.put (fun a b => decide (a = b)) k v m.entries
  nodup := Entries.nodup_put k v m.nodup

/-- Removes a key and its value. If the key comes again, it comes last. -/
def erase (m : OrderedMap α β) (k : α) : OrderedMap α β where
  entries := m.entries.filter fun e => decide (e.1 ≠ k)
  nodup := (List.filter_sublist.map Prod.fst).nodup m.nodup

/-- Puts entries into a map, one after the other. -/
def putAll (m : OrderedMap α β) (es : List (α × β)) : OrderedMap α β :=
  es.foldl (fun m e => m.put e.1 e.2) m

/-- The map of a list of entries: of a repeated key the first place and the last value count. -/
def ofList (es : List (α × β)) : OrderedMap α β :=
  putAll empty es

/-- The entries of `m` and `n`; of a key in both the place in `m` and the value in `n` count. -/
def union (m n : OrderedMap α β) : OrderedMap α β :=
  m.putAll n.entries

/-- Putting a key leaves the keys as they are, or adds it at the end. -/
theorem keys_put (m : OrderedMap α β) (k : α) (v : β) :
    (m.put k v).keys = if k ∈ m.keys then m.keys else m.keys ++ [k] :=
  Entries.keys_put k v m.entries

end OrderedMap

end TermAudit
