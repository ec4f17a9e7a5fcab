import TermAudit.Proofs.Yaml.Faults

/-!
# `TermAudit.Proofs.Yaml.Merges`: how much work merges are

`Graph.mergeCount` counts the keys `<<` of a graph and is the fuel of a merge. Every merge uses one of
them up and no merge makes another, so more fuel than that changes nothing (`Graph.mergeInto_fuel`):
what a merge gives does not depend on how many keys `<<` there are elsewhere.
-/

set_option autoImplicit false

namespace TermAudit.Yaml

/-! ## Computations that end in the same way -/

/-- The two computations fail alike, or have results that are related. It is closed under running one
thing after another, which is all that is used of it. -/
def EndAlike {α β ε : Type} (R : α → β → Prop) (x : Except ε α) (y : Except ε β) : Prop :=
  (∃ e, x = .error e ∧ y = .error e) ∨ ∃ a b, x = .ok a ∧ y = .ok b ∧ R a b

section EndAlike

variable {α β γ δ ε : Type} {R : α → β → Prop} {Q : γ → δ → Prop}

/-- Two results that are related. -/
theorem endAlike_ok {a : α} {b : β} (h : R a b) : EndAlike (ε := ε) R (.ok a) (.ok b) :=
  Or.inr ⟨a, b, rfl, rfl, h⟩

/-- A computation ends like itself. -/
theorem endAlike_rfl (x : Except ε α) : EndAlike Eq x x := by
  cases x with
  | error e => exact Or.inl ⟨e, rfl, rfl⟩
  | ok a => exact endAlike_ok rfl

/-- If the first steps end alike, and the second ones do so after related results, then all does. -/
theorem EndAlike.bind {x : Except ε α} {y : Except ε β} {f : α → Except ε γ} {f' : β → Except ε δ}
    (h : EndAlike R x y) (hf : ∀ a b, R a b → EndAlike Q (f a) (f' b)) :
    EndAlike Q (x >>= f) (y >>= f') := by
  rcases h with ⟨e, rfl, rfl⟩ | ⟨a, b, rfl, rfl, hab⟩
  · exact Or.inl ⟨e, rfl, rfl⟩
  · exact hf a b hab

/-- Results that are related by more are related by less. -/
theorem EndAlike.mono {x : Except ε α} {y : Except ε β} {R' : α → β → Prop} (h : EndAlike R x y)
    (himp : ∀ a b, R a b → R' a b) : EndAlike R' x y := by
  rcases h with herror | ⟨a, b, hx, hy, hab⟩
  · exact Or.inl herror
  · exact Or.inr ⟨a, b, hx, hy, himp a b hab⟩

/-- What is known of all results of the first computation is known of those that are related. -/
theorem EndAlike.and {P : α → Prop} {x : Except ε α} {y : Except ε β}
    (h : EndAlike R x y) (hx : ∀ a, x = .ok a → P a) : EndAlike (fun a b => R a b ∧ P a) x y := by
  rcases h with herror | ⟨a, b, rfl, rfl, hab⟩
  · exact Or.inl herror
  · exact Or.inr ⟨a, b, rfl, rfl, hab, hx a rfl⟩

/-- Two runs over one list end alike if each step keeps what relates their results. -/
theorem endAlike_foldlM {ι : Type} {f : α → ι → Except ε α} {f' : β → ι → Except ε β} {l : List ι}
    (hf : ∀ i ∈ l, ∀ a b, R a b → EndAlike R (f a i) (f' b i)) {a : α} {b : β} (h : R a b) :
    EndAlike R (l.foldlM f a) (l.foldlM f' b) := by
  induction l generalizing a b with
  | nil => exact endAlike_ok h
  | cons i l ih =>
    rw [List.foldlM_cons, List.foldlM_cons]
    refine (hf i List.mem_cons_self a b h).bind fun a b hab => ?_
    exact ih (fun j hj => hf j (List.mem_cons_of_mem _ hj)) hab

end EndAlike

namespace Graph

variable {g g' : Graph} {id : NodeId} {es : List (NodeId × NodeId)}

/-! ## Keys `<<` -/

/-- Whether the node is a key `<<`. This is decided by its tag, so a quoted `<<` is none. -/
def isMergeKey (g : Graph) (key : NodeId) : Bool :=
  (g.node key).tag == .merge

/-- The number of keys `<<` in a node. Merging a node uses them up, and the entries it takes over have
none. -/
def mergesOf (g : Graph) (n : Node) : Nat :=
  match n.content with
  | .mapping entries => entries.countP fun e => g.isMergeKey e.1
  | _ => 0

/-- No entry has a key `<<`. So it is for a mapping that has been merged. -/
def Settled (g : Graph) (es : List (NodeId × NodeId)) : Prop :=
  ∀ e ∈ es, g.isMergeKey e.1 = false

/-- The count of a graph is the sum over its nodes. -/
theorem mergeCount_eq (g : Graph) :
    g.mergeCount = (g.nodes.toList.map g.mergesOf).foldr (· + ·) 0 :=
  rfl

/-- The keys `<<` of a node are those among its entries. -/
theorem mergesOf_node (g : Graph) (id : NodeId) :
    g.mergesOf (g.node id) = (g.entries id).countP fun e => g.isMergeKey e.1 := by
  unfold mergesOf entries
  cases (g.node id).content with
  | scalar _ => rfl
  | sequence _ => rfl
  | mapping _ => rfl

/-- Merges make no keys `<<` and no other keys of these. -/
theorem StemsFrom.isMergeKey (h : g'.StemsFrom g) (key : NodeId) :
    g'.isMergeKey key = g.isMergeKey key := by
  unfold Graph.isMergeKey
  rcases h.tag key with heq | ⟨hvalue, hstr⟩
  · rw [heq]
  · rw [hvalue, hstr]
    rfl

/-- Entries are without a key `<<` before and after merges, or neither. -/
theorem StemsFrom.settled_iff (h : g'.StemsFrom g) : g'.Settled es ↔ g.Settled es :=
  forall₂_congr fun e _ => by rw [h.isMergeKey]

/-- A changed summand changes a sum by as much. -/
theorem foldr_add_set {α : Type} (f : α → Nat) {l : List α} {i : Nat} {a b : α} (h : l[i]? = some a) :
    ((l.set i b).map f).foldr (· + ·) 0 + f a = (l.map f).foldr (· + ·) 0 + f b := by
  induction l generalizing i with
  | nil => cases h
  | cons c l ih =>
    cases i with
    | zero =>
      cases h
      simp only [List.set_cons_zero, List.map_cons, List.foldr_cons]
      omega
    | succ i =>
      have hrest := ih (i := i) h
      simp only [List.set_cons_succ, List.map_cons, List.foldr_cons]
      omega

/-- A node that is put into a graph brings its own keys `<<` and takes away those from before. It must not
become such a key itself, or cease to be one. -/
theorem mergeCount_set {n : Node} (hid : id < g.size)
    (hkey : (n.tag == .merge) = g.isMergeKey id) :
    (g.set id n).mergeCount + g.mergesOf (g.node id) = g.mergeCount + g.mergesOf n := by
  -- Which keys are `<<` is the same in both graphs, so only the new node has to be counted anew.
  have hsame : (g.set id n).mergesOf = g.mergesOf := by
    have hkeys (key : NodeId) : (g.set id n).isMergeKey key = g.isMergeKey key := by
      unfold isMergeKey at hkey ⊢
      rw [node_set]
      split
      · rename_i heq
        rw [hkey, heq.1]
      · rfl
    funext n
    unfold mergesOf
    simp only [hkeys]
  have hnode : g.nodes.toList[id]? = some (g.node id) := by
    unfold node
    rw [Array.getElem?_toList, Array.getD_eq_getD_getElem?, Array.getElem?_eq_getElem hid]
    rfl
  rw [mergeCount_eq, mergeCount_eq, hsame]
  have htoList : (g.set id n).nodes.toList = g.nodes.toList.set id n := Array.toList_setIfInBounds
  rw [htoList]
  exact foldr_add_set g.mergesOf hnode

/-- A number without a node cannot be given one. -/
theorem set_of_size_le {n : Node} (h : g.size ≤ id) : g.set id n = g := by
  unfold set
  rw [Array.setIfInBounds_eq_of_size_le h]

/-- A mapping that is given other entries brings the keys `<<` of these. -/
theorem mergeCount_setEntries (es : List (NodeId × NodeId)) (hid : id < g.size) :
    (g.setEntries id es).mergeCount + ((g.entries id).countP fun e => g.isMergeKey e.1) =
      g.mergeCount + es.countP fun e => g.isMergeKey e.1 := by
  rw [← mergesOf_node]
  exact mergeCount_set hid rfl

/-- A number without a node has no entries. -/
theorem entries_of_size_le (h : g.size ≤ id) : g.entries id = [] := by
  unfold entries
  rw [node_of_size_le h]

/-- Making keys `=` plain makes no key `<<` and takes none away. -/
theorem mergeCount_plainKeys (g : Graph) (es : List (NodeId × NodeId)) :
    (g.plainKeys es).mergeCount = g.mergeCount := by
  unfold plainKeys
  induction es generalizing g with
  | nil => rfl
  | cons e es ih =>
    rw [List.foldl_cons, ih]
    dsimp only
    split
    · rename_i hvalue
      -- A key that is no node of the graph cannot be changed.
      by_cases hid : e.1 < g.size
      · have hkey : (Tag.str == .merge) = g.isMergeKey e.1 := by
          unfold isMergeKey
          rw [hvalue]
          rfl
        have hcount := mergeCount_set (n := { g.node e.1 with tag := .str }) hid hkey
        exact Nat.add_right_cancel hcount
      · rw [set_of_size_le (Nat.le_of_not_lt hid)]
    · rfl

/-! ## Steps of a merge -/

/-- Nothing can be split off exactly if there is no key `<<`. -/
theorem splitMerge_eq_none_iff : g.splitMerge es = none ↔ g.Settled es := by
  unfold Settled isMergeKey
  induction es with
  | nil => exact iff_of_true rfl fun _ he => absurd he List.not_mem_nil
  | cons e es ih =>
    obtain ⟨key, value⟩ := e
    unfold splitMerge
    rw [List.forall_mem_cons, beq_eq_false_iff_ne]
    by_cases hkey : (g.node key).tag = .merge
    · rw [if_pos hkey]
      exact iff_of_false (fun h => by cases h) fun h => h.1 hkey
    · rw [if_neg hkey, Option.map_eq_none_iff, ih]
      exact (and_iff_right hkey).symm

/-- What is split off is the value of a key `<<`, and all others stay. -/
theorem splitMerge_eq_some {source : NodeId} {others : List (NodeId × NodeId)}
    (h : g.splitMerge es = some (source, others)) :
    (∃ e ∈ es, e.2 = source) ∧ others ⊆ es ∧
      (others.countP fun e => g.isMergeKey e.1) + 1 = es.countP fun e => g.isMergeKey e.1 := by
  induction es generalizing others with
  | nil => cases h
  | cons e es ih =>
    obtain ⟨key, value⟩ := e
    unfold splitMerge at h
    rw [List.countP_cons]
    split at h
    · -- The first key `<<` is the one taken out.
      rename_i hkey
      cases h
      have hmerge : g.isMergeKey key = true := beq_iff_eq.mpr hkey
      refine ⟨⟨_, List.mem_cons_self, rfl⟩, fun e he => List.mem_cons_of_mem _ he, ?_⟩
      rw [if_pos hmerge]
    · rename_i hkey
      obtain ⟨⟨source', others'⟩, hsplit, heq⟩ := Option.map_eq_some_iff.mp h
      cases heq
      have hmerge : g.isMergeKey key = false := beq_eq_false_iff_ne.mpr hkey
      obtain ⟨⟨e, he, hsource⟩, hsubset, hcount⟩ := ih hsplit
      refine ⟨⟨e, List.mem_cons_of_mem _ he, hsource⟩, List.cons_subset_cons _ hsubset, ?_⟩
      rw [List.countP_cons, hmerge]
      exact hcount

/-- What merges can make of a graph. The count gets no larger, so fuel that was enough for the graph stays
enough. -/
structure MergesTo (g g' : Graph) : Prop where
  stems : g'.StemsFrom g
  count : g'.mergeCount ≤ g.mergeCount

/-- No merge at all leaves the graph as it is. -/
theorem MergesTo.refl (g : Graph) : g.MergesTo g :=
  ⟨.refl g, Nat.le_refl _⟩

/-- Merges one after the other are merges, and the count goes on falling. -/
theorem MergesTo.trans {g'' : Graph} (h : g.MergesTo g') (h' : g'.MergesTo g'') : g.MergesTo g'' :=
  ⟨h'.stems.trans h.stems, Nat.le_trans h'.count h.count⟩

/-- A node of the graph has the entries that it was given. -/
theorem entries_setEntries (hid : id < g.size) : (g.setEntries id es).entries id = es := by
  unfold entries setEntries
  rw [node_set, if_pos ⟨rfl, hid⟩]

/-- Without entries there is no key `<<`. -/
theorem settled_nil : g.Settled [] :=
  fun _ he => absurd he List.not_mem_nil

/-- Entries without keys `<<` can be put together. -/
theorem Settled.append {es es' : List (NodeId × NodeId)} (h : g.Settled es) (h' : g.Settled es') :
    g.Settled (es ++ es') :=
  List.forall_mem_append.mpr ⟨h, h'⟩

/-- They have none to be counted. -/
theorem Settled.countP_eq_zero {es : List (NodeId × NodeId)} (h : g.Settled es) :
    (es.countP fun e => g.isMergeKey e.1) = 0 := by
  refine List.countP_eq_zero.mpr fun e he => ?_
  rw [h e he]
  exact Bool.false_ne_true

/-- The end of a merge leaves no key `<<` in the mapping and makes none elsewhere. -/
theorem mergesTo_finishMerge {taken : List (NodeId × NodeId)} (hown : g.Settled (g.entries id))
    (htaken : g.Settled taken) :
    g.MergesTo (g.finishMerge id taken) ∧
      (g.finishMerge id taken).Settled ((g.finishMerge id taken).entries id) := by
  have hstems := stemsFrom_finishMerge g id taken
  have hplain := stemsFrom_plainKeys g (g.entries id)
  by_cases hid : id < g.size
  · have hall := htaken.append hown
    have hid' : id < (g.plainKeys (g.entries id)).size := hplain.size ▸ hid
    refine ⟨⟨hstems, ?_⟩, ?_⟩
    · -- The entries that are set have no key `<<`, so the count loses what the mapping had.
      have hcount := mergeCount_setEntries (taken ++ g.entries id) hid'
      rw [(hplain.settled_iff.mpr hall).countP_eq_zero, mergeCount_plainKeys] at hcount
      exact Nat.le_of_add_right_le (Nat.le_of_eq hcount)
    · rw [hstems.settled_iff]
      unfold finishMerge
      rw [entries_setEntries hid']
      exact hall
  · -- A node that is not in the graph has no entries, and nothing is set there.
    have hle := Nat.le_of_not_lt hid
    have hsame : g.finishMerge id taken = g := by
      have hempty := entries_of_size_le hle
      unfold finishMerge setEntries
      rw [hempty]
      exact set_of_size_le hle
    rw [hsame]
    exact ⟨.refl g, hown⟩

/-- Taking out a key `<<` leaves one less. -/
theorem mergeCount_takeOut {source : NodeId} {others : List (NodeId × NodeId)}
    (h : g.splitMerge (g.entries id) = some (source, others)) :
    (g.setEntries id others).mergeCount + 1 = g.mergeCount := by
  have hid : id < g.size := by
    by_contra hlt
    rw [entries_of_size_le (Nat.le_of_not_lt hlt)] at h
    cases h
  obtain ⟨-, -, hothers⟩ := splitMerge_eq_some h
  have hcount := mergeCount_setEntries others hid
  omega

/-- Without a key `<<` a merge is at its end, whatever fuel there is. -/
theorem mergeInto_of_settled {fuel : Nat} {taken : List (NodeId × NodeId)}
    (h : g.splitMerge (g.entries id) = none) :
    mergeInto fuel g id taken = .ok (g.finishMerge id taken) := by
  cases fuel with
  | zero => rfl
  | succ fuel =>
    unfold mergeInto
    rw [h]
    rfl

/-- Without a key `<<` no fuel is used. -/
theorem mergeInto_fuel_of_settled {n m : Nat} {taken : List (NodeId × NodeId)}
    (h : g.splitMerge (g.entries id) = none) (htaken : g.Settled taken) :
    EndAlike (fun h h' => h = h' ∧ g.MergesTo h ∧ h.Settled (h.entries id))
      (mergeInto n g id taken) (mergeInto m g id taken) := by
  rw [mergeInto_of_settled h, mergeInto_of_settled h]
  exact endAlike_ok ⟨rfl, mergesTo_finishMerge (splitMerge_eq_none_iff.mp h) htaken⟩

/-- A merge gives the same with any fuel that is enough for the keys `<<`. It leaves none in the mapping,
and so there are fewer of them for the merges behind it. -/
theorem mergeInto_fuel {n m : Nat} {taken : List (NodeId × NodeId)} (hn : g.mergeCount ≤ n)
    (hm : g.mergeCount ≤ m) (htaken : g.Settled taken) :
    EndAlike (fun h h' => h = h' ∧ g.MergesTo h ∧ h.Settled (h.entries id))
      (mergeInto n g id taken) (mergeInto m g id taken) := by
  induction n generalizing g id taken m with
  | zero =>
    cases hsplit : g.splitMerge (g.entries id) with
    | none => exact mergeInto_fuel_of_settled hsplit htaken
    | some r =>
      have hcount := mergeCount_takeOut hsplit
      omega
  | succ n ih =>
    cases hsplit : g.splitMerge (g.entries id) with
    | none => exact mergeInto_fuel_of_settled hsplit htaken
    | some r =>
      obtain ⟨source, others⟩ := r
      have hcount := mergeCount_takeOut hsplit
      -- The key taken out was counted, so the other fuel is not used up either.
      obtain ⟨m, rfl⟩ := Nat.exists_eq_add_of_le' (show 1 ≤ m by omega)
      have hstems := stemsFrom_setEntries g id others
      have htakeOut : g.MergesTo (g.setEntries id others) := ⟨hstems, by omega⟩
      unfold mergeInto
      rw [hsplit]
      dsimp only
      -- Both go through the same sources, with graphs that have less keys than the fuel lasts for.
      refine (endAlike_rfl _).bind ?_
      rintro sources _ rfl
      refine EndAlike.bind (R := fun r r' => r = r' ∧ (g.setEntries id others).MergesTo r.1 ∧
        r.1.Settled r.2.flatten) ?_ ?_
      · refine endAlike_foldlM ?_ ⟨rfl, .refl _, settled_nil⟩
        rintro source - ⟨h, found⟩ _ ⟨rfl, hmerges, hfound⟩
        have hle := hmerges.count
        dsimp only at hmerges hfound hle ⊢
        split
        · refine (ih (by omega) (by omega) settled_nil).bind ?_
          rintro h' _ ⟨rfl, hmerges', hsettled⟩
          exact endAlike_ok ⟨rfl, hmerges.trans hmerges',
            hsettled.append (hmerges'.stems.settled_iff.mpr hfound)⟩
        · exact Or.inl ⟨_, rfl, rfl⟩
      · rintro ⟨h, found⟩ _ ⟨rfl, hmerges, hfound⟩
        have hle := hmerges.count
        dsimp only at hmerges hfound hle ⊢
        have hsettled : h.Settled (taken ++ found.flatten) :=
          ((htakeOut.trans hmerges).stems.settled_iff.mpr htaken).append hfound
        refine (ih (by omega) (by omega) hsettled).mono ?_
        rintro h' _ ⟨rfl, hmerges', hdone⟩
        exact ⟨rfl, (htakeOut.trans hmerges).trans hmerges', hdone⟩

/-- With fuel enough, the graph that a merge makes is one that merges can make. -/
theorem mergesTo_of_mergeInto {fuel : Nat} {taken : List (NodeId × NodeId)} (hfuel : g.mergeCount ≤ fuel)
    (htaken : g.Settled taken) (hrun : mergeInto fuel g id taken = .ok g') : g.MergesTo g' := by
  have hends : EndAlike _ (mergeInto fuel g id taken) _ := mergeInto_fuel hfuel hfuel htaken
  rcases hends with ⟨e, herror, -⟩ | ⟨g₁, g₂, hok, -, rfl, h, -⟩
  · rw [hrun] at herror
    cases herror
  · rw [hrun] at hok
    cases hok
    exact h

/-- The fuel of a merge can be more than the number of keys `<<`. -/
theorem merged_eq_mergeInto {fuel : Nat} (h : g.mergeCount ≤ fuel) :
    g.merged id = mergeInto fuel g id [] := by
  unfold merged
  rcases mergeInto_fuel (Nat.le_refl _) h settled_nil with
    ⟨e, hleft, hright⟩ | ⟨g₁, g₂, hleft, hright, rfl, -⟩
  · rw [hleft, hright]
  · rw [hleft, hright]

end Graph

end TermAudit.Yaml
