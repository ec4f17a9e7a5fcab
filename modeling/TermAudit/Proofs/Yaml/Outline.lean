import Mathlib.Data.List.Forall2
import TermAudit.Proofs.OrderedMap
import TermAudit.Proofs.State
import TermAudit.Proofs.Yaml.Faults
import TermAudit.Proofs.Yaml.Graph
import TermAudit.Proofs.Yaml.Values
import TermAudit.Yaml.Outline

/-!
# `TermAudit.Proofs.Yaml.Outline`: making a document level by level

`Outline.ofDocument` makes each collection of references to the nodes in it and takes the collections
in turn from a queue. `Outline.ofDocument_of_shows` says that a document whose graph shows a value is
that value, as far down as it is looked at.

The invariant of the queue is `Outline.Sound`: what is known of a node is what the graph shows, and
every collection that has been met waits for its turn or has been made, and never both. So no node has
two turns, and the fuel lasts.
-/

set_option autoImplicit false

namespace TermAudit

/-- The value ends within so many levels of collections. Values with tuples and sets are left out, as the
documents that this is used for have none. -/
def Value.Ends : Nat → Value → Prop
  | _, .scalar _ => True
  | depth + 1, .list items => ∀ v ∈ items, Ends depth v
  | depth + 1, .mapping entries => ∀ e ∈ entries, Ends depth e.2
  | _, _ => False

namespace Yaml

/-- What a node with a value is in another one. Scalars are put in as they are, and collections are
referred to by their nodes. -/
def Reference.of (id : NodeId) : Value → Reference
  | .scalar x => .scalar x
  | _ => .collection id

namespace Outline

variable {g : Graph} {s s' s'' : Outline}

/-- The reference is to a node that has been met and has the value. The value is the one that the graph
shows, and not one that has been made. -/
def Refers (s : Outline) (g : Graph) (r : Reference) (v : Value) : Prop :=
  ∃ id, s.known.lookup id = some r ∧ g.Shows id v

/-- The level has references to what is in the value. A level is one collection without what is inside of
the collections in it. -/
inductive Spans (s : Outline) (g : Graph) : Level → Value → Prop
  | list {refs : List Reference} {items : List Value}
    (h : List.Forall₂ (s.Refers g) refs items) : Spans s g (.list refs) (.list items)
  | mapping {refs : List (Scalar × Reference)} {entries : List (Scalar × Value)}
    (h : List.Forall₂ (fun r e => r.1 = e.1 ∧ s.Refers g r.2 e.2) refs entries) :
    Spans s g (.mapping refs) (.mapping entries)

/-- What has been met stays known. It lets references that were right before be right afterwards. -/
def Extends (s' s : Outline) : Prop :=
  ∀ id r, s.known.lookup id = some r → s'.known.lookup id = some r

/-- A document in the making knows what it knows. -/
theorem Extends.refl (s : Outline) : s.Extends s :=
  fun _ _ h => h

/-- What has been met stays known however long the making goes on. -/
theorem Extends.trans (h : s''.Extends s') (h' : s'.Extends s) : s''.Extends s :=
  fun id r hr => h id r (h' id r hr)

/-- A reference means the same later on. -/
theorem Refers.of_extends {r : Reference} {v : Value} (h : s.Refers g r v) (hs : s'.Extends s) :
    s'.Refers g r v := by
  obtain ⟨id, hknown, hshows⟩ := h
  exact ⟨id, hs id r hknown, hshows⟩

/-- A level that has been made stays right while other levels are made. -/
theorem Spans.of_extends {level : Level} {v : Value} (h : s.Spans g level v) (hs : s'.Extends s) :
    s'.Spans g level v := by
  cases h with
  | list h => exact .list (h.imp fun _ _ hr => hr.of_extends hs)
  | mapping h => exact .mapping (h.imp fun _ _ hr => ⟨hr.1, hr.2.of_extends hs⟩)

/-- The collections that have been met: one that is being made, those that wait, and those that have been
made. Each of them is in one of the three places only. -/
def met (aside : List NodeId) (s : Outline) : List NodeId :=
  aside ++ s.waiting ++ s.levels.map Prod.fst

/-- What holds of a document in the making whose graph shows a value, with the collections `aside` taken
from the queue. It is the invariant of the queue: known nodes are right, and each collection that has been
met is either waiting or made. -/
structure Sound (g : Graph) (aside : List NodeId) (s : Outline) : Prop where
  graph : s.graph = g
  known : ∀ id r, s.known.lookup id = some r → ∃ v, g.Shows id v ∧ r = .of id v
  levels : ∀ id level, s.levels.lookup id = some level → ∃ v, g.Shows id v ∧ s.Spans g level v
  met : ∀ id, s.known.lookup id = some (.collection id) ↔ id ∈ s.met aside
  nodup : (s.met aside).Nodup

/-- A computation gives something related to `b`, and the document in the making stays sound. Nothing is
made meanwhile, since collections that are met are put into the queue. -/
def Finds {α β : Type} (g : Graph) (aside : List NodeId) (x : Outlining α)
    (R : Outline → α → β → Prop) (b : β) : Prop :=
  ∀ s, Sound g aside s → ∃ a s', x.run s = .ok (a, s') ∧ Sound g aside s' ∧ s'.Extends s ∧
    s'.levels = s.levels ∧ R s' a b

/-! ## References -/

variable {aside : List NodeId} {id : NodeId} {v : Value}

/-- A collection in a graph that shows it has no scalar. -/
theorem scalar?_cases (h : g.Shows id v) :
    (∃ x, v = .scalar x ∧ g.scalar? id = some (.ok x)) ∨
      (.of id v = Reference.collection id ∧ g.scalar? id = none ∧
        ((g.node id).tag = .seq ∨ (g.node id).tag = .map)) := by
  cases v with
  | scalar x => exact Or.inl ⟨x, rfl, h.2.scalar?_eq⟩
  | list items =>
    exact Or.inr ⟨rfl, Graph.scalar?_of_tag (Or.inl h.2.1), Or.inl h.2.1⟩
  | mapping entries =>
    exact Or.inr ⟨rfl, Graph.scalar?_of_tag (Or.inr h.2.1), Or.inr h.2.1⟩
  | tuple => exact h.elim
  | set => exact h.elim

/-- A node that has not been met is none of the collections that have been. -/
theorem Sound.not_mem_met (hs : Sound g aside s) (hnew : s.known.lookup id = none) :
    id ∉ s.met aside := by
  intro hmem
  rw [(hs.met id).mpr hmem] at hnew
  cases hnew

/-- A scalar is never met as a collection, and a collection is met from the time it is known. -/
theorem Sound.know_met (hs : Sound g aside s) (hnew : s.known.lookup id = none)
    (hmet : s'.met aside = s.met aside ∧ .of id v ≠ Reference.collection id ∨
      (s'.met aside).Perm (id :: s.met aside) ∧ .of id v = Reference.collection id)
    (other : NodeId) :
    (if other = id then some (.of id v) else s.known.lookup other) =
      some (Reference.collection other) ↔ other ∈ s'.met aside := by
  rcases hmet with ⟨heq, hscalar⟩ | ⟨hperm, hcollection⟩
  · rw [heq]
    split
    · rename_i hid
      subst hid
      exact iff_of_false (fun h => hscalar (Option.some.inj h)) (hs.not_mem_met hnew)
    · exact hs.met other
  · rw [hperm.mem_iff, List.mem_cons]
    split
    · rename_i hid
      subst hid
      exact iff_of_true (congrArg some hcollection) (Or.inl rfl)
    · rename_i hid
      rw [hs.met other]
      exact (or_iff_right hid).symm

/-- A node that has not been met becomes known. A collection joins the queue. -/
theorem Sound.know (hs : Sound g aside s) (h : g.Shows id v) (hnew : s.known.lookup id = none)
    (s' : Outline) (hgraph : s'.graph = s.graph)
    (hknown : s'.known = (id, .of id v) :: s.known) (hlevels : s'.levels = s.levels)
    (hmet : s'.met aside = s.met aside ∧ .of id v ≠ Reference.collection id ∨
      (s'.met aside).Perm (id :: s.met aside) ∧ .of id v = Reference.collection id) :
    Sound g aside s' ∧ s'.Extends s ∧ s'.known.lookup id = some (.of id v) := by
  have hlookup (other : NodeId) : s'.known.lookup other =
      if other = id then some (.of id v) else s.known.lookup other := by
    rw [hknown, OrderedMap.lookup_cons_eq]
  -- Nothing that was known is forgotten, since the node was not among it.
  have hext : s'.Extends s := by
    intro other r hr
    rw [hlookup, if_neg (by rintro rfl; rw [hnew] at hr; cases hr)]
    exact hr
  refine ⟨⟨hgraph.trans hs.graph, ?_, ?_, ?_, ?_⟩, hext, by rw [hlookup, if_pos rfl]⟩
  · intro other r hr
    rw [hlookup] at hr
    split at hr
    · rename_i heq
      cases hr
      exact ⟨v, heq ▸ h, heq ▸ rfl⟩
    · exact hs.known other r hr
  · intro other level hlevel
    rw [hlevels] at hlevel
    obtain ⟨w, hw, hspans⟩ := hs.levels other level hlevel
    exact ⟨w, hw, hspans.of_extends hext⟩
  · intro other
    rw [hlookup]
    exact hs.know_met hnew hmet other
  · rcases hmet with ⟨heq, -⟩ | ⟨hperm, -⟩
    · rw [heq]
      exact hs.nodup
    · exact hperm.nodup_iff.mpr (List.nodup_cons.mpr ⟨hs.not_mem_met hnew, hs.nodup⟩)

/-- What a node is becomes known when it is met. -/
theorem finds_refer (h : g.Shows id v) :
    Finds g aside (refer id) (fun s r v => r = .of id v ∧ s.Refers g r v) v := by
  intro s hs
  cases hknown : s.known.lookup id with
  | some r =>
    -- A node that is known has the reference that the invariant gives it.
    obtain ⟨w, hw, rfl⟩ := hs.known id r hknown
    obtain rfl := h.unique hw
    refine ⟨_, s, ?_, hs, .refl s, rfl, rfl, id, hknown, h⟩
    unfold refer
    rw [StateT.run_bind, StateT.run_get, pure_bind]
    dsimp only
    rw [hknown]
    rfl
  | none =>
    rcases scalar?_cases h with ⟨x, rfl, hscalar⟩ | ⟨hof, hscalar, htag⟩
    · -- A scalar is made at once.
      obtain ⟨hs', hext, hlookup⟩ := hs.know h hknown
        { s with known := (id, .scalar x) :: s.known } rfl rfl rfl (Or.inl ⟨rfl, fun h => by cases h⟩)
      refine ⟨_, _, ?_, hs', hext, rfl, rfl, id, hlookup, h⟩
      unfold refer
      rw [StateT.run_bind, StateT.run_get, pure_bind]
      dsimp only
      rw [hknown, hs.graph, hscalar]
      rfl
    · -- A collection waits behind the others.
      have hperm : (aside ++ (s.waiting ++ [id]) ++ s.levels.map Prod.fst).Perm
          (id :: (aside ++ s.waiting ++ s.levels.map Prod.fst)) := by
        rw [← List.append_assoc, List.append_assoc _ [id]]
        exact List.perm_middle
      obtain ⟨hs', hext, hlookup⟩ := hs.know h hknown
        { s with known := (id, .collection id) :: s.known, waiting := s.waiting ++ [id] } rfl
        (by rw [hof]) rfl (Or.inr ⟨hperm, hof⟩)
      refine ⟨_, _, ?_, hs', hext, rfl, rfl, id, hlookup, h⟩
      unfold refer
      rw [StateT.run_bind, StateT.run_get, pure_bind]
      dsimp only
      rw [hknown, hs.graph, hscalar, hof]
      rcases htag with htag | htag
      · rw [htag]
        rfl
      · rw [htag]
        rfl

/-! ## Collections -/

/-- The nodes of a list become known in order. -/
theorem finds_items {around : NodeId} (items : List Value) {ids : List NodeId}
    (h : g.ShowsItems around ids items) :
    Finds g aside (ids.mapM refer) (fun s => List.Forall₂ (s.Refers g)) items := by
  induction items generalizing ids with
  | nil =>
    obtain rfl : ids = [] := h
    exact fun s hs => ⟨[], s, rfl, hs, .refl s, rfl, .nil⟩
  | cons item items ih =>
    obtain ⟨first, rest, rfl, -, hitem, hrest⟩ := h
    intro s hs
    obtain ⟨r, s₁, hrun, hs₁, hext, hlevels, -, hr⟩ := finds_refer hitem s hs
    obtain ⟨rs, s₂, hrun', hs₂, hext', hlevels', hrs⟩ := ih hrest s₁ hs₁
    refine ⟨r :: rs, s₂, ?_, hs₂, hext'.trans hext, hlevels'.trans hlevels,
      .cons (hr.of_extends hext') hrs⟩
    rw [List.mapM_cons, StateT.run_bind, hrun]
    show (rest.mapM refer >>= fun bs => pure (r :: bs)).run s₁ = _
    rw [StateT.run_bind, hrun']
    rfl

/-- Puts an entry with references to its nodes into a mapping. It is the body of the loop over the
entries, given a name. -/
def putEntry (around : NodeId) (made : List (Scalar × Reference)) (e : NodeId × NodeId) :
    Outlining (List (Scalar × Reference)) := do
  match ← refer e.1 with
  | .scalar k => return Entries.put Scalar.sameKey k (← refer e.2) made
  | .collection _ => (← get).graph.refuseIn .mapping around e.1 .unhashableKey

/-- The references of entries. -/
def RefersEntries (s : Outline) (g : Graph) : List (Scalar × Reference) → List (Scalar × Value) → Prop :=
  List.Forall₂ fun r e => r.1 = e.1 ∧ s.Refers g r.2 e.2

/-- The keys of a mapping are in the references themselves, so they are those of the value. -/
theorem keys_of_refersEntries {refs : List (Scalar × Reference)} {entries : List (Scalar × Value)}
    (h : s.RefersEntries g refs entries) : refs.map Prod.fst = entries.map Prod.fst := by
  induction h with
  | nil => rfl
  | cons hr _ ih => rw [List.map_cons, List.map_cons, hr.1, ih]

/-- If the keys of the value are texts, so are those of the references. `put_of_new` asks for this: texts
are the same key only if they are the same text. -/
theorem RefersEntries.exists_text {refs : List (Scalar × Reference)} {entries : List (Scalar × Value)}
    (h : s.RefersEntries g refs entries) (htexts : ∀ e ∈ entries, ∃ t, e.1 = .text t) :
    ∀ e ∈ refs, ∃ t, e.1 = .text t := by
  intro e he
  have hmem : e.1 ∈ entries.map Prod.fst := keys_of_refersEntries h ▸ List.mem_map_of_mem he
  obtain ⟨e', he', heq⟩ := List.mem_map.mp hmem
  exact heq ▸ htexts e' he'

/-- The references of entries mean the same later on. -/
theorem RefersEntries.of_extends {refs : List (Scalar × Reference)} {entries : List (Scalar × Value)}
    (h : s.RefersEntries g refs entries) (hs : s'.Extends s) : s'.RefersEntries g refs entries :=
  h.imp fun _ _ hr => ⟨hr.1, hr.2.of_extends hs⟩

/-- An entry with a new key is put behind those that have been `made`. Both its nodes become known, the
key first. -/
theorem finds_putEntry (around : NodeId) {keyId itemId : NodeId} {t : Text} {item : Value}
    (hkey : g.Shows keyId (.scalar (.text t))) (hitem : g.Shows itemId item)
    {made : List (Scalar × Reference)} {front : List (Scalar × Value)}
    (htexts : ∀ e ∈ front, ∃ t, e.1 = .text t) (hnew : Scalar.text t ∉ front.map Prod.fst)
    (hs : Sound g aside s) (hmade : s.RefersEntries g made front) :
    ∃ refs s', (putEntry around made (keyId, itemId)).run s = .ok (refs, s') ∧ Sound g aside s' ∧
      s'.Extends s ∧ s'.levels = s.levels ∧ s'.RefersEntries g refs (front ++ [(.text t, item)]) := by
  obtain ⟨r, s₁, hrun, hs₁, hext, hlevels, hof, -⟩ := finds_refer hkey s hs
  subst hof
  obtain ⟨r, s₂, hrun', hs₂, hext', hlevels', -, hr⟩ := finds_refer hitem s₁ hs₁
  have htexts' := hmade.exists_text htexts
  rw [← keys_of_refersEntries hmade] at hnew
  refine ⟨made ++ [(.text t, r)], s₂, ?_, hs₂, hext'.trans hext, hlevels'.trans hlevels,
    List.rel_append (hmade.of_extends (hext'.trans hext)) (.cons ⟨rfl, hr⟩ .nil)⟩
  unfold putEntry
  rw [StateT.run_bind, hrun]
  show (refer itemId >>= fun r => pure (Entries.put Scalar.sameKey (.text t) r made)).run s₁ = _
  rw [StateT.run_bind, hrun', ← Evaluation.put_of_new htexts' hnew]
  rfl

/-- The nodes of a mapping become known in order, behind the entries that have been `made`. -/
theorem finds_entries {around : NodeId} (entries : List (Scalar × Value))
    {ids : List (NodeId × NodeId)} (h : g.ShowsEntries around ids entries)
    {made : List (Scalar × Reference)} {front : List (Scalar × Value)}
    (htexts : ∀ e ∈ front, ∃ t, e.1 = .text t) (hnodup : ((front ++ entries).map Prod.fst).Nodup)
    (hs : Sound g aside s) (hmade : s.RefersEntries g made front) :
    ∃ refs s', (ids.foldlM (putEntry around) made).run s = .ok (refs, s') ∧ Sound g aside s' ∧
      s'.Extends s ∧ s'.levels = s.levels ∧ s'.RefersEntries g refs (front ++ entries) := by
  induction entries generalizing ids made front s with
  | nil =>
    obtain rfl : ids = [] := h
    rw [List.append_nil]
    exact ⟨made, s, rfl, hs, .refl s, rfl, hmade⟩
  | cons entry entries ih =>
    obtain ⟨key, item⟩ := entry
    obtain ⟨keyId, itemId, rest, t, rfl, rfl, -, hsize, hkey, -, hitem, hrest⟩ := h
    have hnew : Scalar.text t ∉ front.map Prod.fst := by
      rw [List.map_append, List.nodup_append] at hnodup
      exact fun hmem => hnodup.2.2 _ hmem _ List.mem_cons_self rfl
    obtain ⟨made', s₁, hput, hs₁, hext, hlevels, hmade'⟩ :=
      finds_putEntry around ⟨hsize, hkey⟩ hitem htexts hnew hs hmade
    -- The entry counts as one that has been made when the others are read.
    have hfront : ∀ e ∈ front ++ [(.text t, item)], ∃ t', e.1 = .text t' := by
      intro e he
      rcases List.mem_append.mp he with he | he
      · exact htexts e he
      · rw [List.mem_singleton.mp he]
        exact ⟨t, rfl⟩
    rw [List.append_cons] at hnodup
    obtain ⟨refs, s₂, hrun, hs₂, hext', hlevels', hrefs⟩ := ih hrest hfront hnodup hs₁ hmade'
    refine ⟨refs, s₂, ?_, hs₂, hext'.trans hext, hlevels'.trans hlevels, ?_⟩
    · rw [List.foldlM_cons, StateT.run_bind, hput]
      exact hrun
    · rw [List.append_cons]
      exact hrefs

/-- A mapping of plain keys has nothing to merge. -/
theorem Sound.run_mergedEntries {around : NodeId} {ids : List (NodeId × NodeId)}
    {entries : List (Scalar × Value)} (hs : Sound g aside s)
    (hcontent : (g.node id).content = .mapping ids) (h : g.ShowsEntries around ids entries) :
    (mergedEntries id).run s = .ok (ids, s) := by
  obtain ⟨graph, known, levels, waiting⟩ := s
  obtain rfl : graph = g := hs.graph
  unfold mergedEntries
  rw [StateT.run_bind, StateT.run_get, pure_bind]
  dsimp only
  rw [Graph.mergedEntries_of_plain hcontent h.hasPlainKeys]
  rfl

/-- A collection is made of references to what is in it. -/
theorem finds_make (h : g.Shows id v) (hof : .of id v = Reference.collection id) :
    Finds g aside (make id) (fun s => s.Spans g) v := by
  intro s hs
  unfold make
  cases v with
  | scalar x => cases hof
  | list items =>
    obtain ⟨-, htag, ids, hcontent, hitems⟩ := h
    obtain ⟨refs, s', hrun, hs', hext, hlevels, hrefs⟩ := finds_items items hitems s hs
    refine ⟨.list refs, s', ?_, hs', hext, hlevels, .list hrefs⟩
    -- The nodes of the list are read off, then they become known in order.
    have hids : g.items id = .ok ids := by
      unfold Graph.items
      rw [hcontent]
      rfl
    rw [StateT.run_bind, StateT.run_get, pure_bind]
    dsimp only
    rw [hs.graph, htag]
    dsimp only
    rw [hids]
    show ((ids.mapM refer).run s >>= _) = _
    rw [hrun]
    rfl
  | mapping entries =>
    obtain ⟨-, htag, hnodup, ids, hcontent, hentries⟩ := h
    obtain ⟨refs, s', hrun, hs', hext, hlevels, hrefs⟩ :=
      finds_entries entries hentries (List.forall_mem_nil _) hnodup hs List.Forall₂.nil
    refine ⟨.mapping refs, s', ?_, hs', hext, hlevels, .mapping hrefs⟩
    have hmapping : (mapping id).run s = .ok (refs, s') := by
      show (mergedEntries id >>= fun ids => ids.foldlM (putEntry id) []).run s = _
      rw [StateT.run_bind, hs.run_mergedEntries hcontent hentries]
      exact hrun
    rw [StateT.run_bind, StateT.run_get, pure_bind]
    dsimp only
    rw [hs.graph, htag]
    dsimp only
    rw [StateT.run_bind, hmapping]
    rfl
  | tuple => exact h.elim
  | set => exact h.elim

/-! ## The queue -/

/-- The first collection of the queue is made. -/
theorem Sound.make_next {id : NodeId} {others : List NodeId} (hs : Sound g [] s)
    (hwaiting : s.waiting = id :: others) :
    ∃ level s', (make id).run { s with waiting := others } = .ok (level, s') ∧
      Sound g [] { s' with levels := (id, level) :: s'.levels } ∧
      Extends { s' with levels := (id, level) :: s'.levels } s ∧ s'.levels = s.levels := by
  -- The collection leaves the queue while it is made, and joins the levels afterwards. It counts as met
  -- all the time.
  have hmet : Outline.met [id] { s with waiting := others } = s.met [] := by
    unfold Outline.met
    rw [hwaiting]
    rfl
  have haside : Sound g [id] { s with waiting := others } := by
    refine ⟨hs.graph, hs.known, ?_, by rw [hmet]; exact hs.met, by rw [hmet]; exact hs.nodup⟩
    intro other l hl
    obtain ⟨v, hv, hspans⟩ := hs.levels other l hl
    exact ⟨v, hv, hspans.of_extends fun _ _ h => h⟩
  have hid : id ∈ s.met [] := by
    unfold Outline.met
    rw [hwaiting]
    exact List.mem_append_left _ List.mem_cons_self
  obtain ⟨v, hv, hof⟩ := hs.known id _ ((hs.met id).mpr hid)
  obtain ⟨level, s', hrun, hs', hext, hlevels, hspans⟩ := finds_make hv hof.symm _ haside
  have hperm : (Outline.met [] { s' with levels := (id, level) :: s'.levels }).Perm
      (s'.met [id]) := List.perm_middle
  refine ⟨level, s', hrun, ⟨hs'.graph, hs'.known, ?_, ?_, hperm.nodup_iff.mpr hs'.nodup⟩, hext,
    hlevels⟩
  · intro other l hl
    rw [OrderedMap.lookup_cons_eq] at hl
    split at hl
    · rename_i heq
      cases hl
      exact ⟨v, heq ▸ hv, hspans.of_extends fun _ _ h => h⟩
    · obtain ⟨w, hw, hspans⟩ := hs'.levels other l hl
      exact ⟨w, hw, hspans.of_extends fun _ _ h => h⟩
  · intro other
    rw [hperm.mem_iff]
    exact hs'.met other

/-- There are no more collections than nodes. -/
theorem Sound.length_levels_le (hs : Sound g [] s) : s.levels.length + s.waiting.length ≤ g.size := by
  -- Collections that have been met are different nodes of the graph.
  have hsubset : s.met [] ⊆ List.range g.size := by
    intro id hid
    obtain ⟨v, hv, -⟩ := hs.known id _ ((hs.met id).mpr hid)
    exact List.mem_range.mpr hv.lt
  have hle := (List.subperm_of_subset hs.nodup hsubset).length_le
  unfold Outline.met at hle
  rw [List.length_range, List.nil_append, List.length_append, List.length_map] at hle
  omega

/-- All collections are made in turn. -/
theorem drain_of_sound (fuel : Nat) (hs : Sound g [] s) (hfuel : g.size < fuel + s.levels.length) :
    ∃ s', (drain fuel).run s = .ok ((), s') ∧ Sound g [] s' ∧ s'.waiting = [] ∧ s'.Extends s := by
  induction fuel generalizing s with
  | zero =>
    -- There are no more levels than nodes, so the fuel cannot be at its end.
    have hle := hs.length_levels_le
    omega
  | succ fuel ih =>
    cases hwaiting : s.waiting with
    | nil =>
      refine ⟨s, ?_, hs, hwaiting, .refl s⟩
      unfold drain
      rw [StateT.run_bind, StateT.run_get, pure_bind, hwaiting]
      rfl
    | cons id others =>
      obtain ⟨level, s₁, hrun, hs₁, hext, hlevels⟩ := hs.make_next hwaiting
      obtain ⟨s₂, hrun₂, hs₂, hempty, hext₂⟩ := ih hs₁ (by
        rw [List.length_cons, hlevels]
        omega)
      refine ⟨s₂, ?_, hs₂, hempty, hext₂.trans hext⟩
      unfold drain
      rw [StateT.run_bind, StateT.run_get, pure_bind, hwaiting]
      show ((make id).run { s with waiting := others } >>= _) = _
      rw [hrun]
      exact hrun₂

/-! ## The levels put together -/

/-- A reference to a node with a value is to a scalar, or to a collection that has been made. -/
theorem Sound.refers_cases (hs : Sound g [] s) (hempty : s.waiting = []) {r : Reference} {v : Value}
    (hr : s.Refers g r v) : (∃ x, v = .scalar x ∧ r = .scalar x) ∨
      ∃ id level, r = .collection id ∧ s.levels.lookup id = some level ∧ s.Spans g level v := by
  obtain ⟨id, hknown, hv⟩ := hr
  obtain ⟨w, hw, rfl⟩ := hs.known id r hknown
  obtain rfl := hv.unique hw
  rcases scalar?_cases hv with ⟨x, rfl, -⟩ | ⟨hof, -, -⟩
  · exact Or.inl ⟨x, rfl, rfl⟩
  · rw [hof] at hknown
    have hmet := (hs.met id).mp hknown
    unfold Outline.met at hmet
    rw [hempty, List.append_nil, List.nil_append] at hmet
    -- Nothing waits, so a collection that has been met has been made.
    have hsome : (s.levels.lookup id).isSome = true := by
      rw [List.lookup_isSome_iff]
      obtain ⟨e, he, heq⟩ := List.mem_map.mp hmet
      exact ⟨e, he, beq_iff_eq.mpr heq.symm⟩
    obtain ⟨level, hlevel⟩ := Option.isSome_iff_exists.mp hsome
    obtain ⟨w, hw, hspans⟩ := hs.levels id level hlevel
    obtain rfl := hv.unique hw
    exact Or.inr ⟨id, level, hof, hlevel, hspans⟩

/-- Two lists that are related item by item are equal after a function that takes each item of the first to
its partner. The function is `view` one level further down. -/
theorem map_eq_of_forall₂ {α β : Type} {R : α → β → Prop} {f : α → β} {as : List α} {bs : List β}
    (h : List.Forall₂ R as bs) (hf : ∀ a b, R a b → b ∈ bs → f a = b) : as.map f = bs := by
  induction h with
  | nil => rfl
  | cons hab _ ih =>
    rw [List.map_cons, hf _ _ hab List.mem_cons_self,
      ih fun a b hab hb => hf a b hab (List.mem_cons_of_mem _ hb)]

/-- When all collections are made, what is seen is what the graph shows. -/
theorem Sound.view_eq (hs : Sound g [] s) (hempty : s.waiting = []) (depth : Nat) {r : Reference}
    {v : Value} (hr : s.Refers g r v) (hends : v.Ends depth) : s.view depth r = v := by
  induction depth generalizing r v with
  | zero =>
    rcases hs.refers_cases hempty hr with ⟨x, rfl, rfl⟩ | ⟨id, level, rfl, -, hspans⟩
    · unfold view
      rfl
    · cases hspans
      · exact hends.elim
      · exact hends.elim
  | succ depth ih =>
    rcases hs.refers_cases hempty hr with ⟨x, rfl, rfl⟩ | ⟨id, level, rfl, hlevel, hspans⟩
    · unfold view
      rfl
    unfold view
    rw [hlevel]
    cases hspans with
    | @list refs items hrefs =>
      refine congrArg Value.list ?_
      exact map_eq_of_forall₂ hrefs fun r v hr hv => ih hr (hends v hv)
    | @mapping refs entries hrefs =>
      refine congrArg Value.mapping ?_
      exact map_eq_of_forall₂ hrefs fun r e hr he => Prod.ext hr.1 (ih hr.2 (hends e he))

/-- A document whose graph shows a value is that value, if it is looked at down to its end. There are at
most as many turns as nodes, and so the queue is empty before the fuel is used up. -/
theorem ofDocument_of_shows {d : Document} {v : Value} (h : d.graph.Shows d.root v) {depth : Nat}
    (hends : v.Ends depth) : ofDocument depth d = .ok v := by
  have hstart : Sound d.graph [] ⟨d.graph, [], [], []⟩ := by
    refine ⟨rfl, ?_, ?_, ?_, List.nodup_nil⟩
    · intro id r hr
      cases hr
    · intro id level hlevel
      cases hlevel
    · intro id
      exact iff_of_false (fun h => by cases h) List.not_mem_nil
  obtain ⟨r, s₁, hrun, hs₁, -, hlevels, -, hr⟩ := finds_refer h _ hstart
  obtain ⟨s₂, hrun₂, hs₂, hempty, hext⟩ := drain_of_sound (d.graph.size + 1) hs₁ (by
    rw [hlevels]
    exact Nat.lt_succ_self _)
  unfold ofDocument
  dsimp only
  rw [hrun]
  show ((drain (d.graph.size + 1)).run s₁ >>= _) = _
  rw [hrun₂]
  exact congrArg Except.ok (hs₂.view_eq hempty depth (hr.of_extends hext) hends)

end Outline

end Yaml

/-! ## Texts of a document -/

/-- The scalar has the property if it is a text. -/
def Scalar.Over (P : Text → Prop) (x : Scalar) : Prop :=
  ∀ t, x = .text t → P t

/-- All texts in the value have the property, those of keys as well. It is what a property of the scalars
of a document comes to for the value that is made of it. -/
inductive Value.Over (P : Text → Prop) : Value → Prop
  | scalar {x : Scalar} (h : x.Over P) : Over P (.scalar x)
  | list {items : List Value} (h : ∀ v ∈ items, Over P v) : Over P (.list items)
  | tuple {items : List Value} (h : ∀ v ∈ items, Over P v) : Over P (.tuple items)
  | set {elements : List Scalar} (h : ∀ x ∈ elements, x.Over P) : Over P (.set elements)
  | mapping {entries : List (Scalar × Value)} (hkeys : ∀ e ∈ entries, e.1.Over P)
    (hvalues : ∀ e ∈ entries, Over P e.2) : Over P (.mapping entries)

namespace Yaml

variable {P : Text → Prop} {g g' : Graph}

/-- Merging writes no new texts, so what holds of all texts of a graph holds afterwards. -/
theorem Graph.Over.of_stemsFrom (h : g.Over P) (hg : g'.StemsFrom g) : g'.Over P :=
  fun id t ht => h id t (hg.content id t ht)

/-- The text that is looked up at a node is one of the texts of the graph, even if it is found further
inside, at a key `=`. -/
theorem Graph.Over.text? (h : g.Over P) {fuel : Nat} {id : NodeId} {t : Text}
    (htext : g.text? fuel id = .ok t) : P t := by
  rcases g.text?_cases fuel id with ⟨t', inside, ht, hcontent, -⟩ | ⟨report, ht⟩ | ⟨ht, -⟩
  · rw [ht] at htext
    cases htext
    exact h inside _ hcontent
  · rw [ht] at htext
    cases htext
  · rw [ht] at htext
    cases htext

/-- A text that is made is the text of a scalar. -/
theorem Graph.Over.scalar? (h : g.Over P) {id : NodeId} {x : Scalar}
    (hscalar : g.scalar? id = some (.ok x)) : x.Over P := by
  rintro t rfl
  unfold Graph.scalar? at hscalar
  dsimp only at hscalar
  split at hscalar
  · obtain ⟨t', -, heq⟩ := map_eq_ok_iff.mp (Option.some.inj hscalar)
    cases heq
  · obtain ⟨t', -, hread⟩ := bind_eq_ok_iff.mp (Option.some.inj hscalar)
    obtain ⟨b, -, heq⟩ := map_eq_ok_iff.mp hread
    cases heq
  · obtain ⟨t', -, hread⟩ := bind_eq_ok_iff.mp (Option.some.inj hscalar)
    obtain ⟨n, -, heq⟩ := map_eq_ok_iff.mp hread
    cases heq
  · obtain ⟨t', -, hread⟩ := bind_eq_ok_iff.mp (Option.some.inj hscalar)
    obtain ⟨x, -, heq⟩ := map_eq_ok_iff.mp hread
    cases heq
  · -- The tag of strings alone gives texts, and they are those of scalars.
    obtain ⟨t', ht', heq⟩ := map_eq_ok_iff.mp (Option.some.inj hscalar)
    cases heq
    exact h.text? ht'
  · obtain ⟨t', -, hread⟩ := bind_eq_ok_iff.mp (Option.some.inj hscalar)
    split at hread
    · cases hread
    · split at hread
      · cases hread
      · cases hread
  · obtain ⟨t', -, hread⟩ := bind_eq_ok_iff.mp (Option.some.inj hscalar)
    split at hread
    · unfold readTime at hread
      split at hread
      · cases hread
      · split at hread
        · obtain ⟨d, -, heq⟩ := map_eq_ok_iff.mp hread
          cases heq
        · obtain ⟨d, -, heq⟩ := map_eq_ok_iff.mp hread
          cases heq
    · cases hread
  · cases hscalar

/-- What is known of the references and levels of a document in the making. A reference to a collection
has no text of its own. -/
def Reference.Over (P : Text → Prop) : Reference → Prop
  | .scalar x => x.Over P
  | .collection _ => True

/-- All texts in the level have the property. -/
inductive Level.Over (P : Text → Prop) : Level → Prop
  | list {items : List Reference} (h : ∀ r ∈ items, r.Over P) : Over P (.list items)
  | pairs {items : List (Reference × Reference)} (h : ∀ r ∈ items, r.1.Over P ∧ r.2.Over P) :
    Over P (.pairs items)
  | set {elements : List Scalar} (h : ∀ x ∈ elements, x.Over P) : Over P (.set elements)
  | mapping {entries : List (Scalar × Reference)} (h : ∀ e ∈ entries, e.1.Over P ∧ e.2.Over P) :
    Over P (.mapping entries)

namespace Outline

/-- All texts of the document in the making have the property. Each step keeps this, as it makes texts of
the scalars in the graph alone. -/
structure Over (P : Text → Prop) (s : Outline) : Prop where
  graph : s.graph.Over P
  known : ∀ e ∈ s.known, e.2.Over P
  levels : ∀ e ∈ s.levels, e.2.Over P

variable {s : Outline} {α β : Type} {Q : α → Prop} {R : β → Prop}

/-- The computation makes no texts without the property. -/
def Keeps (P : Text → Prop) (Q : α → Prop) (x : Outlining α) : Prop :=
  ∀ s a s', s.Over P → x.run s = .ok (a, s') → s'.Over P ∧ Q a

/-- A result with the property is all that there is to show where the state is not touched. -/
theorem keeps_pure {a : α} (h : Q a) : Keeps P Q (pure a) :=
  maintains_pure h

/-- One computation after the other keeps what both keep. -/
theorem Keeps.bind {x : Outlining α} {f : α → Outlining β} (hx : Keeps P Q x)
    (hf : ∀ a, Q a → Keeps P R (f a)) : Keeps P R (x >>= f) :=
  Maintains.bind hx hf

/-- Whatever is done with the state may count on all its texts having the property. -/
theorem keeps_get {f : Outline → Outlining β} (hf : ∀ s : Outline, s.Over P → Keeps P R (f s)) :
    Keeps P R (get >>= f) :=
  maintains_get hf

/-- A state that is put in place of another one must have the property itself. -/
theorem keeps_set {s : Outline} (h : s.Over P) : Keeps P (fun _ => True) (set s) :=
  maintains_set h

/-- A state that has been changed must have the property after the change. -/
theorem keeps_modify {f : Outline → Outline} (h : ∀ s : Outline, s.Over P → (f s).Over P) :
    Keeps P (fun _ => True) (modify f) :=
  maintains_modify h

/-- A computation without a state keeps the state, and has to answer for its result alone. -/
theorem keeps_lift {x : Except Fault α} (h : ∀ a, x = .ok a → Q a) :
    Keeps P Q (liftM x : Outlining α) :=
  maintains_lift h

/-- What holds of each result holds of all of them. -/
theorem keeps_mapM {f : α → Outlining β} (hf : ∀ a, Keeps P R (f a)) (l : List α) :
    Keeps P (fun bs => ∀ b ∈ bs, R b) (l.mapM f) :=
  maintains_mapM hf l

/-- What each step keeps of the entries made so far, all steps together keep. -/
theorem keeps_foldlM {f : β → α → Outlining β} (hf : ∀ b a, R b → Keeps P R (f b a)) (l : List α)
    {b : β} (hb : R b) : Keeps P R (l.foldlM f b) :=
  maintains_foldlM hf l hb

/-- A node becomes known as the text of a scalar, if as any. -/
theorem keeps_refer (id : NodeId) : Keeps P (Reference.Over P) (refer id) := by
  have hknow {s : Outline} (hs : s.Over P) {r : Reference} (hr : r.Over P) (waiting : List NodeId) :
      Outline.Over P { s with known := (id, r) :: s.known, waiting := waiting } :=
    ⟨hs.graph, List.forall_mem_cons.mpr ⟨hr, hs.known⟩, hs.levels⟩
  unfold refer
  refine keeps_get fun s hs => ?_
  split
  · rename_i r hr
    exact keeps_pure (hs.known _ (mem_of_lookup hr))
  · split
    · rename_i result hscalar
      refine (keeps_lift (Q := Scalar.Over P) fun x hx => ?_).bind fun x hx => ?_
      · subst hx
        exact hs.graph.scalar? hscalar
      · exact (keeps_set (hknow hs (r := .scalar x) hx _)).bind fun _ _ => keeps_pure hx
    · have hcollection : Keeps P (Reference.Over P) (do
          set { s with known := (id, .collection id) :: s.known, waiting := s.waiting ++ [id] }
          return Reference.collection id) :=
        (keeps_set (hknow hs (r := .collection id) trivial _)).bind fun _ _ => keeps_pure trivial
      split
      · exact hcollection
      · exact hcollection
      · exact hcollection
      · exact hcollection
      · exact hcollection
      · exact keeps_get fun _ _ => keeps_lift fun _ h => by cases h

/-- An entry that is put into a mapping is one of its entries, and others stay or have its value. -/
theorem over_put {k : Scalar} {r : Reference} {made : List (Scalar × Reference)} (hk : k.Over P)
    (hr : r.Over P) (h : ∀ e ∈ made, e.1.Over P ∧ e.2.Over P) :
    ∀ e ∈ Entries.put Scalar.sameKey k r made, e.1.Over P ∧ e.2.Over P :=
  Entries.forall_put hk hr h

/-- The references of a mapping are to texts with the property, after merges as well: the keys and values
that are merged in are nodes of the same graph. -/
theorem keeps_mapping (id : NodeId) :
    Keeps P (fun entries => ∀ e ∈ entries, e.1.Over P ∧ e.2.Over P) (mapping id) := by
  have hmerged : Keeps P (fun _ => True) (mergedEntries id) := by
    unfold mergedEntries
    refine keeps_get fun s hs => ?_
    refine Keeps.bind (Q := fun r => r.2.StemsFrom s.graph) (keeps_lift fun r hr => ?_)
      fun r hr => ?_
    · rcases Graph.reports_mergedEntries id (.refl s.graph) with ⟨r', hr', hstems⟩ | ⟨_, hr'⟩
      · rw [hr'] at hr
        cases hr
        exact hstems
      · rw [hr'] at hr
        cases hr
    · have hs' : Outline.Over P { s with graph := r.2 } :=
        ⟨hs.graph.of_stemsFrom hr, hs.known, hs.levels⟩
      exact (keeps_set hs').bind (R := fun _ => True) fun _ _ => keeps_pure trivial
  show Keeps P _ (mergedEntries id >>= fun ids => ids.foldlM (putEntry id) [])
  refine hmerged.bind fun ids _ => keeps_foldlM (fun made e hmade => ?_) ids
    fun _ he => absurd he List.not_mem_nil
  unfold putEntry
  refine (keeps_refer e.1).bind fun key hkey => ?_
  split
  · exact (keeps_refer e.2).bind fun r hr => keeps_pure (over_put hkey hr hmade)
  · exact keeps_get fun _ _ => keeps_lift fun _ h => by cases h

/-- The references of a level are to texts with the property, whichever kind of collection is made. -/
theorem keeps_make (id : NodeId) : Keeps P (Level.Over P) (make id) := by
  unfold make
  refine keeps_get fun s hs => ?_
  dsimp only
  split
  · exact (keeps_lift (Q := fun _ => True) fun _ _ => trivial).bind fun ids _ =>
      (keeps_mapM keeps_refer ids).bind fun refs hrefs => keeps_pure (.list hrefs)
  · exact (keeps_mapping id).bind fun entries h => keeps_pure (.mapping h)
  · refine (keeps_mapping id).bind fun entries h => keeps_pure (.set fun x hx => ?_)
    obtain ⟨e, he, rfl⟩ := List.mem_map.mp hx
    exact (h e he).1
  · refine (keeps_lift (Q := fun _ => True) fun _ _ => trivial).bind fun ids _ => ?_
    refine (keeps_mapM (R := fun r => r.1.Over P ∧ r.2.Over P) (fun item => ?_) ids).bind
      fun pairs hpairs => keeps_pure (.pairs hpairs)
    exact (keeps_lift (Q := fun _ => True) fun _ _ => trivial).bind fun e _ =>
      (keeps_refer e.1).bind fun a ha => (keeps_refer e.2).bind fun b hb => keeps_pure ⟨ha, hb⟩

/-- Making all levels that wait keeps the property, by induction on the fuel. -/
theorem keeps_drain (fuel : Nat) : Keeps P (fun _ => True) (drain fuel) := by
  induction fuel with
  | zero => exact keeps_pure trivial
  | succ fuel ih =>
    unfold drain
    refine keeps_get fun s hs => ?_
    split
    · exact keeps_pure trivial
    · rename_i id others _
      refine (keeps_modify (f := fun s => { s with waiting := others }) fun s hs =>
        ⟨hs.graph, hs.known, hs.levels⟩).bind fun _ _ => ?_
      refine (keeps_make id).bind fun level hlevel => ?_
      exact (keeps_modify (f := fun s => { s with levels := (id, level) :: s.levels }) fun s hs =>
        ⟨hs.graph, hs.known, List.forall_mem_cons.mpr ⟨hlevel, hs.levels⟩⟩).bind fun _ _ => ih

/-- What is seen has no other texts than the levels. -/
theorem Over.view (hs : s.Over P) (depth : Nat) {r : Reference} (hr : r.Over P) :
    (s.view depth r).Over P := by
  have hnone : (Value.list []).Over P := .list fun _ hv => absurd hv List.not_mem_nil
  induction depth generalizing r with
  | zero =>
    cases r with
    | scalar x => exact .scalar hr
    | collection id => exact hnone
  | succ depth ih =>
    cases r with
    | scalar x => exact .scalar hr
    | collection id =>
      unfold Outline.view
      cases hlevel : s.levels.lookup id with
      | none => exact hnone
      | some level =>
        cases hs.levels _ (mem_of_lookup hlevel) with
        | list h =>
          refine .list fun v hv => ?_
          obtain ⟨r, hr, rfl⟩ := List.mem_map.mp hv
          exact ih (h r hr)
        | pairs h =>
          refine .list fun v hv => ?_
          obtain ⟨r, hr, rfl⟩ := List.mem_map.mp hv
          exact .tuple (List.forall_mem_cons.mpr
            ⟨ih (h r hr).1, List.forall_mem_singleton.mpr (ih (h r hr).2)⟩)
        | set h => exact .set h
        | mapping h =>
          refine .mapping (fun e he => ?_) fun e he => ?_
          · obtain ⟨r, hr, rfl⟩ := List.mem_map.mp he
            exact (h r hr).1
          · obtain ⟨r, hr, rfl⟩ := List.mem_map.mp he
            exact ih (h r hr).2

/-- All texts that are seen in a document are those of its scalars. -/
theorem over_ofDocument {d : Document} {depth : Nat} {v : Value} (h : d.graph.Over P)
    (hv : ofDocument depth d = .ok v) : v.Over P := by
  unfold ofDocument at hv
  obtain ⟨⟨r, s⟩, hrefer, hv⟩ := bind_eq_ok_iff.mp hv
  obtain ⟨⟨_, s'⟩, hdrain, hv⟩ := bind_eq_ok_iff.mp hv
  cases hv
  have hstart : Over P ⟨d.graph, [], [], []⟩ :=
    ⟨h, fun _ he => absurd he List.not_mem_nil, fun _ he => absurd he List.not_mem_nil⟩
  obtain ⟨hs, hr⟩ := keeps_refer d.root _ _ _ hstart hrefer
  exact (keeps_drain _ _ _ _ hs hdrain).1.view depth hr

end Outline

end Yaml

end TermAudit
