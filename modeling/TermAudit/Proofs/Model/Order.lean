import TermAudit.Proofs.Model.Tree
import TermAudit.Proofs.Yaml.Shuffled

/-!
# `TermAudit.Proofs.Model.Order`: the order of properties

The properties of a document, of a shape or of a member can stand in any order, as long as a shape keeps
that of its members. A document with its properties in another order (`Rearranged`) declares the same
model (`View.Rearranges.isModel`), and is read alike if its values are apart:
`Model.ofDocument_alike_of_rearranged`.

A shape can stand in a value too, by an alias. Then its properties in another order are keys in another order
there, and this makes no difference to the value as long as they are different strings. So the two models are
equal up to the order of such keys (`Model.Alike`), and the same if no value has anything in another order.

A part of the structure that is merged inside of a value does not allow for that. It is read as it was
written before the value has been made, and with all that has been merged into it afterward.
-/

set_option autoImplicit false

namespace TermAudit

namespace ModelReader

open Yaml (Graph NodeId Evaluation Document Content)
open Yaml.Evaluation (Begins)

variable {α β : Type}

/-! ## Declarations in another order -/

/-- The property of a shape with this name declares members. These properties keep their order, as it is
the order of the members. -/
def declaresMembers (key : Text) : Bool :=
  key = Text.ofString "members" || singleMembers.any fun name => Text.ofString name = key

/-- Elements of a mapping may stand in the other order. Those with `p` are the ones that declare members
of a shape. The items of a mapping of shapes, members or traits are in the model in their order, so they
stay where they are. -/
def Part.Allows (part : Part) (p : α → Bool) (l l' : List α) : Prop :=
  match part with
  | .document => True
  | .member => True
  | .shape => l'.filter p = l.filter p
  | _ => l' = l

/-- The items of mappings that the second view shows are those of the first one, perhaps in another order,
and its values are related to those of the first one. What a model is declared by is rearranged with them
(`isModel`). -/
structure View.Rearranges (V V' : View) (At : Place → NodeId → Prop) (R : Value → Value → Prop) : Prop where
  items : ∀ {part id items}, At (.mapping part) id → V.items id items →
    ∃ items', V'.items id items' ∧ items.Perm items' ∧
      part.Allows (fun item => declaresMembers item.key) items items'
  string : ∀ {id text}, At .string id → V.string id text → V'.string id text
  value : ∀ {id v}, At .value id → V.value id v → ∃ v', V'.value id v' ∧ R v v'
  location : ∀ id, V'.location id = V.location id
  inside : ∀ {part place id items}, At (.mapping part) id → V.items id items →
    ∀ item ∈ items, part.inside item.key = some place → At place item.value
  empty : R (.mapping []) (.mapping [])
  mapping : ∀ {entries v}, R (.mapping entries) v → ∃ entries', v = .mapping entries'

/-- Whether an order is allowed can be computed. -/
instance [DecidableEq α] (part : Part) (p : α → Bool) (l l' : List α) : Decidable (part.Allows p l l') :=
  match part with
  | .document | .member => inferInstanceAs (Decidable True)
  | .shape => inferInstanceAs (Decidable (l'.filter p = l.filter p))
  | .shapes | .members | .traits => inferInstanceAs (Decidable (l' = l))

/-- The order from before is allowed everywhere. -/
theorem Part.Allows.refl (part : Part) (p : α → Bool) (l : List α) : part.Allows p l l := by
  cases part <;> trivial

/-- An order that is allowed can be undone. -/
theorem Part.Allows.symm {part : Part} {p : α → Bool} {l l' : List α} (h : part.Allows p l l') :
    part.Allows p l' l := by
  cases part <;> first | trivial | exact Eq.symm h

/-- Whether an order of entries is allowed can be seen of the items that they are. -/
theorem Part.Allows.map {part : Part} {p : β → Bool} {l l' : List α} (f : α → β)
    (h : part.Allows (fun a => p (f a)) l l') : part.Allows p (l.map f) (l'.map f) := by
  cases part with
  | document => trivial
  | member => trivial
  | shape =>
    have hfilter : l'.filter (p ∘ f) = l.filter (p ∘ f) := h
    show (l'.map f).filter p = (l.map f).filter p
    rw [List.filter_map, List.filter_map, hfilter]
  | _ => exact congrArg (List.map f) h

/-- What a property says in another order is related to what it said before. -/
theorem PropertyIn.of_perm {name : String} {R R' : NodeId → α → Prop} {Q : α → α → Prop} {default a : α}
    {items items' : List Item} (h : PropertyIn name R default items a) (hperm : items.Perm items')
    (hdefault : Q default default)
    (hex : ∀ item ∈ items, item.key = Text.ofString name → R item.value a → ∃ a', R' item.value a' ∧ Q a a') :
    ∃ a', PropertyIn name R' default items' a' ∧ Q a a' := by
  rcases h with ⟨item, hitem, hkey, ha⟩ | ⟨hnone, rfl⟩
  · obtain ⟨a', ha', hrel⟩ := hex item hitem hkey ha
    exact ⟨a', Or.inl ⟨item, hperm.mem_iff.mp hitem, hkey, ha'⟩, hrel⟩
  · exact ⟨a, Or.inr ⟨fun hmem => hnone ((hperm.map Item.key).mem_iff.mpr hmem), rfl⟩, hdefault⟩

/-- Properties that declare no members can be left out. -/
theorem exists_members_iff {V : View} {shape : ShapeId} {items : List Item} {members : List Shape} :
    (∃ groups, List.Forall₂ (V.AreMembersOf shape) items groups ∧ members = groups.flatten) ↔
      ∃ groups, List.Forall₂ (V.AreMembersOf shape)
        (items.filter fun item => declaresMembers item.key) groups ∧ members = groups.flatten := by
  induction items generalizing members with
  | nil => rfl
  | cons item items ih =>
    by_cases hdeclares : declaresMembers item.key = true
    · rw [List.filter_cons_of_pos (p := fun item : Item => declaresMembers item.key) hdeclares]
      simp only [List.forall₂_cons_left_iff]
      constructor
      · rintro ⟨_, ⟨first, rest, hfirst, hrest, rfl⟩, rfl⟩
        obtain ⟨rest', hrest', heq⟩ := ih.mp ⟨rest, hrest, rfl⟩
        exact ⟨_, ⟨first, rest', hfirst, hrest', rfl⟩, by rw [List.flatten_cons, heq, List.flatten_cons]⟩
      · rintro ⟨_, ⟨first, rest, hfirst, hrest, rfl⟩, rfl⟩
        obtain ⟨rest', hrest', heq⟩ := ih.mpr ⟨rest, hrest, rfl⟩
        exact ⟨_, ⟨first, rest', hfirst, hrest', rfl⟩, by rw [List.flatten_cons, heq, List.flatten_cons]⟩
    · -- The item declares no members, so its group is empty.
      rw [List.filter_cons_of_neg (p := fun item : Item => declaresMembers item.key) hdeclares, ← ih]
      have hno : item.key ≠ Text.ofString "members" ∧
          ¬ (singleMembers.any fun name => Text.ofString name = item.key) = true := by
        unfold declaresMembers at hdeclares
        rw [Bool.or_eq_true, decide_eq_true_eq, not_or] at hdeclares
        exact hdeclares
      have hfirst (group : List Shape) : V.AreMembersOf shape item group ↔ group = [] :=
        areMembersOf_iff_of_other hno.1 hno.2
      simp only [List.forall₂_cons_left_iff, hfirst]
      constructor
      · rintro ⟨_, ⟨_, rest, rfl, hrest, rfl⟩, rfl⟩
        exact ⟨rest, hrest, rfl⟩
      · rintro ⟨rest, hrest, rfl⟩
        exact ⟨_, ⟨[], rest, rfl, hrest, rfl⟩, rfl⟩

/-- Every property that declares a single member holds a member. -/
theorem inside_single {name : String} (h : name ∈ singleMembers) :
    Part.shape.inside (Text.ofString name) = some (.mapping .member) := by
  unfold singleMembers at h
  simp only [List.mem_cons, List.not_mem_nil, or_false] at h
  rcases h with rfl | rfl | rfl <;> rfl

namespace View.Rearranges

variable {V V' : View} {At : Place → NodeId → Prop} {R : Value → Value → Prop}
  (hV : V.Rearranges V' At R) {id : NodeId}

include hV

/-- Traits stay in their order and at their locations, and their values are related. -/
theorem areTraits {ts : List Trait} (hat : At (.mapping .traits) id) (h : V.AreTraits id ts) :
    ∃ ts', V'.AreTraits id ts' ∧ List.Forall₂ (Trait.Related R) ts ts' := by
  obtain ⟨items, hitems, htraits⟩ := h
  obtain ⟨ts', htraits', hrelated⟩ : ∃ ts', List.Forall₂ V'.IsTrait items ts' ∧
      List.Forall₂ (Trait.Related R) ts ts' := by
    refine exists_forall₂_of_mem htraits fun item hitem t ht => ?_
    obtain ⟨v, hv, hrelated⟩ := hV.value (hV.inside hat hitems item hitem rfl) ht.value
    refine ⟨⟨t.id, v, t.location⟩, ⟨ht.id, hv, ?_⟩, ⟨rfl, rfl, hrelated⟩⟩
    rw [hV.location]
    exact ht.location
  obtain ⟨_, hitems', -, rfl⟩ := hV.items hat hitems
  exact ⟨ts', ⟨_, hitems', htraits'⟩, hrelated⟩

/-- The property `traits` declares related traits, wherever it stands. -/
theorem traits_property {part : Part} {items items' : List Item} {ts : List Trait}
    (hinside : part.inside (Text.ofString "traits") = some (.mapping .traits))
    (hat : At (.mapping part) id) (hitems : V.items id items) (hperm : items.Perm items')
    (h : PropertyIn "traits" V.AreTraits [] items ts) :
    ∃ ts', PropertyIn "traits" V'.AreTraits [] items' ts' ∧ List.Forall₂ (Trait.Related R) ts ts' :=
  h.of_perm hperm .nil fun item hitem hkey =>
    hV.areTraits (hV.inside hat hitems item hitem (hkey ▸ hinside))

/-- A member is declared alike with its properties in another order. -/
theorem isMember {shape : ShapeId} {keyNode : NodeId} {s : Shape} (hat : At (.mapping .member) id)
    (h : V.IsMember shape keyNode id s) : ∃ s', V'.IsMember shape keyNode id s' ∧ s.Related R s' := by
  cases h with
  | @of_items items target traits hitems htarget htraits =>
    obtain ⟨items', hitems', hperm, -⟩ := hV.items hat hitems
    obtain ⟨traits', htraits', hrelated⟩ := hV.traits_property rfl hat hitems hperm htraits
    obtain ⟨_, htarget', rfl⟩ : ∃ target', PropertyIn "target" V'.IsTarget none items' target' ∧
        some target = target' := by
      refine htarget.of_perm hperm rfl ?_
      rintro item hitem hkey ⟨text, htext, hparse⟩
      exact ⟨some target, ⟨text, hV.string (hV.inside hat hitems item hitem (hkey ▸ rfl)) htext, hparse⟩,
        rfl⟩
    rw [← hV.location]
    exact ⟨_, .of_items hitems' htarget' htraits', .mk hrelated .nil⟩

/-- A property declares related members of a shape. The members themselves stay in their order. -/
theorem areMembersOf {shape : ShapeId} {item : Item} {members : List Shape}
    (hinside : ∀ place, Part.shape.inside item.key = some place → At place item.value)
    (h : V.AreMembersOf shape item members) :
    ∃ members', V'.AreMembersOf shape item members' ∧ List.Forall₂ (Shape.Related R) members members' := by
  by_cases hmembers : item.key = Text.ofString "members"
  · obtain ⟨items, hitems, hall⟩ := (areMembersOf_iff_of_members hmembers).mp h
    have hat : At (.mapping .members) item.value := hinside _ (hmembers ▸ rfl)
    obtain ⟨_, hitems', -, rfl⟩ := hV.items hat hitems
    obtain ⟨members', hall', hrelated⟩ := exists_forall₂_of_mem hall fun other hother s =>
      hV.isMember (hV.inside hat hitems other hother rfl)
    exact ⟨members', (areMembersOf_iff_of_members hmembers).mpr ⟨_, hitems', hall'⟩, hrelated⟩
  by_cases hsingle : (singleMembers.any fun name => Text.ofString name = item.key) = true
  · obtain ⟨member, hmember, rfl⟩ := (areMembersOf_iff_of_single hmembers hsingle).mp h
    obtain ⟨name, hname, hkey⟩ := List.any_eq_true.mp hsingle
    have hat : At (.mapping .member) item.value := hinside _ (of_decide_eq_true hkey ▸ inside_single hname)
    obtain ⟨member', hmember', hrelated⟩ := hV.isMember hat hmember
    exact ⟨_, (areMembersOf_iff_of_single hmembers hsingle).mpr ⟨member', hmember', rfl⟩,
      .cons hrelated .nil⟩
  · obtain rfl := (areMembersOf_iff_of_other hmembers hsingle).mp h
    exact ⟨[], (areMembersOf_iff_of_other hmembers hsingle).mpr rfl, .nil⟩

/-- A shape is declared alike with its properties in another order, if those that declare members keep
theirs. All others add no members, so they can be left out on both sides. -/
theorem isShape {item : Item} {s : Shape} (hat : At (.mapping .shape) item.value)
    (h : V.IsShape item s) : ∃ s', V'.IsShape item s' ∧ s.Related R s' := by
  cases h with
  | @of_items shape items type traits groups hid hmember hitems htype htraits hmembers =>
    obtain ⟨items', hitems', hperm, hfilter⟩ := hV.items hat hitems
    obtain ⟨traits', htraits', hrelated⟩ := hV.traits_property rfl hat hitems hperm htraits
    obtain ⟨_, htype', rfl⟩ : ∃ type', PropertyIn "type" V'.IsType none items' type' ∧
        some type = type' := by
      refine htype.of_perm hperm rfl ?_
      rintro other hother hkey ⟨word, hword, htype⟩
      exact ⟨some type, ⟨word, hV.string (hV.inside hat hitems other hother (hkey ▸ rfl)) hword, htype⟩,
        rfl⟩
    obtain ⟨between, hall, hgroups⟩ : ∃ between, List.Forall₂ (V'.AreMembersOf shape) items between ∧
        List.Forall₂ (List.Forall₂ (Shape.Related R)) groups between :=
      exists_forall₂_of_mem hmembers fun other hother members =>
        hV.areMembersOf fun place => hV.inside hat hitems other hother
    -- The items that declare members are the same in both orders, and the others add none.
    obtain ⟨groups', hmembers', heq⟩ : ∃ groups', List.Forall₂ (V'.AreMembersOf shape) items' groups' ∧
        between.flatten = groups'.flatten := by
      rw [exists_members_iff, hfilter, ← exists_members_iff]
      exact ⟨between, hall, rfl⟩
    rw [← hV.location]
    exact ⟨_, .of_items hid hmember hitems' htype' htraits' hmembers',
      .mk hrelated (heq ▸ List.rel_flatten hgroups)⟩

/-- Shapes stay in their order, and each of them is declared alike. -/
theorem areShapes {shapes : List Shape} (hat : At (.mapping .shapes) id) (h : V.AreShapes id shapes) :
    ∃ shapes', V'.AreShapes id shapes' ∧ List.Forall₂ (Shape.Related R) shapes shapes' := by
  obtain ⟨items, hitems, hshapes⟩ := h
  obtain ⟨_, hitems', -, rfl⟩ := hV.items hat hitems
  obtain ⟨shapes', hshapes', hrelated⟩ := exists_forall₂_of_mem hshapes fun item hitem s =>
    hV.isShape (hV.inside hat hitems item hitem rfl)
  exact ⟨shapes', ⟨_, hitems', hshapes'⟩, hrelated⟩

/-- In another order, a document declares a related model. Each kind of declaration is gone through in
turn, and only the members of a shape depend on the order. -/
theorem isModel {m : Model} (hat : At (.mapping .document) id) (h : V.IsModel id m) :
    ∃ m', V'.IsModel id m' ∧ m.Related R m' := by
  obtain ⟨items, hitems, hkeys, hversion, hmetadata, hshapes⟩ := h
  obtain ⟨items', hitems', hperm, -⟩ := hV.items hat hitems
  have hinside {item : Item} {place : Place} (hitem : item ∈ items) {name : String}
      (hkey : item.key = Text.ofString name)
      (hplace : Part.document.inside (Text.ofString name) = some place) : At place item.value :=
    hV.inside hat hitems item hitem (hkey ▸ hplace)
  have hversion' : ∀ item ∈ items', item.key = Text.ofString "smithy" →
      ∃ text, V'.string item.value text := by
    intro item hitem hkey
    have hitem := hperm.mem_iff.mpr hitem
    obtain ⟨text, htext⟩ := hversion item hitem hkey
    exact ⟨text, hV.string (hinside hitem hkey rfl) htext⟩
  obtain ⟨metadata', hmetadata', hrelated⟩ : ∃ metadata', PropertyIn "metadata"
      (fun id metadata => V'.value id (.mapping metadata)) [] items' metadata' ∧
        R (.mapping m.metadata) (.mapping metadata') := by
    refine hmetadata.of_perm hperm (Q := fun es es' => R (.mapping es) (.mapping es')) hV.empty ?_
    intro item hitem hkey hvalue
    obtain ⟨v, hv, hrelated⟩ := hV.value (hinside hitem hkey rfl) hvalue
    obtain ⟨entries, rfl⟩ := hV.mapping hrelated
    exact ⟨entries, hv, hrelated⟩
  obtain ⟨shapes', hshapes', hrelated'⟩ := hshapes.of_perm hperm .nil fun item hitem hkey =>
    hV.areShapes (hinside hitem hkey rfl)
  exact ⟨⟨shapes', metadata'⟩, ⟨items', hitems', fun item hitem => hkeys item (hperm.mem_iff.mpr hitem),
    hversion', hmetadata', hshapes'⟩, ⟨hrelated', hrelated⟩⟩

end View.Rearranges

/-! ## Documents in another order -/

attribute [ext] Yaml.Node

/-- The text that a node writes, if it writes one. It is total, so that items can be made of entries by a
function. -/
def textOf (g : Graph) (id : NodeId) : Text :=
  match (g.node id).content with
  | .scalar text => text
  | _ => []

/-- The item that an entry of a mapping is, if its key is a text. Reading a mapping makes these of its
entries, so permuted entries give permuted items. -/
def itemOf (g : Graph) (e : NodeId × NodeId) : Item :=
  ⟨textOf g e.1, e.1, e.2⟩

/-- The items of a mapping can be told from its entries. -/
theorem HasItems.map_itemOf {g : Graph} {id : NodeId} {items : List Item} (h : HasItems g id items) :
    (items.map fun item => (item.keyNode, item.value)).map (itemOf g) = items := by
  rw [List.map_map]
  conv_rhs => rw [← List.map_id items]
  refine List.map_congr_left fun item hitem => ?_
  show itemOf g (item.keyNode, item.value) = item
  unfold itemOf textOf
  rw [h.key item hitem]

/-- The order of these entries is of no account to the value `v`: they have different strings as keys, and
nothing in the value depends on what has been merged before. Keys that are no strings can be the same key
when they are written differently, as `1` and `true`, and then the later one counts. -/
def Orderless (d : Document) (v : NodeId) (es : List (NodeId × NodeId)) : Prop :=
  es.Pairwise d.graph.DifferentStrings ∧ ∀ id, d.graph.Inside v id → ¬ d.graph.Fickle id

/-- The second document has all that is in the first one, with the same nodes at the same places. Mappings
may have their entries in another order, where it is of no account to the structure and to the values that
the mapping is in. One mapping can have several roles by aliases, and then each of them has to allow the
order. -/
structure Rearranged (d d' : Document) : Prop where
  root : d'.root = d.root
  size : d'.graph.size = d.graph.size
  tag : ∀ id, (d'.graph.node id).tag = (d.graph.node id).tag
  position : ∀ id, (d'.graph.node id).position = (d.graph.node id).position
  content : ∀ id, (d'.graph.node id).content = (d.graph.node id).content ∨
    ∃ es es', (d.graph.node id).content = .mapping es ∧ (d'.graph.node id).content = .mapping es' ∧
      es.Perm es' ∧
      (∀ part, Role d (.mapping part) id →
        part.Allows (fun e => declaresMembers (textOf d.graph e.1)) es es') ∧
      ∀ v, Role d .value v → d.graph.Inside v id → Orderless d v es

/-- No mapping inside of a value has its entries in another order. Then not even the order of keys in
values differs, and the two models are the same. -/
def KeepsValues (d d' : Document) : Prop :=
  ∀ v id, Role d .value v → d.graph.Inside v id → (d'.graph.node id).content = (d.graph.node id).content

/-- Roles depend on what is in mappings and not on the order. -/
theorem Role.of_subset {d d' : Document} (hroot : d'.root = d.root)
    (hentries : ∀ id, d.graph.entries id ⊆ d'.graph.entries id)
    (hkeys : ∀ id text, (d.graph.node id).content = .scalar text →
      (d'.graph.node id).content = .scalar text)
    {place : Place} {id : NodeId} (h : Role d place id) : Role d' place id := by
  induction h with
  | root => exact hroot ▸ .root
  | inside _ hentry hkey hplace ih => exact .inside ih (hentries _ hentry) (hkeys _ _ hkey) hplace

namespace Rearranged

variable {origin : Origin} {d d' : Document} (h : Rearranged d d') {id other : NodeId}

include h

/-- A node has the same nodes in it, in whatever order. -/
theorem mem_children_iff {child : NodeId} :
    child ∈ (d'.graph.node id).content.children ↔ child ∈ (d.graph.node id).content.children := by
  rcases h.content id with heq | ⟨es, es', hes, hes', hperm, -⟩
  · rw [heq]
  · rw [hes, hes']
    exact (hperm.flatMap_right _).mem_iff.symm

/-- A mapping has the same entries, in whatever order. -/
theorem mem_entries_iff {e : NodeId × NodeId} : e ∈ d'.graph.entries id ↔ e ∈ d.graph.entries id := by
  unfold Graph.entries
  rcases h.content id with heq | ⟨es, es', hes, hes', hperm, -⟩
  · rw [heq]
  · rw [hes, hes']
    exact hperm.mem_iff.symm

/-- Scalars are the same. -/
theorem scalar_iff {text : Text} :
    (d'.graph.node id).content = .scalar text ↔ (d.graph.node id).content = .scalar text := by
  rcases h.content id with heq | ⟨es, es', hes, hes', -⟩
  · rw [heq]
  · rw [hes, hes']
    exact iff_of_false (fun h => nomatch h) fun h => nomatch h

/-- So is the text that a node writes. -/
theorem textOf_eq : textOf d'.graph id = textOf d.graph id := by
  unfold textOf
  rcases h.content id with heq | ⟨es, es', hes, hes', -⟩
  · rw [heq]
  · rw [hes, hes']

/-- The same nodes are inside of a node, as each step inside is one into a node in it. -/
theorem inside_iff : d'.graph.Inside id other ↔ d.graph.Inside id other := by
  unfold Graph.Inside
  simp only [h.mem_children_iff]

/-- The same nodes are loose, as this depends on tags and on which keys there are. -/
theorem loose_iff : d'.graph.Loose id ↔ d.graph.Loose id := by
  unfold Graph.Loose Graph.isMergeKey
  simp only [h.tag, h.mem_entries_iff]

/-- Mappings are mappings in either order, and other nodes are the same. -/
theorem kind_eq : d'.graph.kind id = d.graph.kind id := by
  unfold Graph.kind
  rcases h.content id with heq | ⟨es, es', hes, hes', -⟩
  · rw [heq]
  · rw [hes, hes']

/-- A sequence has the same items. -/
theorem sequence_iff {items : List NodeId} :
    (d'.graph.node id).content = .sequence items ↔ (d.graph.node id).content = .sequence items := by
  rcases h.content id with heq | ⟨es, es', hes, hes', -⟩
  · rw [heq]
  · rw [hes, hes']
    exact iff_of_false (fun h => nomatch h) fun h => nomatch h

/-- A key `<<` has the same sources. -/
theorem sources_eq : d'.graph.sources id = d.graph.sources id := by
  unfold Graph.sources
  rcases h.content id with heq | ⟨es, es', hes, hes', -⟩
  · rw [heq]
  · rw [hes, hes']

/-- Merges end in as many steps: it is no matter in which order they are made. -/
theorem mergesEnd_iff {n : Nat} : d'.graph.MergesEnd n id ↔ d.graph.MergesEnd n id := by
  induction n generalizing id with
  | zero => exact Iff.rfl
  | succ n ih =>
    unfold Graph.MergesEnd Graph.isMergeKey
    simp only [h.kind_eq, h.mem_entries_iff, h.tag, h.sources_eq, ih]

/-- The same nodes are fickle. -/
theorem fickle_iff : d'.graph.Fickle id ↔ d.graph.Fickle id := by
  unfold Graph.Fickle
  simp only [h.loose_iff, h.tag, h.size, h.mergesEnd_iff, h.sequence_iff]

/-- The reader takes the same nodes at each place. -/
theorem role_iff {place : Place} : Role d' place id ↔ Role d place id :=
  ⟨.of_subset h.root.symm (fun _ _ => h.mem_entries_iff.mp) fun _ _ => h.scalar_iff.mp,
    .of_subset h.root (fun _ _ => h.mem_entries_iff.mpr) fun _ _ => h.scalar_iff.mpr⟩

/-- The same entries have different strings as keys. -/
theorem differentStrings_iff {e e' : NodeId × NodeId} :
    d'.graph.DifferentStrings e e' ↔ d.graph.DifferentStrings e e' := by
  unfold Graph.DifferentStrings
  simp only [h.tag, h.scalar_iff]

/-- The order of entries is of no account in the other order either. -/
theorem orderless {v : NodeId} {es es' : List (NodeId × NodeId)} (hperm : es.Perm es')
    (hes : Orderless d v es) : Orderless d' v es' := by
  have hdiffer : es'.Pairwise d.graph.DifferentStrings :=
    hperm.pairwise hes.1 fun hdiffer => hdiffer.symm
  refine ⟨hdiffer.imp fun hdiffer => h.differentStrings_iff.mpr hdiffer, fun other hother => ?_⟩
  rw [h.fickle_iff]
  exact hes.2 other (h.inside_iff.mp hother)

/-- The first document is the second one in another order. -/
theorem symm : Rearranged d' d where
  root := h.root.symm
  size := h.size.symm
  tag id := (h.tag id).symm
  position id := (h.position id).symm
  content id := by
    simp only [h.role_iff, h.inside_iff, h.textOf_eq]
    rcases h.content id with heq | ⟨es, es', hes, hes', hperm, hallows, horderless⟩
    · exact Or.inl heq.symm
    · exact Or.inr ⟨es', es, hes', hes, hperm.symm, fun part hrole => (hallows part hrole).symm,
        fun v hv hinside => h.orderless hperm (horderless v hv hinside)⟩

/-- Neither document has anything in a value in another order than the other one. -/
theorem keepsValues_symm (hkept : KeepsValues d d') : KeepsValues d' d := by
  intro v id hv hinside
  rw [h.role_iff] at hv
  rw [h.inside_iff] at hinside
  exact (hkept v id hv hinside).symm

/-- Values are still apart. -/
theorem apart (hd : Apart d) : Apart d' where
  value := by
    simp only [h.role_iff, h.inside_iff, h.fickle_iff]
    exact hd.value
  structural := by
    simp only [h.role_iff, h.inside_iff, h.loose_iff]
    exact hd.structural

/-- A value in which nothing has another order is the same. Here nothing need be asked about merges, as each
value is made of the same nodes in both documents. -/
theorem value_of_kept {v : NodeId} {w : Value}
    (hkept : ∀ id, d.graph.Inside v id → (d'.graph.node id).content = (d.graph.node id).content)
    (hvalue : (View.of origin d.graph).value v w) : (View.of origin d'.graph).value v w := by
  obtain ⟨t, hrun⟩ := hvalue
  have hsame : Graph.Same {id | d.graph.Inside v id} d.graph d'.graph :=
    ⟨h.size, fun id hid => Yaml.Node.ext (h.tag id) (h.position id) (hkept id hid),
      (d.graph.same_inside v).closed⟩
  have hbegins : Begins {id | d.graph.Inside v id} d.graph d'.graph (.start d.graph) (.start d'.graph) :=
    ⟨hsame, hsame.refl_of, hsame.symm.refl_of⟩
  obtain ⟨t', hrun', -⟩ := Yaml.Evaluation.value_of_begins hbegins Relation.ReflTransGen.refl
    (hbegins.matches .nil .nil fun _ _ _ => rfl) hrun
  exact ⟨t', hrun'⟩

/-- Nothing but the order of entries differs inside of a value. -/
theorem shuffled {v : NodeId} (hv : Role d .value v) :
    d.graph.Shuffled {id | d.graph.Inside v id} d'.graph where
  size := h.size
  tag id _ := h.tag id
  position id _ := h.position id
  content id hid := by
    rcases h.content id with heq | ⟨es, es', hes, hes', hperm, -, horderless⟩
    · exact Or.inl heq
    · exact Or.inr ⟨es, es', hes, hes',
        swapped_of_perm (fun hdiffer => hdiffer.symm) hperm (horderless v hv hid).1⟩
  closed := d.graph.same_inside v

/-- A value in which some things have another order is the same up to this order. Its merges can be made
ahead in both documents, and then it has none. -/
theorem value_of_not_fickle {v : NodeId} {w : Value} (hv : Role d .value v)
    (hnone : ∀ id, d.graph.Inside v id → ¬ d.graph.Fickle id)
    (hvalue : (View.of origin d.graph).value v w) :
    ∃ w', (View.of origin d'.graph).value v w' ∧ w.Alike w' := by
  obtain ⟨e, hahead⟩ := exists_ahead d
  obtain ⟨e', hahead'⟩ := exists_ahead d'
  have htame : {id | d.graph.Inside v id} ⊆ tame d := fun id hid =>
    ⟨v, hv, hid, fun other hother => hnone other (hid.trans hother)⟩
  have htame' : {id | d.graph.Inside v id} ⊆ tame d' := by
    intro id hid
    refine ⟨v, h.role_iff.mpr hv, h.inside_iff.mpr hid, fun other hother => ?_⟩
    rw [h.fickle_iff]
    exact hnone other (hid.trans (h.inside_iff.mp hother))
  have hshuffled := (h.shuffled hv).completes htame htame' hahead.graph hahead'.graph
  -- With its merges made ahead, nothing is left in the value that making it could change.
  have hsteady : Yaml.Evaluation.IsSteady {id | d.graph.Inside v id} e.graph :=
    ⟨hshuffled.closed, fun id hid hloose => (hahead.loose hloose).2 (htame hid)⟩
  obtain ⟨t, hrun⟩ := (exists_value_iff hahead.completes_start).mp hvalue
  obtain ⟨w', t', hrun', halike⟩ :=
    Yaml.Evaluation.exists_value_of_shuffled hshuffled hsteady Relation.ReflTransGen.refl hrun
  exact ⟨w', (exists_value_iff hahead'.completes_start).mpr ⟨t', hrun'⟩, halike⟩

/-- So each value is the same up to the order of keys. -/
theorem value {v : NodeId} {w : Value} (hv : Role d .value v)
    (hvalue : (View.of origin d.graph).value v w) :
    ∃ w', (View.of origin d'.graph).value v w' ∧ w.Alike w' := by
  by_cases hkept : ∀ id, d.graph.Inside v id → (d'.graph.node id).content = (d.graph.node id).content
  · exact ⟨w, h.value_of_kept hkept hvalue, .refl w⟩
  · -- Some mapping in the value has another order, and so nothing in it is fickle.
    obtain ⟨id, hinside, hne⟩ := not_forall₂.mp hkept
    obtain ⟨es, es', -, -, -, -, horderless⟩ := (h.content id).resolve_left hne
    exact h.value_of_not_fickle hv (horderless v hv hinside).2 hvalue

/-- The items of a mapping are the same, where its entries may not be in another order. -/
theorem hasItems {part : Part} {items : List Item} (hrole : Role d (.mapping part) id)
    (hitems : HasItems d.graph id items) : ∃ items', HasItems d'.graph id items' ∧ items.Perm items' ∧
      part.Allows (fun item => declaresMembers item.key) items items' := by
  have hkeys (item : Item) (hitem : item ∈ items) :
      (d'.graph.node item.keyNode).content = .scalar item.key := h.scalar_iff.mpr (hitems.key item hitem)
  rcases h.content id with heq | ⟨es, es', hes, hes', hperm, hallows, -⟩
  · exact ⟨items, ⟨heq.trans hitems.content, hkeys, hitems.nodup⟩, .refl items, .refl _ _ _⟩
  · -- The items in the other order are those of the rearranged entries.
    have hmap : es.map (itemOf d.graph) = items := by
      have hcontent := hitems.content
      rw [hes] at hcontent
      rw [Content.mapping.inj hcontent]
      exact hitems.map_itemOf
    have hpermItems : items.Perm (es'.map (itemOf d.graph)) := hmap ▸ hperm.map (itemOf d.graph)
    refine ⟨es'.map (itemOf d.graph), ⟨?_, ?_, ?_⟩, hpermItems, ?_⟩
    · rw [hes', List.map_map]
      exact congrArg Content.mapping (List.map_id es').symm
    · exact fun item hitem => hkeys item (hpermItems.mem_iff.mpr hitem)
    · exact (hpermItems.map Item.key).nodup_iff.mp hitems.nodup
    · rw [← hmap]
      exact (hallows part hrole).map (itemOf d.graph)

/-- What is seen of the second document is what is seen of the first one, in another order. How the values
compare is left open, since they are the same in some documents and alike in all. -/
theorem rearranges {R : Value → Value → Prop} (hempty : R (.mapping []) (.mapping []))
    (hmapping : ∀ {entries v}, R (.mapping entries) v → ∃ entries', v = .mapping entries')
    (hvalue : ∀ {v w}, Role d .value v → (View.of origin d.graph).value v w →
      ∃ w', (View.of origin d'.graph).value v w' ∧ R w w') :
    (View.of origin d.graph).Rearranges (View.of origin d'.graph) (Role d) R where
  items hrole hitems := h.hasItems hrole hitems
  string _ hstring := ⟨h.scalar_iff.mpr hstring.1, (h.tag _).trans hstring.2⟩
  value := hvalue
  location id := by
    show placeOf origin d'.graph id = placeOf origin d.graph id
    unfold placeOf
    rw [h.position]
  inside hrole hitems item hitem hplace := hrole.of_hasItems hitems hitem hplace
  empty := hempty
  mapping := hmapping

/-- The second document declares the model that the first one does, up to the order of keys in values. -/
theorem isModel {m : Model} (hmodel : (View.of origin d.graph).IsModel d.root m) :
    ∃ m', (View.of origin d'.graph).IsModel d'.root m' ∧ m.Alike m' := by
  have hrearranges :
      (View.of origin d.graph).Rearranges (View.of origin d'.graph) (Role d) Value.Alike :=
    h.rearranges (.refl _) (fun halike => halike.exists_mapping) h.value
  exact h.root ▸ hrearranges.isModel .root hmodel

/-- It declares the same model, if nothing in a value has another order. -/
theorem isModel_of_keepsValues {m : Model} (hkept : KeepsValues d d')
    (hmodel : (View.of origin d.graph).IsModel d.root m) : (View.of origin d'.graph).IsModel d'.root m := by
  have hrearranges : (View.of origin d.graph).Rearranges (View.of origin d'.graph) (Role d) Eq :=
    h.rearranges rfl (fun heq => ⟨_, heq.symm⟩) fun hv hvalue =>
      ⟨_, h.value_of_kept (fun id hinside => hkept _ id hv hinside) hvalue, rfl⟩
  obtain ⟨m', hmodel', hrelated⟩ := hrearranges.isModel .root hmodel
  rw [Model.eq_of_related hrelated, h.root]
  exact hmodel'

end Rearranged

/-! ## Properties of a document -/

/-- The document with the entries as its properties. It is the plainest case of a document in another
order. -/
def withProperties (d : Document) (es : List (NodeId × NodeId)) : Document :=
  { d with graph := d.graph.setEntries d.root es }

/-- The entries of a mapping can be rearranged where this is of no account. -/
theorem rearranged_setEntries {d : Document} {id : NodeId} {entries es : List (NodeId × NodeId)}
    (hentries : (d.graph.node id).content = .mapping entries) (hperm : entries.Perm es)
    (hallows : ∀ part, Role d (.mapping part) id →
      part.Allows (fun e => declaresMembers (textOf d.graph e.1)) entries es)
    (horderless : ∀ v, Role d .value v → d.graph.Inside v id → Orderless d v entries) :
    Rearranged d { d with graph := d.graph.setEntries id es } := by
  have hnode (other : NodeId) : (d.graph.setEntries id es).node other = d.graph.node other ∨
      other = id ∧ (d.graph.setEntries id es).node other = { d.graph.node id with content := .mapping es } := by
    unfold Graph.setEntries
    rw [Graph.node_set]
    split
    · rename_i heq
      exact Or.inr ⟨heq.1, rfl⟩
    · exact Or.inl rfl
  refine ⟨rfl, Graph.size_set _ _ _, fun other => ?_, fun other => ?_, fun other => ?_⟩
  · rcases hnode other with heq | ⟨rfl, heq⟩ <;> exact heq ▸ rfl
  · rcases hnode other with heq | ⟨rfl, heq⟩ <;> exact heq ▸ rfl
  · rcases hnode other with heq | ⟨rfl, heq⟩
    · exact Or.inl (congrArg Yaml.Node.content heq)
    · exact Or.inr ⟨entries, es, hentries, congrArg Yaml.Node.content heq, hperm, hallows, horderless⟩

/-- The properties of a document without aliases can be rearranged in any way. -/
theorem rearranged_withProperties {d : Document} {entries es : List (NodeId × NodeId)} (hd : d.IsTree)
    (hentries : (d.graph.node d.root).content = .mapping entries) (hperm : entries.Perm es) :
    Rearranged d (withProperties d es) := by
  refine rearranged_setEntries hentries hperm (fun part hrole => ?_) fun v hv hinside => ?_
  · cases Role.root.unique hd hrole
    trivial
  · obtain rfl := Role.root.eq_of_inside_value hd hv hinside
    cases Role.root.unique hd hv

end ModelReader

namespace Model

open ModelReader Yaml

/-- If nothing in a value has another order, the document has the same model in either order. -/
theorem ofDocument_eq_ok_iff_of_keepsValues {origin : Origin} {d d' : Document} {m : Model}
    (h : Rearranged d d') (hd : Apart d) (hkept : KeepsValues d d') :
    ofDocument origin d' = .ok m ↔ ofDocument origin d = .ok m := by
  rw [ofDocument_eq_ok_iff_isModel hd, ofDocument_eq_ok_iff_isModel (h.apart hd)]
  exact ⟨h.symm.isModel_of_keepsValues (h.keepsValues_symm hkept), h.isModel_of_keepsValues hkept⟩

/-- In a document without aliases this is so for all its properties. -/
theorem ofDocument_withProperties_eq_ok_iff {origin : Origin} {d : Document} {m : Model}
    {entries es : List (NodeId × NodeId)} (hd : d.IsTree)
    (hentries : (d.graph.node d.root).content = .mapping entries) (hperm : entries.Perm es) :
    ofDocument origin (withProperties d es) = .ok m ↔ ofDocument origin d = .ok m := by
  refine ofDocument_eq_ok_iff_of_keepsValues (rearranged_withProperties hd hentries hperm)
    (apart_of_isTree hd) fun v id hv hinside => ?_
  have hne : id ≠ d.root := by
    rintro rfl
    obtain rfl := Role.root.eq_of_inside_value hd hv hinside
    cases Role.root.unique hd hv
  exact congrArg Yaml.Node.content (Graph.node_setEntries_of_ne hne)

/-- The order of properties is of no account in a document whose values are apart: with its properties in
another order it is accepted or refused alike, and the two models are equal up to the order of keys in values.
They are the same if nothing in a value has another order. -/
theorem ofDocument_alike_of_rearranged {origin : Origin} {d d' : Document} (h : Rearranged d d')
    (hd : Apart d) :
    (∀ m, ofDocument origin d = .ok m → ∃ m', ofDocument origin d' = .ok m' ∧ m.Alike m') ∧
      (∀ m', ofDocument origin d' = .ok m' → ∃ m, ofDocument origin d = .ok m ∧ m.Alike m') ∧
      (KeepsValues d d' → ∀ m, ofDocument origin d' = .ok m ↔ ofDocument origin d = .ok m) := by
  have hforward {m : Model} (hm : ofDocument origin d = .ok m) :
      ∃ m', ofDocument origin d' = .ok m' ∧ m.Alike m' := by
    obtain ⟨m', hm', halike⟩ := h.isModel ((ofDocument_eq_ok_iff_isModel hd).mp hm)
    exact ⟨m', (ofDocument_eq_ok_iff_isModel (h.apart hd)).mpr hm', halike⟩
  refine ⟨fun m => hforward, fun m' hm' => ?_, fun hkept m =>
    ofDocument_eq_ok_iff_of_keepsValues h hd hkept⟩
  -- Back from the other order there is a model, and in this order it is the one that was read.
  obtain ⟨m, hm, -⟩ := h.symm.isModel ((ofDocument_eq_ok_iff_isModel (h.apart hd)).mp hm')
  have hm := (ofDocument_eq_ok_iff_isModel hd).mpr hm
  obtain ⟨m'', hm'', halike⟩ := hforward hm
  rw [hm'] at hm''
  cases hm''
  exact ⟨m, hm, halike⟩

/-- A shape that the metadata hold as well. They and a trait of the shape share a mapping that merges
another one. Still values are apart, and the properties of the shape can be permuted in both places at
once. -/
def aliasedText : Text :=
  "metadata: {m: &m {<<: {k: v}}, s: &s {type: string, traits: {t: *m}}}\nshapes: {a#B: *s}\n"

/-- The shape can have its properties in the other order, although the metadata change by this. -/
theorem ofDocument_alike_of_rearranged_aliased :
    ∃ d id es, Document.ofText aliasedText = .ok (some d) ∧ es = (d.graph.entries id).reverse ∧
      es ≠ d.graph.entries id ∧ Role d (.mapping .shape) id ∧
      (∃ v, Role d .value v ∧ d.graph.Inside v id) ∧
      Rearranged d { d with graph := d.graph.setEntries id es } ∧ Apart d ∧
      ∃ m m', ofDocument ⟨"m.yaml", aliasedText⟩ d = .ok m ∧
        ofDocument ⟨"m.yaml", aliasedText⟩ { d with graph := d.graph.setEntries id es } = .ok m' ∧
        m.Alike m' := by
  have hchecked : ((Document.ofText aliasedText).toOption.any fun o => o.any fun d => decide
      (((d.graph.node 10).content = .mapping (d.graph.entries 10) ∧
        (d.graph.entries 10).reverse ≠ d.graph.entries 10 ∧
        (d.graph.entries 10).Pairwise d.graph.DifferentStrings) ∧
      (Role d (.mapping .shape) 10 ∧ (∀ p ∈ roles d, p.2 = 10 → p.1 = .mapping .shape) ∧
        Part.shape.Allows (fun e => declaresMembers (textOf d.graph e.1)) (d.graph.entries 10)
          (d.graph.entries 10).reverse) ∧
      (Role d .value 2 ∧ 10 ∈ (d.graph.node 2).content.children) ∧
      (∀ id < d.graph.size, ((d.graph.node id).tag ≠ .omap ∧ (d.graph.node id).tag ≠ .pairs) ∧
        (d.graph.Loose id → (d.graph.node id).tag ≠ .value ∧ d.graph.MergesEnd d.graph.size id)) ∧
      (∀ p ∈ roles d, p.1 ≠ .value → ¬ d.graph.Loose p.2) ∧
      ((ofDocument ⟨"m.yaml", aliasedText⟩ d).toOption.any fun _ => true) = true)) = true := by
    decide +kernel
  obtain ⟨_ | d, hd, hcheck⟩ := exists_ok_of_toOption_any hchecked
  · cases hcheck
  obtain ⟨⟨hentries, hne, hdiffer⟩, ⟨hrole, hplaces, hallows⟩, ⟨hvalue, hchild⟩, hnodes, hroles, hread⟩ :=
    of_decide_eq_true hcheck
  have hfickle := Yaml.Graph.not_fickle_of_forall_lt hnodes
  have hapart := apart_of_not_fickle hfickle hroles
  have hrearranged : Rearranged d
      { d with graph := d.graph.setEntries 10 (d.graph.entries 10).reverse } := by
    refine rearranged_setEntries hentries (List.reverse_perm _).symm (fun part hpart => ?_) fun v _ _ =>
      ⟨hdiffer, fun id _ => hfickle id⟩
    cases hplaces _ (mem_roles_iff.mpr hpart) rfl
    exact hallows
  obtain ⟨m, hm, -⟩ := exists_ok_of_toOption_any hread
  obtain ⟨m', hm', halike⟩ := (ofDocument_alike_of_rearranged hrearranged hapart).1 m hm
  exact ⟨d, 10, _, hd, rfl, hne, hrole, ⟨2, hvalue, .single hchild⟩, hrearranged, hapart, m, m', hm, hm',
    halike⟩

/-- A shape that the metadata holds as well, and that is merged there. The merge changes the node of the
shape, so it matters which of the two is read first. -/
def sharedText : Text :=
  "metadata:\n  m: &s\n    <<: {type: string}\nshapes:\n  a#B: *s\n"

/-- The shape has a type if the metadata are made first, and none if they are made last. What is merged into
the metadata is merged into the shape, which is the same node. -/
theorem ofDocument_ne_of_shared :
    ∃ d es, Document.ofText sharedText = .ok (some d) ∧ (d.graph.entries d.root).Perm es ∧
      (∃ m, ofDocument ⟨"m.yaml", sharedText⟩ d = .ok m) ∧
      ∀ m, ofDocument ⟨"m.yaml", sharedText⟩ (withProperties d es) ≠ .ok m := by
  have hchecked : ((Document.ofText sharedText).toOption.any fun o => o.any fun d =>
      ((ofDocument ⟨"m.yaml", sharedText⟩ d).toOption.any fun _ => true) &&
        decide ((ofDocument ⟨"m.yaml", sharedText⟩
          (withProperties d (d.graph.entries d.root).reverse)).toOption.isNone)) = true := by
    decide +kernel
  obtain ⟨_ | d, hd, hcheck⟩ := exists_ok_of_toOption_any hchecked
  · cases hcheck
  obtain ⟨hread, hrefused⟩ := Bool.and_eq_true_iff.mp hcheck
  obtain ⟨m, hm, -⟩ := exists_ok_of_toOption_any hread
  refine ⟨d, _, hd, (List.reverse_perm _).symm, ⟨m, hm⟩, fun m' hm' => ?_⟩
  have hnone := of_decide_eq_true hrefused
  rw [hm'] at hnone
  cases hnone

end Model

end TermAudit
