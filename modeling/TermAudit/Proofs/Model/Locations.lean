import Mathlib.Data.List.Perm.Subperm
import TermAudit.Proofs.Model.KeyOrder
import TermAudit.Proofs.Model.WellFormed

/-!
# `TermAudit.Proofs.Model.Locations`: locations follow the document

Shapes, members and traits are located at keys of the document. The reader takes them apart: the traits of
a shape come from one of its properties, and its members from several others, with the traits in front of
them, between or behind. `TakenFrom` says how the locations of what a part of the document declares are
related to the places of the keys in this part (`keyPlaces`): those of shapes and members come in the order
of the keys, and so do those of each of them with its traits, and all together no key is used twice.

* `takenFrom_of_areMembersOf`, `takenFrom_of_isShape`, `takenFrom_of_areShapes`: this holds of each part;
* `takenFrom_of_isModel`: so it holds of the whole document;
* `Model.walk_locations_increase`: where the keys stand one behind the other, so do the declarations.
-/

set_option autoImplicit false

namespace TermAudit

/-- A location is before another one: in a line before, or before it in the line. -/
def Location.Before (l k : Location) : Prop :=
  l.line < k.line ∨ l.line = k.line ∧ l.column < k.column

/-- Where a shape or member and its traits are declared. The shape comes first, as its key stands before
all that it has. -/
def Shape.locations (s : Shape) : List Location :=
  s.location :: s.traits.map Trait.location

namespace ModelReader

open Yaml (Graph NodeId Evaluation Document)

/-! ## Locations out of a list of places -/

/-- The locations of shapes and members are some of the places in their order, and so are those of each of
them with its traits. All together take no place twice. Traits of one shape can stand behind its members,
so there is no single order for all of them. -/
structure TakenFrom (places : List Location) (shapes : List Shape) : Prop where
  walk : (shapes.map Shape.location).Sublist places
  own : ∀ s ∈ shapes, s.locations.Sublist places
  all : (shapes.flatMap Shape.locations).Subperm places

namespace TakenFrom

variable {places places' : List Location} {shapes shapes' : List Shape}

/-- No shapes take no places. -/
theorem nil : TakenFrom places [] where
  walk := List.nil_sublist _
  own _ h := nomatch h
  all := List.nil_subperm

/-- Places may be left over, between those that are taken as well. -/
theorem mono (h : TakenFrom places shapes) (hplaces : places.Sublist places') :
    TakenFrom places' shapes where
  walk := h.walk.trans hplaces
  own s hs := (h.own s hs).trans hplaces
  all := h.all.trans hplaces.subperm

/-- What two parts declare is taken from the places of both, one part behind the other. -/
theorem append (h : TakenFrom places shapes) (h' : TakenFrom places' shapes') :
    TakenFrom (places ++ places') (shapes ++ shapes') where
  walk := by
    rw [List.map_append]
    exact h.walk.append h'.walk
  own s hs := by
    rcases List.mem_append.mp hs with hs | hs
    · exact (h.own s hs).trans (List.sublist_append_left _ _)
    · exact (h'.own s hs).trans (List.sublist_append_right _ _)
  all := by
    rw [List.flatMap_append]
    exact h.all.append h'.all

/-- What each element declares is taken from the places of this element. -/
theorem flatMap {α β : Type} {R : α → β → Prop} {f : α → List Location} {shapesOf : β → List Shape}
    {as : List α} {bs : List β} (h : List.Forall₂ R as bs)
    (hR : ∀ a ∈ as, ∀ b, R a b → TakenFrom (f a) (shapesOf b)) :
    TakenFrom (as.flatMap f) (bs.flatMap shapesOf) := by
  induction h with
  | nil => exact nil
  | cons hfirst _ ih =>
    rw [List.forall_mem_cons] at hR
    rw [List.flatMap_cons, List.flatMap_cons]
    exact (hR.1 _ hfirst).append (ih hR.2)

end TakenFrom

/-! ## The places of keys -/

section Places

variable {origin : Origin} {d : Document} {id : NodeId} {item : Item} {items : List Item}

/-- The places of the keys in a node, in the order in which they are written. -/
def keyPlaces (origin : Origin) (g : Graph) (id : NodeId) : List Location :=
  (g.keysIn id).map (placeOf origin g)

/-- The place of the key of an item, and those of the keys in its value. Keys inside of the key are left
out: a key of the structure is a scalar, and has none. -/
def itemPlaces (origin : Origin) (g : Graph) (item : Item) : List Location :=
  placeOf origin g item.keyNode :: keyPlaces origin g item.value

/-- The value of an item is inside of what its mapping is inside of. -/
theorem HasItems.inside (hitems : HasItems d.graph id items) (hid : d.graph.Inside d.root id)
    (hitem : item ∈ items) : d.graph.Inside d.root item.value :=
  hid.tail (Graph.value_mem_children (hitems.mem_entries hitem))

/-- The keys of items are texts, with no keys in them. -/
theorem keyPlaces_of_hasItems (hd : d.IsTree) (hid : d.graph.Inside d.root id)
    (hitems : HasItems d.graph id items) :
    keyPlaces origin d.graph id = items.flatMap (itemPlaces origin d.graph) := by
  unfold keyPlaces
  rw [hd.keysIn_mapping hid hitems.content, List.flatMap_map, List.map_flatMap]
  refine List.flatMap_congr fun item hitem => ?_
  have hkey : d.graph.keysIn item.keyNode = [] :=
    Graph.keysWithin_of_children_eq_nil (by rw [hitems.key item hitem]; rfl) _
  rw [hkey, List.nil_append, List.map_cons]
  rfl

/-- The keys in the value of an item are among those in the mapping. -/
theorem keyPlaces_sublist (hd : d.IsTree) (hid : d.graph.Inside d.root id)
    (hitems : HasItems d.graph id items) (hitem : item ∈ items) :
    (keyPlaces origin d.graph item.value).Sublist (keyPlaces origin d.graph id) := by
  calc
    (keyPlaces origin d.graph item.value).Sublist (itemPlaces origin d.graph item) :=
      List.sublist_cons_self _ _
    List.Sublist _ (items.flatMap (itemPlaces origin d.graph)) := by
      rw [List.flatMap_def]
      exact List.sublist_flatten_of_mem (List.mem_map_of_mem hitem)
    _ = keyPlaces origin d.graph id := (keyPlaces_of_hasItems hd hid hitems).symm

end Places

/-! ## Parts of a document -/

section Parts

variable {origin : Origin} {d : Document} (hd : d.IsTree) {id keyNode : NodeId} {item : Item}
  {items : List Item} {ts : List Trait}

include hd

/-- Traits are located at the keys of one mapping. -/
theorem traits_sublist (hid : d.graph.Inside d.root id)
    (h : (View.of origin d.graph).AreTraits id ts) :
    (ts.map Trait.location).Sublist (keyPlaces origin d.graph id) := by
  obtain ⟨items, hitems, hall⟩ := h
  rw [keyPlaces_of_hasItems hd hid hitems]
  clear hitems
  induction hall with
  | nil => exact List.nil_sublist _
  | @cons item t items ts ht _ ih =>
    rw [List.map_cons, List.flatMap_cons, ht.location]
    exact (ih.trans (List.sublist_append_right _ _)).cons_cons _

/-- The property `traits` is among the others. -/
theorem property_traits_sublist (hid : d.graph.Inside d.root id) (hitems : HasItems d.graph id items)
    (h : PropertyIn "traits" (View.of origin d.graph).AreTraits [] items ts) :
    (ts.map Trait.location).Sublist (keyPlaces origin d.graph id) := by
  rcases h with ⟨item, hitem, -, htraits⟩ | ⟨-, rfl⟩
  · exact (traits_sublist hd (hitems.inside hid hitem) htraits).trans
      (keyPlaces_sublist hd hid hitems hitem)
  · exact List.nil_sublist _

/-- A member is located at its key, and its traits at keys of its value. -/
theorem takenFrom_of_isMember {shape : ShapeId} {s : Shape} (hid : d.graph.Inside d.root id)
    (h : (View.of origin d.graph).IsMember shape keyNode id s) :
    TakenFrom (placeOf origin d.graph keyNode :: keyPlaces origin d.graph id) [s] := by
  cases h with
  | of_items hitems _ htraits =>
    have hown := (property_traits_sublist hd hid hitems htraits).cons_cons
      (placeOf origin d.graph keyNode)
    constructor
    · exact (List.nil_sublist _).cons_cons _
    · intro s hs
      rw [List.mem_singleton.mp hs]
      exact hown
    · rw [List.flatMap_singleton]
      exact hown.subperm

/-- The members that a property declares are located at keys of the property, which is at its own key if it
declares one alone. -/
theorem takenFrom_of_areMembersOf {shape : ShapeId} {members : List Shape}
    (hitem : d.graph.Inside d.root item.value)
    (h : (View.of origin d.graph).AreMembersOf shape item members) :
    TakenFrom (itemPlaces origin d.graph item) members := by
  by_cases hmembers : item.key = Text.ofString "members"
  · obtain ⟨items, hitems, hall⟩ := (areMembersOf_iff_of_members hmembers).mp h
    have htaken : TakenFrom (items.flatMap (itemPlaces origin d.graph))
        (members.flatMap fun s => [s]) :=
      .flatMap hall fun inner hinner _ hs =>
        takenFrom_of_isMember hd (HasItems.inside hitems hitem hinner) hs
    rw [← keyPlaces_of_hasItems hd hitem hitems, List.flatMap_singleton'] at htaken
    exact htaken.mono (List.sublist_cons_self _ _)
  by_cases hone : (singleMembers.any fun name => Text.ofString name = item.key) = true
  · obtain ⟨s, hs, rfl⟩ := (areMembersOf_iff_of_single hmembers hone).mp h
    exact takenFrom_of_isMember hd hitem hs
  · rw [(areMembersOf_iff_of_other hmembers hone).mp h]
    exact .nil

/-- The members that properties declare are taken from these properties. -/
theorem takenFrom_flatten {shape : ShapeId} {groups : List (List Shape)}
    (hinside : ∀ item ∈ items, d.graph.Inside d.root item.value)
    (hgroups : List.Forall₂ ((View.of origin d.graph).AreMembersOf shape) items groups) :
    TakenFrom (items.flatMap (itemPlaces origin d.graph)) groups.flatten := by
  rw [← List.flatMap_id]
  exact .flatMap hgroups fun item hitem _ hgroup =>
    takenFrom_of_areMembersOf hd (hinside item hitem) hgroup

/-- Where traits and members are taken from the properties of a shape, they are taken from different
ones. -/
theorem traits_append_members_subperm {shape : ShapeId} {groups : List (List Shape)}
    (hinside : ∀ item ∈ items, d.graph.Inside d.root item.value)
    (hgroups : List.Forall₂ ((View.of origin d.graph).AreMembersOf shape) items groups)
    (hitem : item ∈ items) (hkey : item.key = Text.ofString "traits")
    (htraits : (View.of origin d.graph).AreTraits item.value ts) :
    (ts.map Trait.location ++ groups.flatten.flatMap Shape.locations).Subperm
      (items.flatMap (itemPlaces origin d.graph)) := by
  induction hgroups with
  | nil => cases hitem
  | @cons first group others groups hfirst hrest ih =>
    obtain ⟨hinsideFirst, hinsideOthers⟩ := List.forall_mem_cons.mp hinside
    rw [List.flatMap_cons, List.flatten_cons, List.flatMap_append]
    rcases List.mem_cons.mp hitem with rfl | hitem
    · -- The traits come here, and this property declares no members.
      have hnone : group = [] := by
        refine (areMembersOf_iff_of_other ?_ ?_).mp hfirst <;> rw [hkey] <;> decide
      have htaken : (ts.map Trait.location).Sublist (itemPlaces origin d.graph item) :=
        (traits_sublist hd hinsideFirst htraits).trans (List.sublist_cons_self _ _)
      rw [hnone]
      exact htaken.subperm.append (takenFrom_flatten hd hinsideOthers hrest).all
    · have htaken := takenFrom_of_areMembersOf hd hinsideFirst hfirst
      exact (List.perm_append_comm_assoc _ _ _).subperm.trans
        (htaken.all.append (ih hinsideOthers hitem))

/-- A shape is located at its key, and its traits and members at keys in its value. The property `traits`
may stand in front of the members, between or behind, so it is looked for apart. -/
theorem takenFrom_of_isShape {s : Shape} (hitem : d.graph.Inside d.root item.value)
    (h : (View.of origin d.graph).IsShape item s) :
    TakenFrom (itemPlaces origin d.graph item) (s :: s.members) := by
  cases h with
  | @of_items shape items type ts groups _ _ hitems _ htraits hgroups =>
    have hinside (inner : Item) (hinner : inner ∈ items) : d.graph.Inside d.root inner.value :=
      HasItems.inside hitems hitem hinner
    have hmembers : TakenFrom (keyPlaces origin d.graph item.value) groups.flatten := by
      rw [keyPlaces_of_hasItems hd hitem hitems]
      exact takenFrom_flatten hd hinside hgroups
    -- Traits and members come from different properties, so no place is taken twice.
    have hall : (ts.map Trait.location ++ groups.flatten.flatMap Shape.locations).Subperm
        (keyPlaces origin d.graph item.value) := by
      rcases htraits with ⟨property, hproperty, hkey, htraits⟩ | ⟨-, rfl⟩
      · rw [keyPlaces_of_hasItems hd hitem hitems]
        exact traits_append_members_subperm hd hinside hgroups hproperty hkey htraits
      · exact hmembers.all
    constructor
    · exact hmembers.walk.cons_cons _
    · rw [List.forall_mem_cons]
      constructor
      · exact (property_traits_sublist hd hitem hitems htraits).cons_cons _
      · exact (hmembers.mono (List.sublist_cons_self _ _)).own
    · exact (List.subperm_cons _).mpr hall

/-- The shapes of a mapping are taken from its keys, one shape after the other. Each brings its members
with it. -/
theorem takenFrom_of_areShapes {shapes : List Shape} (hid : d.graph.Inside d.root id)
    (h : (View.of origin d.graph).AreShapes id shapes) :
    TakenFrom (keyPlaces origin d.graph id) (shapes.flatMap fun s => s :: s.members) := by
  obtain ⟨items, hitems, hall⟩ := h
  rw [keyPlaces_of_hasItems hd hid hitems]
  exact .flatMap hall fun item hitem _ hs =>
    takenFrom_of_isShape hd (HasItems.inside hitems hid hitem) hs

/-- The whole document. Its shapes are in one of its properties, so the places of all other keys are
passed over. -/
theorem takenFrom_of_isModel {m : Model} (h : (View.of origin d.graph).IsModel d.root m) :
    TakenFrom (keyPlaces origin d.graph d.root) m.walk := by
  obtain ⟨items, hitems, hafter⟩ := h
  unfold Model.walk
  rcases hafter.shapes with ⟨item, hitem, -, hshapes⟩ | ⟨-, hnone⟩
  · exact (takenFrom_of_areShapes hd (HasItems.inside hitems .refl hitem) hshapes).mono
      (keyPlaces_sublist hd .refl hitems hitem)
  · rw [hnone]
    exact .nil

end Parts

/-- What is taken from places one behind the other keeps their order, and no two locations have a line
and a column in common. -/
theorem TakenFrom.increases {places : List Location} {shapes : List Shape} (h : TakenFrom places shapes)
    (hplaces : places.Pairwise Location.Before) :
    (shapes.map Shape.location).Pairwise Location.Before ∧
      (∀ s ∈ shapes, s.locations.Pairwise Location.Before) ∧
      ((shapes.flatMap Shape.locations).map fun l => (l.line, l.column)).Nodup := by
  refine ⟨hplaces.sublist h.walk, fun s hs => hplaces.sublist (h.own s hs), ?_⟩
  obtain ⟨l, hperm, hsub⟩ := h.all
  rw [← (hperm.map _).nodup_iff]
  have hdiffer : l.Pairwise fun a b => (a.line, a.column) ≠ (b.line, b.column) := by
    refine (hplaces.sublist hsub).imp fun {a b} hbefore heq => ?_
    unfold Location.Before at hbefore
    obtain ⟨hline, hcolumn⟩ := Prod.mk.inj heq
    omega
  exact List.pairwise_map.mpr hdiffer

/-- Locations are where keys begin. -/
theorem keyPlaces_pairwise {origin : Origin} {d : Document} (h : d.KeysIncrease) :
    (keyPlaces origin d.graph d.root).Pairwise Location.Before := by
  refine List.pairwise_map.mpr (h.imp fun {key next} hbefore => ?_)
  unfold Yaml.Position.Before at hbefore
  unfold placeOf Location.Before
  dsimp only
  omega

end ModelReader

namespace Model

open ModelReader Yaml

/-- Of a document without aliases whose keys stand one behind the other, shapes and members are read in
the order of their locations. The traits of each stand behind it, in their order, and no two shapes,
members or traits stand at the same place. -/
theorem walk_locations_increase {origin : Origin} {d : Document} {m : Model} (htree : d.IsTree)
    (hkeys : d.KeysIncrease) (h : ofDocument origin d = .ok m) :
    (m.walk.map Shape.location).Pairwise Location.Before ∧
      (∀ s ∈ m.walk, (∀ t ∈ s.traits, s.location.Before t.location) ∧
        (s.traits.map Trait.location).Pairwise Location.Before) ∧
      ((m.walk.flatMap Shape.locations).map fun l => (l.line, l.column)).Nodup := by
  have hmodel := (ofDocument_eq_ok_iff_isModel (apart_of_isTree htree)).mp h
  obtain ⟨hwalk, hown, hall⟩ := (takenFrom_of_isModel htree hmodel).increases (keyPlaces_pairwise hkeys)
  refine ⟨hwalk, fun s hs => ?_, hall⟩
  obtain ⟨hfirst, htraits⟩ := List.pairwise_cons.mp (hown s hs)
  exact ⟨fun t ht => hfirst _ (List.mem_map_of_mem ht), htraits⟩

/-- A map with a member before its traits and another one behind them. The order in which shapes and
members are read is still that of their keys. -/
def interleavedText : Text :=
  "shapes:\n a#B:\n  value: {traits: {e: 1, f: 2}, target: c#D}\n  type: map\n" ++
    "  traits: {c#d: {<<: {e: f}}, c#e: 2}\n  key: {target: c#D, traits: {e: 3}}\n"

/-- The general theorem for a shape whose traits stand between the properties that declare its members. -/
theorem walk_locations_increase_interleaved : ∃ d m,
    Document.ofText interleavedText = .ok (some d) ∧ d.IsTree ∧ d.KeysIncrease ∧
      ofDocument ⟨"m.yaml", interleavedText⟩ d = .ok m ∧
      (m.walk.map fun s => (s.location.line, s.location.column)) = [(2, 2), (3, 3), (6, 3)] ∧
      (m.walk.map Shape.location).Pairwise Location.Before ∧
      ((m.walk.flatMap Shape.locations).map fun l => (l.line, l.column)).Nodup := by
  have hchecked : ((Document.ofText interleavedText).toOption.any fun o => o.any fun d =>
      (decide d.occurrences.Nodup && decide d.KeysIncrease) &&
        (ofDocument ⟨"m.yaml", interleavedText⟩ d).toOption.any fun m =>
          decide ((m.walk.map fun s => (s.location.line, s.location.column)) =
            [(2, 2), (3, 3), (6, 3)])) = true := by
    decide +kernel
  obtain ⟨_ | d, hd, hcheck⟩ := exists_ok_of_toOption_any hchecked
  · cases hcheck
  obtain ⟨hdocument, hread⟩ := Bool.and_eq_true_iff.mp hcheck
  obtain ⟨hnodup, hkeys⟩ := Bool.and_eq_true_iff.mp hdocument
  have htree := Document.isTree_of_nodup (of_decide_eq_true hnodup)
  obtain ⟨m, hm, hwalk⟩ := exists_ok_of_toOption_any hread
  obtain ⟨hincrease, -, hapart⟩ := walk_locations_increase htree (of_decide_eq_true hkeys) hm
  exact ⟨d, m, hd, htree, of_decide_eq_true hkeys, hm, of_decide_eq_true hwalk, hincrease, hapart⟩

end Model

end TermAudit
