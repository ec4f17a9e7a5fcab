import TermAudit.Proofs.Model.Identity
import TermAudit.Proofs.Yaml.Taken

/-!
# `TermAudit.Proofs.Model.Places`: the key of a declaration

A shape, a member or a trait is declared at a key of the document, and its location is where this key
begins. The key is found by the keys around it: `Graph.Leads` says which node they lead to from the root
of the document, and `ShapeId.DeclaredAt` which keys declare a shape or member with an id.

* `ModelReader.View.written`: what the reader sees in a document with merges;
* `Model.isModel_written_of_ofText`: a model that is read is declared by this;
* `Model.stands_of_ofText`: each shape and member, and each of its traits, is located at its key.
-/

set_option autoImplicit false

namespace TermAudit

/-- The keys lead from the root to a key of the document and its value. A mapping can have a key from
another one that it merges, so there may be several keys of one text, and the relation does not choose
between them. -/
inductive Yaml.Graph.Leads (g : Graph) (root : NodeId) : List Text → NodeId → NodeId → Prop
  | top {key : Text} {keyNode value : NodeId} (h : g.Takes root (keyNode, value))
    (hkey : (g.node keyNode).content = .scalar key) : Leads g root [key] keyNode value
  | inside {path : List Text} {key : Text} {outer id keyNode value : NodeId}
    (houter : Leads g root path outer id) (h : g.Takes id (keyNode, value))
    (hkey : (g.node keyNode).content = .scalar key) : Leads g root (path ++ [key]) keyNode value

open ModelReader in
/-- The keys under which a shape or member with the id is declared. There are two ways for members with
certain names, and one for all others. -/
inductive ShapeId.DeclaredAt : ShapeId → List Text → Prop
  | shape {key : Text} {id : ShapeId} (h : ShapeId.parse key = .ok id) (hmember : id.member = none) :
    DeclaredAt id [Text.ofString "shapes", key]
  | member {key name : Text} {id : ShapeId} (h : ShapeId.parse key = .ok id) (hmember : id.member = none) :
    DeclaredAt (id.withMember name) [Text.ofString "shapes", key, Text.ofString "members", name]
  | single {key name : Text} {id : ShapeId} (h : ShapeId.parse key = .ok id) (hmember : id.member = none)
    (hname : (singleMembers.any fun single => Text.ofString single = name) = true) :
    DeclaredAt (id.withMember name) [Text.ofString "shapes", key, name]

namespace ModelReader

open Yaml (Graph NodeId Evaluation)

variable {origin : Origin} {g : Graph} {root : NodeId} {path : List Text} {item : Item} {s : Shape}

/-- What the reader sees in a document with merges. The items of a mapping are entries that it has, by
itself or from a mapping that it merges. It says less than what is read, but all of it holds whatever has
been merged before. -/
def View.written (origin : Origin) (g : Graph) : View where
  items id items := (items.map Item.key).Nodup ∧ ∀ item ∈ items,
    g.Takes id (item.keyNode, item.value) ∧ (g.node item.keyNode).content = .scalar item.key
  string id text := (g.node id).content = .scalar text
  value _ _ := True
  location := placeOf origin g

/-- Whatever has been merged, the reader sees what was written. -/
theorem reflects_written (origin : Origin) (g : Graph) :
    (View.written origin g).Reflects origin (fun _ _ => True) (fun s => s.graph.MergedFrom g) False where
  items called _ s hs := by
    refine ⟨fun items s' hrun => ?_, False.elim⟩
    obtain ⟨rfl, hitems⟩ := run_items_eq_ok_iff.mp hrun
    refine ⟨hs, hitems.nodup, fun item hitem => ⟨?_, hs.content _ _ (hitems.key item hitem)⟩⟩
    -- An item is an entry of the mapping as it is now, and such an entry was taken from somewhere.
    exact hs.takes _ _ (hitems.mem_entries hitem)
  string called _ s hs := by
    refine ⟨fun text s' hrun => ?_, False.elim⟩
    obtain ⟨rfl, hcontent, -⟩ := run_string_eq_ok_iff.mp hrun
    exact ⟨hs, hs.content _ _ hcontent⟩
  value {id} _ s hs := by
    refine ⟨fun v s' hrun => ?_, False.elim⟩
    exact (Evaluation.keeps_mergedFrom g).maintains_value id s v s' hs (run_plainValue_eq_ok_iff.mp hrun)
  location id s hs := by
    refine ⟨fun l s' hrun => ?_, False.elim⟩
    obtain ⟨rfl, rfl⟩ := run_location_eq_ok_iff.mp hrun
    exact ⟨hs, placeOf_of_stemsFrom hs.toStemsFrom id⟩
  inside _ _ _ _ _ := trivial
  nodup h := h.1

/-! ## Declarations and their keys -/

/-- The shape or member stands at the key to which the path leads, and its traits at keys inside. The key
is a node of the document, so the location in a diagnostic is a place in the text. -/
structure Stands (origin : Origin) (g : Graph) (root : NodeId) (path : List Text) (s : Shape) : Prop where
  location : ∃ keyNode value, g.Leads root path keyNode value ∧ s.location = placeOf origin g keyNode
  traits : ∀ t ∈ s.traits, ∃ key keyNode value, ShapeId.parse (traitKey key) = .ok t.id ∧
    g.Leads root (path ++ [Text.ofString "traits", key]) keyNode value ∧
    t.location = placeOf origin g keyNode

/-- The key of an item is one step more. -/
theorem leads_item {keyNode id : NodeId} {items : List Item} (h : g.Leads root path keyNode id)
    (hitems : (View.written origin g).items id items) (hitem : item ∈ items) :
    g.Leads root (path ++ [item.key]) item.keyNode item.value :=
  .inside h (hitems.2 item hitem).1 (hitems.2 item hitem).2

/-- Traits stand at keys of the property `traits`, two steps inside of what they belong to. -/
theorem traits_stand {keyNode id : NodeId} {items : List Item} {ts : List Trait}
    (h : g.Leads root path keyNode id) (hitems : (View.written origin g).items id items)
    (htraits : PropertyIn "traits" (View.written origin g).AreTraits [] items ts) :
    ∀ t ∈ ts, ∃ key keyNode value, ShapeId.parse (traitKey key) = .ok t.id ∧
      g.Leads root (path ++ [Text.ofString "traits", key]) keyNode value ∧
      t.location = placeOf origin g keyNode := by
  intro t ht
  rcases htraits with ⟨property, hproperty, hname, inner, hinner, hall⟩ | ⟨-, rfl⟩
  · obtain ⟨item, hitem, hdeclared⟩ := exists_mem_of_forall₂_right hall ht
    -- Two steps: to the property `traits`, and to the name of the trait.
    have hleads := leads_item (leads_item h hitems hproperty) hinner hitem
    rw [hname, List.append_assoc] at hleads
    exact ⟨item.key, item.keyNode, item.value, hdeclared.id, hleads, hdeclared.location⟩
  · cases ht

/-- A member stands at its key, and its traits at keys inside. -/
theorem stands_of_isMember {id : ShapeId} {keyNode value : NodeId} (h : g.Leads root path keyNode value)
    (hs : (View.written origin g).IsMember id keyNode value s) : Stands origin g root path s := by
  cases hs with
  | of_items hitems _ htraits => exact ⟨⟨keyNode, value, h, rfl⟩, traits_stand h hitems htraits⟩

/-- A member stands at its name in the mapping of members, or at the property that declares it alone. -/
theorem exists_stands_of_areMembersOf {key : Text} {shape : ShapeId} {members : List Shape}
    (hparse : ShapeId.parse key = .ok shape) (hmember : shape.member = none)
    (h : g.Leads root ([Text.ofString "shapes", key] ++ [item.key]) item.keyNode item.value)
    (hmembers : (View.written origin g).AreMembersOf shape item members) (hs : s ∈ members) :
    ∃ path, s.id.DeclaredAt path ∧ Stands origin g root path s := by
  by_cases hname : item.key = Text.ofString "members"
  · obtain ⟨items, hitems, hall⟩ := (areMembersOf_iff_of_members hname).mp hmembers
    obtain ⟨named, hnamed, hdeclared⟩ := exists_mem_of_forall₂_right hall hs
    have hleads := leads_item h hitems hnamed
    rw [hname] at hleads
    refine ⟨_, ?_, stands_of_isMember hleads hdeclared⟩
    rw [id_of_isMemberOf hdeclared]
    exact .member hparse hmember
  · by_cases hsingle : (singleMembers.any fun name => Text.ofString name = item.key) = true
    · obtain ⟨member, hdeclared, rfl⟩ := (areMembersOf_iff_of_single hname hsingle).mp hmembers
      cases List.mem_singleton.mp hs
      refine ⟨_, ?_, stands_of_isMember h hdeclared⟩
      rw [id_of_isMemberOf hdeclared]
      exact .single hparse hmember hsingle
    · rw [areMembersOf_iff_of_other hname hsingle] at hmembers
      rw [hmembers] at hs
      cases hs

/-- A shape stands at its key, and so do its members. -/
theorem exists_stands_of_isShape {top : Shape}
    (h : g.Leads root [Text.ofString "shapes", item.key] item.keyNode item.value)
    (htop : (View.written origin g).IsShape item top) (hs : s = top ∨ s ∈ top.members) :
    ∃ path, s.id.DeclaredAt path ∧ Stands origin g root path s := by
  cases htop with
  | of_items hparse hmember hitems _ htraits hmembers =>
    rcases hs with rfl | hs
    · exact ⟨_, .shape hparse hmember, ⟨_, _, h, rfl⟩, traits_stand h hitems htraits⟩
    · obtain ⟨group, hgroup, hs⟩ := List.mem_flatten.mp hs
      obtain ⟨property, hproperty, hdeclared⟩ := exists_mem_of_forall₂_right hmembers hgroup
      exact exists_stands_of_areMembersOf hparse hmember (leads_item h hitems hproperty) hdeclared hs

/-- The shapes and members of a declared model stand at their keys. -/
theorem exists_stands_of_isModel {m : Model} (h : (View.written origin g).IsModel root m)
    (hs : s ∈ m.walk) : ∃ path, s.id.DeclaredAt path ∧ Stands origin g root path s := by
  obtain ⟨parts, hparts, hm⟩ := h
  obtain ⟨top, htop, hs⟩ := Model.mem_walk_iff.mp hs
  rcases hm.shapes with ⟨part, hpart, hname, items, hitems, hall⟩ | ⟨-, hempty⟩
  · obtain ⟨item, hitem, hshape⟩ := exists_mem_of_forall₂_right hall htop
    -- The first key is that of a part of the document, here the one of the shapes.
    have hleads : g.Leads root [part.key] part.keyNode part.value :=
      .top (hparts.2 part hpart).1 (hparts.2 part hpart).2
    rw [hname] at hleads
    exact exists_stands_of_isShape (leads_item hleads hitems hitem) hshape hs
  · rw [hempty] at htop
    cases htop

end ModelReader

namespace Model

open ModelReader Yaml

variable {file text : Text} {m : Model} {s : Shape}

/-- A model that is read is the empty one, or it is declared by what was written. Merges move entries
between mappings, and this says that they make no others. -/
theorem isModel_written_of_ofText (h : ofText file text = .ok m) :
    m = .empty ∨ ∃ d, Document.ofText text = .ok (some d) ∧
      (View.written ⟨file, text⟩ d.graph).IsModel d.root m := by
  unfold ofText at h
  split at h
  · cases h
    exact Or.inl rfl
  · rename_i d hdocument
    obtain ⟨s, hrun⟩ := ofDocument_eq_ok_iff.mp h
    -- The reader begins with the graph of the document, where nothing is merged yet.
    refine Or.inr ⟨d, hdocument, ?_⟩
    exact ((reads_document (reflects_written ⟨file, text⟩ d.graph) trivial _
      (.refl d.graph)).1 m s hrun).2
  · cases h
  · cases h

/-- Each shape and member of a model that is read stands at its key in the document. So its location is a
place that the document has, and the keys that lead there tell its id. -/
theorem stands_of_ofText (h : ofText file text = .ok m) (hs : s ∈ m.walk) :
    ∃ d path, Document.ofText text = .ok (some d) ∧ s.id.DeclaredAt path ∧
      Stands ⟨file, text⟩ d.graph d.root path s := by
  rcases isModel_written_of_ofText h with rfl | ⟨d, hdocument, hmodel⟩
  · cases hs
  · obtain ⟨path, hpath, hstands⟩ := exists_stands_of_isModel hmodel hs
    exact ⟨d, path, hdocument, hpath, hstands⟩

end Model

end TermAudit
