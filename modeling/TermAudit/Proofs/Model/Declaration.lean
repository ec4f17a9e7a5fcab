import Mathlib.Data.List.Forall2
import TermAudit.Proofs.Loading

/-!
# `TermAudit.Proofs.Model.Declaration`: what a document declares

A model document is a tree of declarations: mappings whose items declare shapes, members, traits, and
properties of these. `View` says what can be seen of the nodes of a document, and `View.IsModel` which
model is declared by what is seen. It says so for each kind of declaration apart, without an order in
which the document is read.

The order of the properties in a mapping is of no account but for the members of a shape. Still each
list of properties says what its first one says and then what the others do (`saysOfMember_cons` and its
like), as they have different names.
-/

set_option autoImplicit false

namespace TermAudit.ModelReader

open Yaml (Graph NodeId Evaluation)

/-! ## Declarations -/

/-- What can be seen of the nodes of a document. Which model is declared is said by what is seen alone, so
one account of declarations serves documents as they were written, with their merges, and in another
order. -/
structure View where
  /-- The items of a mapping. -/
  items : NodeId → List Item → Prop
  /-- The text of a string. -/
  string : NodeId → Text → Prop
  /-- The value that is made of a node. -/
  value : NodeId → Value → Prop
  location : NodeId → Location

/-- The item with the name says what a property is; without such an item it has its default. Where it is
used the names of items differ, so at most one item can say it. -/
def PropertyIn {α : Type} (name : String) (R : NodeId → α → Prop) (default : α) (items : List Item)
    (a : α) : Prop :=
  (∃ item ∈ items, item.key = Text.ofString name ∧ R item.value a) ∨
    Text.ofString name ∉ items.map Item.key ∧ a = default

namespace View

variable (V : View)

/-- The item declares the trait. Its key names it, and any value at all can stand behind. -/
structure IsTrait (item : Item) (t : Trait) : Prop where
  id : ShapeId.parse (traitKey item.key) = .ok t.id
  value : V.value item.value t.value
  location : t.location = V.location item.keyNode

/-- The mapping declares the traits, one by each item. -/
def AreTraits (id : NodeId) (ts : List Trait) : Prop :=
  ∃ items, V.items id items ∧ List.Forall₂ V.IsTrait items ts

/-- The string names the target of a member. A target that is not there is never declared by a string,
which is how a member without one is ruled out. -/
def IsTarget (id : NodeId) : Option ShapeId → Prop
  | none => False
  | some target => ∃ text, V.string id text ∧ ShapeId.parse text = .ok target

/-- The mapping `value` declares the member with the id `id`, at the node of its key. It has a target and
perhaps traits, and all its other properties are passed over. -/
inductive IsMember (id : ShapeId) (keyNode value : NodeId) : Shape → Prop
  | of_items {items : List Item} {target : ShapeId} {traits : List Trait}
    (hitems : V.items value items) (htarget : PropertyIn "target" V.IsTarget none items (some target))
    (htraits : PropertyIn "traits" V.AreTraits [] items traits) :
    IsMember id keyNode value ⟨id, .member, traits, [], V.location keyNode, some target⟩

/-- The item of a mapping declares the member of the shape that has its name. Any text is taken for the
name. -/
def IsMemberOf (shape : ShapeId) (item : Item) : Shape → Prop :=
  V.IsMember (shape.withMember item.key) item.keyNode item.value

/-- The property of the shape declares the members. A property of another kind declares none, so each
property of a shape can be asked for its members. -/
def AreMembersOf (shape : ShapeId) (item : Item) (members : List Shape) : Prop :=
  if item.key = Text.ofString "members" then
    ∃ items, V.items item.value items ∧ List.Forall₂ (V.IsMemberOf shape) items members
  else if singleMembers.any fun name => Text.ofString name = item.key then
    ∃ member, V.IsMemberOf shape item member ∧ members = [member]
  else members = []

/-- The string names the type of a shape. The type of members is a word as well, but no shape may say that
it is one. -/
def IsType (id : NodeId) : Option ShapeType → Prop
  | none => False
  | some type => ∃ word, V.string id word ∧ ShapeType.ofKeyword? word = some type ∧ type ≠ .member

/-- The item declares the shape. Its members come from several properties, in the order of these, and this
is the one place where the order of properties matters. -/
inductive IsShape (item : Item) : Shape → Prop
  | of_items {id : ShapeId} {items : List Item} {type : ShapeType} {traits : List Trait}
    {members : List (List Shape)}
    (hid : ShapeId.parse item.key = .ok id) (hmember : id.member = none)
    (hitems : V.items item.value items) (htype : PropertyIn "type" V.IsType none items (some type))
    (htraits : PropertyIn "traits" V.AreTraits [] items traits)
    (hmembers : List.Forall₂ (V.AreMembersOf id) items members) :
    IsShape item ⟨id, type, traits, members.flatten, V.location item.keyNode, none⟩

/-- The mapping declares the shapes, one by each item. -/
def AreShapes (id : NodeId) (shapes : List Shape) : Prop :=
  ∃ items, V.items id items ∧ List.Forall₂ V.IsShape items shapes

/-- What the properties of a document say of the model `m'`, where `m` is known already. The two are told
apart so that it can be said property by property. -/
structure IsModelAfter (m : Model) (items : List Item) (m' : Model) : Prop where
  keys : ∀ item ∈ items, item.key = Text.ofString "smithy" ∨ item.key = Text.ofString "metadata" ∨
    item.key = Text.ofString "shapes"
  version : ∀ item ∈ items, item.key = Text.ofString "smithy" → ∃ text, V.string item.value text
  metadata : PropertyIn "metadata" (fun id metadata => V.value id (.mapping metadata)) m.metadata items
    m'.metadata
  shapes : PropertyIn "shapes" V.AreShapes m.shapes items m'.shapes

/-- The mapping declares the model. Nothing is known before its properties, so what they do not say is
empty. -/
def IsModel (id : NodeId) (m : Model) : Prop :=
  ∃ items, V.items id items ∧ V.IsModelAfter .empty items m

end View

/-! ## Properties -/

section Properties

variable {α : Type} {name : String} {R : NodeId → α → Prop} {default a : α} {item : Item}
  {items rest : List Item}

/-- Without an item of its name a property has its default. -/
theorem propertyIn_of_notMem (h : Text.ofString name ∉ items.map Item.key) :
    PropertyIn name R default items a ↔ a = default := by
  constructor
  · rintro (⟨item, hitem, hkey, -⟩ | ⟨-, heq⟩)
    · exact absurd (List.mem_map.mpr ⟨item, hitem, hkey⟩) h
    · exact heq
  · exact fun heq => Or.inr ⟨h, heq⟩

/-- Where there are no items at all a property has its default. -/
theorem propertyIn_nil : PropertyIn name R default [] a ↔ a = default :=
  propertyIn_of_notMem List.not_mem_nil

/-- An item with the name counts, and the others do not have it. -/
theorem propertyIn_cons_of_eq (h : item.key = Text.ofString name)
    (hnew : item.key ∉ rest.map Item.key) :
    PropertyIn name R default (item :: rest) a ↔ R item.value a := by
  constructor
  · rintro (⟨other, hother, hkey, hr⟩ | ⟨hnot, -⟩)
    · rcases List.mem_cons.mp hother with rfl | hother
      · exact hr
      · exact absurd (List.mem_map.mpr ⟨other, hother, hkey.trans h.symm⟩) hnew
    · exact absurd (List.mem_map.mpr ⟨item, List.mem_cons_self, h⟩) hnot
  · exact fun hr => Or.inl ⟨item, List.mem_cons_self, h, hr⟩

/-- An item with another name is passed over. -/
theorem propertyIn_cons_of_ne (h : item.key ≠ Text.ofString name) :
    PropertyIn name R default (item :: rest) a ↔ PropertyIn name R default rest a := by
  have hiff : Text.ofString name ∈ (item :: rest).map Item.key ↔
      Text.ofString name ∈ rest.map Item.key := by
    rw [List.map_cons, List.mem_cons]
    exact or_iff_right (Ne.symm h)
  unfold PropertyIn
  rw [hiff, List.exists_mem_cons_iff]
  exact or_congr_left (or_iff_right fun hkey => h hkey.1)

/-- What the first item says is the default for the others. -/
theorem propertyIn_cons_iff (hnew : item.key ∉ rest.map Item.key) :
    PropertyIn name R default (item :: rest) a ↔
      ∃ b, PropertyIn name R default [item] b ∧ PropertyIn name R b rest a := by
  by_cases h : item.key = Text.ofString name
  · have hnil : item.key ∉ ([] : List Item).map Item.key := List.not_mem_nil
    rw [propertyIn_cons_of_eq h hnew]
    rw [h] at hnew
    simp only [propertyIn_cons_of_eq h hnil, propertyIn_of_notMem hnew]
    constructor
    · exact fun hr => ⟨a, hr, rfl⟩
    · rintro ⟨b, hr, rfl⟩
      exact hr
  · simp only [propertyIn_cons_of_ne h, propertyIn_nil, exists_eq_left]

end Properties

/-! ## Members and shapes -/

section Members

variable {V : View}

/-- What properties say of a member. What is known already takes the place of the defaults, as it does in
the loop of the reader. -/
def View.SaysOfMember (V : View) (parts : MemberParts) (items : List Item) (parts' : MemberParts) :
    Prop :=
  PropertyIn "target" V.IsTarget parts.target items parts'.target ∧
    PropertyIn "traits" V.AreTraits parts.traits items parts'.traits

/-- No properties say nothing new of a member. -/
theorem saysOfMember_nil (parts parts' : MemberParts) :
    V.SaysOfMember parts [] parts' ↔ parts' = parts := by
  unfold View.SaysOfMember
  rw [propertyIn_nil, propertyIn_nil]
  cases parts
  cases parts'
  simp

/-- What the properties of a member say is said by the first one and then by the others. This is how the
loop goes through them, so induction on the items leads from the loop to `SaysOfMember`. -/
theorem saysOfMember_cons (parts parts' : MemberParts) (item : Item) (rest : List Item)
    (hnew : item.key ∉ rest.map Item.key) :
    V.SaysOfMember parts (item :: rest) parts' ↔
      ∃ parts₁, V.SaysOfMember parts [item] parts₁ ∧ V.SaysOfMember parts₁ rest parts' := by
  unfold View.SaysOfMember
  rw [propertyIn_cons_iff hnew, propertyIn_cons_iff hnew]
  constructor
  · rintro ⟨⟨target, htarget, htarget'⟩, traits, htraits, htraits'⟩
    exact ⟨⟨target, traits⟩, ⟨htarget, htraits⟩, htarget', htraits'⟩
  · rintro ⟨⟨target, traits⟩, ⟨htarget, htraits⟩, htarget', htraits'⟩
    exact ⟨⟨target, htarget, htarget'⟩, traits, htraits, htraits'⟩

/-- The target, and nothing else, is said by a property `target`. -/
theorem saysOfMember_target {parts parts' : MemberParts} {item : Item}
    (h : item.key = Text.ofString "target") :
    V.SaysOfMember parts [item] parts' ↔
      ∃ target, V.IsTarget item.value (some target) ∧ parts' = ⟨some target, parts.traits⟩ := by
  have htraits : item.key ≠ Text.ofString "traits" := by
    rw [h]
    decide
  unfold View.SaysOfMember
  rw [propertyIn_cons_of_eq h List.not_mem_nil, propertyIn_cons_of_ne htraits, propertyIn_nil]
  constructor
  · obtain ⟨target, traits⟩ := parts'
    rintro ⟨hread, rfl⟩
    cases target with
    | none => exact hread.elim
    | some target => exact ⟨target, hread, rfl⟩
  · rintro ⟨target, hread, rfl⟩
    exact ⟨hread, rfl⟩

/-- The traits, and nothing else, are said by a property `traits`. -/
theorem saysOfMember_traits {parts parts' : MemberParts} {item : Item}
    (h : item.key = Text.ofString "traits") :
    V.SaysOfMember parts [item] parts' ↔
      ∃ traits, V.AreTraits item.value traits ∧ parts' = ⟨parts.target, traits⟩ := by
  have htarget : item.key ≠ Text.ofString "target" := by
    rw [h]
    decide
  unfold View.SaysOfMember
  rw [propertyIn_cons_of_ne htarget, propertyIn_nil, propertyIn_cons_of_eq h List.not_mem_nil]
  constructor
  · obtain ⟨target, traits⟩ := parts'
    rintro ⟨rfl, hread⟩
    exact ⟨traits, hread, rfl⟩
  · rintro ⟨traits, hread, rfl⟩
    exact ⟨rfl, hread⟩

/-- A property of a member with any other name says nothing. -/
theorem saysOfMember_other {parts parts' : MemberParts} {item : Item}
    (htarget : item.key ≠ Text.ofString "target") (htraits : item.key ≠ Text.ofString "traits") :
    V.SaysOfMember parts [item] parts' ↔ parts' = parts := by
  unfold View.SaysOfMember
  rw [propertyIn_cons_of_ne htarget, propertyIn_cons_of_ne htraits]
  exact saysOfMember_nil parts parts'

/-- What properties say of a shape. Type and traits are each said once, while members of several
properties are collected behind those that are known. -/
def View.SaysOfShape (V : View) (id : ShapeId) (parts : ShapeParts) (items : List Item)
    (parts' : ShapeParts) : Prop :=
  PropertyIn "type" V.IsType parts.type items parts'.type ∧
    PropertyIn "traits" V.AreTraits parts.traits items parts'.traits ∧
    ∃ members, List.Forall₂ (V.AreMembersOf id) items members ∧
      parts'.members = parts.members ++ members.flatten

/-- No properties say nothing new of a shape. -/
theorem saysOfShape_nil (id : ShapeId) (parts parts' : ShapeParts) :
    V.SaysOfShape id parts [] parts' ↔ parts' = parts := by
  unfold View.SaysOfShape
  simp only [propertyIn_nil, List.forall₂_nil_left_iff, exists_eq_left, List.flatten_nil,
    List.append_nil]
  cases parts
  cases parts'
  simp

/-- What the properties of a shape say is said by the first one and then by the others. The members come in
the order of the properties that declare them. -/
theorem saysOfShape_cons (id : ShapeId) (parts parts' : ShapeParts) (item : Item) (rest : List Item)
    (hnew : item.key ∉ rest.map Item.key) :
    V.SaysOfShape id parts (item :: rest) parts' ↔
      ∃ parts₁, V.SaysOfShape id parts [item] parts₁ ∧ V.SaysOfShape id parts₁ rest parts' := by
  unfold View.SaysOfShape
  rw [propertyIn_cons_iff hnew, propertyIn_cons_iff hnew]
  constructor
  · rintro ⟨⟨type, htype, htype'⟩, ⟨traits, htraits, htraits'⟩, members, hmembers, heq⟩
    rcases hmembers with _ | ⟨hfirst, hrest⟩
    rename_i first others
    refine ⟨⟨type, traits, parts.members ++ first⟩,
      ⟨htype, htraits, [first], .cons hfirst .nil, by simp⟩, htype', htraits', others, hrest, ?_⟩
    rw [heq, List.flatten_cons, List.append_assoc]
  · rintro ⟨⟨type, traits, members₁⟩, ⟨htype, htraits, first, hfirst, heq⟩, htype', htraits', others,
      hothers, heq'⟩
    refine ⟨⟨type, htype, htype'⟩, ⟨traits, htraits, htraits'⟩, first ++ others, ?_, ?_⟩
    · exact List.rel_append hfirst hothers
    · dsimp only at heq heq'
      rw [heq', heq, List.flatten_append, List.append_assoc]

/-- The property `members` declares one member by each of its items. -/
theorem areMembersOf_iff_of_members {shape : ShapeId} {item : Item} {members : List Shape}
    (h : item.key = Text.ofString "members") :
    V.AreMembersOf shape item members ↔
      ∃ items, V.items item.value items ∧ List.Forall₂ (V.IsMemberOf shape) items members := by
  unfold View.AreMembersOf
  rw [if_pos h]

/-- A property with the name of a member, such as `key` or `value`, declares this one member. -/
theorem areMembersOf_iff_of_single {shape : ShapeId} {item : Item} {members : List Shape}
    (h : item.key ≠ Text.ofString "members")
    (hsingle : (singleMembers.any fun name => Text.ofString name = item.key) = true) :
    V.AreMembersOf shape item members ↔ ∃ member, V.IsMemberOf shape item member ∧ members = [member] := by
  unfold View.AreMembersOf
  rw [if_neg h, if_pos hsingle]

/-- An item whose name is none of those that declare members declares none. -/
theorem areMembersOf_iff_of_other {shape : ShapeId} {item : Item} {members : List Shape}
    (h : item.key ≠ Text.ofString "members")
    (hsingle : ¬ (singleMembers.any fun name => Text.ofString name = item.key) = true) :
    V.AreMembersOf shape item members ↔ members = [] := by
  unfold View.AreMembersOf
  rw [if_neg h, if_neg hsingle]

/-- Types and traits declare no members. -/
theorem saysOfShape_iff {id : ShapeId} {parts parts' : ShapeParts} {item : Item} :
    V.SaysOfShape id parts [item] parts' ↔ PropertyIn "type" V.IsType parts.type [item] parts'.type ∧
      PropertyIn "traits" V.AreTraits parts.traits [item] parts'.traits ∧
      ∃ declared, V.AreMembersOf id item declared ∧ parts'.members = parts.members ++ declared := by
  refine and_congr_right fun _ => and_congr_right fun _ => ?_
  constructor
  · rintro ⟨_, hgroups, heq⟩
    rcases hgroups with _ | ⟨hfirst, ⟨⟩⟩
    rw [List.flatten_singleton] at heq
    exact ⟨_, hfirst, heq⟩
  · rintro ⟨declared, hdeclared, heq⟩
    refine ⟨[declared], .cons hdeclared .nil, ?_⟩
    rw [List.flatten_singleton]
    exact heq

/-- The type, and nothing else, is said by a property `type`. -/
theorem saysOfShape_type {id : ShapeId} {parts parts' : ShapeParts} {item : Item}
    (h : item.key = Text.ofString "type") :
    V.SaysOfShape id parts [item] parts' ↔
      ∃ type, V.IsType item.value (some type) ∧ parts' = ⟨some type, parts.traits, parts.members⟩ := by
  have htraits : item.key ≠ Text.ofString "traits" := by
    rw [h]
    decide
  have hmembers (members : List Shape) : V.AreMembersOf id item members ↔ members = [] :=
    areMembersOf_iff_of_other (by rw [h]; decide) (by rw [h]; decide)
  rw [saysOfShape_iff, propertyIn_cons_of_eq h List.not_mem_nil, propertyIn_cons_of_ne htraits,
    propertyIn_nil]
  simp only [hmembers, exists_eq_left, List.append_nil]
  constructor
  · obtain ⟨type, traits, members⟩ := parts'
    rintro ⟨hread, rfl, rfl⟩
    cases type with
    | none => exact hread.elim
    | some type => exact ⟨type, hread, rfl⟩
  · rintro ⟨type, hread, rfl⟩
    exact ⟨hread, rfl, rfl⟩

/-- The traits, and nothing else, are said by a property `traits`. -/
theorem saysOfShape_traits {id : ShapeId} {parts parts' : ShapeParts} {item : Item}
    (h : item.key = Text.ofString "traits") :
    V.SaysOfShape id parts [item] parts' ↔
      ∃ traits, V.AreTraits item.value traits ∧ parts' = ⟨parts.type, traits, parts.members⟩ := by
  have htype : item.key ≠ Text.ofString "type" := by
    rw [h]
    decide
  have hmembers (members : List Shape) : V.AreMembersOf id item members ↔ members = [] :=
    areMembersOf_iff_of_other (by rw [h]; decide) (by rw [h]; decide)
  rw [saysOfShape_iff, propertyIn_cons_of_ne htype, propertyIn_nil,
    propertyIn_cons_of_eq h List.not_mem_nil]
  simp only [hmembers, exists_eq_left, List.append_nil]
  constructor
  · obtain ⟨type, traits, members⟩ := parts'
    rintro ⟨rfl, hread, rfl⟩
    exact ⟨traits, hread, rfl⟩
  · rintro ⟨traits, hread, rfl⟩
    exact ⟨rfl, hread, rfl⟩

/-- A property of a shape with any other name says something of its members alone. -/
theorem saysOfShape_other {id : ShapeId} {parts parts' : ShapeParts} {item : Item}
    (htype : item.key ≠ Text.ofString "type") (htraits : item.key ≠ Text.ofString "traits") :
    V.SaysOfShape id parts [item] parts' ↔ ∃ declared, V.AreMembersOf id item declared ∧
      parts' = ⟨parts.type, parts.traits, parts.members ++ declared⟩ := by
  rw [saysOfShape_iff, propertyIn_cons_of_ne htype, propertyIn_nil, propertyIn_cons_of_ne htraits,
    propertyIn_nil]
  constructor
  · obtain ⟨type, traits, members⟩ := parts'
    rintro ⟨rfl, rfl, declared, hdeclared, rfl⟩
    exact ⟨declared, hdeclared, rfl⟩
  · rintro ⟨declared, hdeclared, rfl⟩
    exact ⟨rfl, rfl, declared, hdeclared, rfl⟩

end Members

/-! ## Documents -/

/-- The model that the property declares, where `m` is known already. -/
theorem isModelAfter_nil {V : View} (m m' : Model) : V.IsModelAfter m [] m' ↔ m' = m := by
  constructor
  · rintro ⟨-, -, hmetadata, hshapes⟩
    rw [propertyIn_nil] at hmetadata hshapes
    cases m
    cases m'
    cases hmetadata
    cases hshapes
    rfl
  · rintro rfl
    exact ⟨fun _ h => absurd h List.not_mem_nil, fun _ h => absurd h List.not_mem_nil,
      propertyIn_nil.mpr rfl, propertyIn_nil.mpr rfl⟩

/-- What the properties of a document say of a model is said by the first one and then by the others. -/
theorem isModelAfter_cons {V : View} (m m' : Model) (item : Item) (rest : List Item)
    (hnew : item.key ∉ rest.map Item.key) :
    V.IsModelAfter m (item :: rest) m' ↔
      ∃ m₁, V.IsModelAfter m [item] m₁ ∧ V.IsModelAfter m₁ rest m' := by
  constructor
  · rintro ⟨hkeys, hversion, hmetadata, hshapes⟩
    obtain ⟨metadata, hmetadata, hmetadata'⟩ := (propertyIn_cons_iff hnew).mp hmetadata
    obtain ⟨shapes, hshapes, hshapes'⟩ := (propertyIn_cons_iff hnew).mp hshapes
    rw [List.forall_mem_cons] at hkeys hversion
    exact ⟨⟨shapes, metadata⟩,
      ⟨List.forall_mem_singleton.mpr hkeys.1, List.forall_mem_singleton.mpr hversion.1, hmetadata,
        hshapes⟩,
      hkeys.2, hversion.2, hmetadata', hshapes'⟩
  · rintro ⟨m₁, ⟨hkeys, hversion, hmetadata, hshapes⟩, hkeys', hversion', hmetadata', hshapes'⟩
    rw [List.forall_mem_singleton] at hkeys hversion
    exact ⟨List.forall_mem_cons.mpr ⟨hkeys, hkeys'⟩, List.forall_mem_cons.mpr ⟨hversion, hversion'⟩,
      (propertyIn_cons_iff hnew).mpr ⟨_, hmetadata, hmetadata'⟩,
      (propertyIn_cons_iff hnew).mpr ⟨_, hshapes, hshapes'⟩⟩

/-- The version says nothing of the model. -/
theorem isModelAfter_version {V : View} {m m' : Model} {item : Item}
    (h : item.key = Text.ofString "smithy") :
    V.IsModelAfter m [item] m' ↔ ∃ text, V.string item.value text ∧ m' = m := by
  have hmetadata : item.key ≠ Text.ofString "metadata" := by
    rw [h]
    decide
  have hshapes : item.key ≠ Text.ofString "shapes" := by
    rw [h]
    decide
  constructor
  · rintro ⟨-, hversion, hm, hs⟩
    rw [propertyIn_cons_of_ne hmetadata] at hm
    rw [propertyIn_cons_of_ne hshapes] at hs
    obtain ⟨text, htext⟩ := hversion item List.mem_cons_self h
    refine ⟨text, htext, (isModelAfter_nil m m').mp ⟨?_, ?_, hm, hs⟩⟩
    · exact fun _ hitem => absurd hitem List.not_mem_nil
    · exact fun _ hitem => absurd hitem List.not_mem_nil
  · rintro ⟨text, htext, rfl⟩
    exact ⟨List.forall_mem_singleton.mpr (Or.inl h),
      List.forall_mem_singleton.mpr fun _ => ⟨text, htext⟩,
      (propertyIn_cons_of_ne hmetadata).mpr (propertyIn_nil.mpr rfl),
      (propertyIn_cons_of_ne hshapes).mpr (propertyIn_nil.mpr rfl)⟩

/-- The metadata, and nothing else, is said by a property `metadata`. -/
theorem isModelAfter_metadata {V : View} {m m' : Model} {item : Item}
    (h : item.key = Text.ofString "metadata") :
    V.IsModelAfter m [item] m' ↔
      ∃ metadata, V.value item.value (.mapping metadata) ∧ m' = ⟨m.shapes, metadata⟩ := by
  have hversion : item.key ≠ Text.ofString "smithy" := by
    rw [h]
    decide
  have hshapes : item.key ≠ Text.ofString "shapes" := by
    rw [h]
    decide
  constructor
  · obtain ⟨shapes, metadata⟩ := m'
    rintro ⟨-, -, hm, hs⟩
    rw [propertyIn_cons_of_eq h List.not_mem_nil] at hm
    rw [propertyIn_cons_of_ne hshapes, propertyIn_nil] at hs
    exact ⟨metadata, hm, congrArg (Model.mk · metadata) hs⟩
  · rintro ⟨metadata, hread, rfl⟩
    exact ⟨List.forall_mem_singleton.mpr (Or.inr (Or.inl h)),
      List.forall_mem_singleton.mpr fun heq => absurd heq hversion,
      (propertyIn_cons_of_eq h List.not_mem_nil).mpr hread,
      (propertyIn_cons_of_ne hshapes).mpr (propertyIn_nil.mpr rfl)⟩

/-- The shapes, and nothing else, are said by a property `shapes`. -/
theorem isModelAfter_shapes {V : View} {m m' : Model} {item : Item}
    (h : item.key = Text.ofString "shapes") :
    V.IsModelAfter m [item] m' ↔ ∃ shapes, V.AreShapes item.value shapes ∧ m' = ⟨shapes, m.metadata⟩ := by
  have hversion : item.key ≠ Text.ofString "smithy" := by
    rw [h]
    decide
  have hmetadata : item.key ≠ Text.ofString "metadata" := by
    rw [h]
    decide
  constructor
  · obtain ⟨shapes, metadata⟩ := m'
    rintro ⟨-, -, hm, hs⟩
    rw [propertyIn_cons_of_ne hmetadata, propertyIn_nil] at hm
    rw [propertyIn_cons_of_eq h List.not_mem_nil] at hs
    exact ⟨shapes, hs, congrArg (Model.mk shapes) hm⟩
  · rintro ⟨shapes, hread, rfl⟩
    exact ⟨List.forall_mem_singleton.mpr (Or.inr (Or.inr h)),
      List.forall_mem_singleton.mpr fun heq => absurd heq hversion,
      (propertyIn_cons_of_ne hmetadata).mpr (propertyIn_nil.mpr rfl),
      (propertyIn_cons_of_eq h List.not_mem_nil).mpr hread⟩

end TermAudit.ModelReader
