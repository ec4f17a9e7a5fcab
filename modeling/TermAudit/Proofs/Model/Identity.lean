import Mathlib.Data.List.Count
import Mathlib.Data.List.Nodup
import TermAudit.Proofs.Model.Interpretation
import TermAudit.Proofs.Model.ShapeId
import TermAudit.Proofs.Validation

/-!
# `TermAudit.Proofs.Model.Identity`: the ids in a model

An id is meant to tell one shape, and one trait of a shape, from all others, and to be found again in
its written form. The keys of a mapping are different texts. But a shape has its members from several
properties, the name of a trait can be written in two ways, and any text is taken for the name of a
member. These are the only gaps:

* `Model.walk_ids_nodup_iff`: ids of shapes are different but for members that a property of their own
  declares and the property `members` as well;
* `Model.trait_ids_nodup_iff`: so are the ids of the traits of a shape, but for names of the prelude
  written with and without its namespace;
* `Model.ids_read_back_iff`: and they are read back from their written forms but for members whose name
  is empty.
-/

set_option autoImplicit false

namespace TermAudit

/-- In two lists that are related item by item, each item of the second has a partner in the first. -/
theorem exists_mem_of_forall₂_right {α β : Type} {R : α → β → Prop} {as : List α} {bs : List β}
    (h : List.Forall₂ R as bs) {b : β} (hb : b ∈ bs) : ∃ a ∈ as, R a b := by
  induction h with
  | nil => cases hb
  | cons hab _ ih =>
    rcases List.mem_cons.mp hb with rfl | hb
    · exact ⟨_, List.mem_cons_self, hab⟩
    · obtain ⟨a, ha, hr⟩ := ih hb
      exact ⟨a, List.mem_cons_of_mem _ ha, hr⟩

/-- Elements that come from different keys are different, if what they have in common shows in the
keys. -/
theorem nodup_map_of_forall₂ {α β κ ι : Type} {R : α → β → Prop} {key : α → κ} {id : β → ι}
    {as : List α} {bs : List β} (h : List.Forall₂ R as bs) (hnodup : (as.map key).Nodup)
    (hkey : ∀ a a' b b', R a b → R a' b' → id b = id b' → key a = key a') : (bs.map id).Nodup := by
  induction h with
  | nil => exact List.nodup_nil
  | @cons a b as bs hab hrest ih =>
    rw [List.map_cons, List.nodup_cons] at hnodup ⊢
    refine ⟨fun hmem => hnodup.1 ?_, ih hnodup.2⟩
    obtain ⟨b', hb', heq⟩ := List.mem_map.mp hmem
    obtain ⟨a', ha', hab'⟩ := exists_mem_of_forall₂_right hrest hb'
    exact List.mem_map.mpr ⟨a', ha', hkey _ _ _ _ hab' hab heq⟩

/-- Of elements with different ids each one is the first with its id. -/
theorem find?_eq_some_of_nodup {α ι : Type} [BEq ι] [LawfulBEq ι] {id : α → ι} {l : List α} {a : α}
    (h : (l.map id).Nodup) (ha : a ∈ l) : l.find? (fun b => id b == id a) = some a := by
  obtain ⟨before, after, rfl⟩ := List.append_of_mem ha
  rw [List.map_append, List.map_cons, List.nodup_append] at h
  have hbefore : before.find? (fun b => id b == id a) = none := by
    refine List.find?_eq_none.mpr fun b hb heq => ?_
    exact h.2.2 _ (List.mem_map_of_mem hb) _ List.mem_cons_self (beq_iff_eq.mp heq)
  rw [List.find?_append, hbefore, Option.none_or]
  exact List.find?_cons_of_pos (beq_self_eq_true (id a))

/-- All ids in a model: of shapes and members, of the targets of members, and of traits. All of them are
read from texts of the document, or made of such an id and the name of a member. -/
def Model.ids (m : Model) : List ShapeId :=
  m.walk.flatMap fun s => s.id :: (s.target.toList ++ s.traits.map Trait.id)

/-- The walk has the shapes and their members. -/
theorem Model.mem_walk_iff {m : Model} {s : Shape} :
    s ∈ m.walk ↔ ∃ top ∈ m.shapes, s = top ∨ s ∈ top.members := by
  unfold walk
  simp only [List.mem_flatMap, List.mem_cons]

namespace ModelReader

open Yaml (Graph NodeId Document)

variable {V : View} {shape : ShapeId} {item : Item} {s : Shape}

/-! ## Members of a shape -/

/-- The id of a member is that of its shape with the key of the item. -/
theorem id_of_isMemberOf (h : V.IsMemberOf shape item s) : s.id = shape.withMember item.key := by
  cases h
  rfl

/-- So a member has the key as its name. -/
theorem name_of_isMemberOf (h : V.IsMemberOf shape item s) : s.name = item.key := by
  unfold Shape.name
  rw [id_of_isMemberOf h]
  rfl

/-- The members in a mapping are called like its keys. -/
theorem names_of_isMemberOf {items : List Item} {members : List Shape}
    (h : List.Forall₂ (V.IsMemberOf shape) items members) :
    members.map Shape.name = items.map Item.key := by
  induction h with
  | nil => rfl
  | cons hs _ ih => rw [List.map_cons, List.map_cons, name_of_isMemberOf hs, ih]

/-- Whichever property declares members, each of them is declared by an item. -/
theorem isMemberOf_of_areMembersOf {members : List Shape} (h : V.AreMembersOf shape item members)
    (hs : s ∈ members) : ∃ item, V.IsMemberOf shape item s := by
  by_cases hmembers : item.key = Text.ofString "members"
  · obtain ⟨items, -, hall⟩ := (areMembersOf_iff_of_members hmembers).mp h
    obtain ⟨item, -, hitem⟩ := exists_mem_of_forall₂_right hall hs
    exact ⟨item, hitem⟩
  · by_cases hsingle : (singleMembers.any fun name => Text.ofString name = item.key) = true
    · obtain ⟨member, hmember, rfl⟩ := (areMembersOf_iff_of_single hmembers hsingle).mp h
      exact ⟨item, List.mem_singleton.mp hs ▸ hmember⟩
    · rw [areMembersOf_iff_of_other hmembers hsingle] at h
      rw [h] at hs
      cases hs

/-- The members of a declared shape are declared as members of it. -/
theorem isMemberOf_of_mem_members {top : Shape} (h : V.IsShape item top) (hs : s ∈ top.members) :
    ∃ item, V.IsMemberOf top.id item s := by
  cases h with
  | of_items _ _ _ _ _ hmembers =>
    obtain ⟨group, hgroup, hs⟩ := List.mem_flatten.mp hs
    obtain ⟨property, -, hproperty⟩ := exists_mem_of_forall₂_right hmembers hgroup
    exact isMemberOf_of_areMembersOf hproperty hs

/-- Only the property `members` declares members whose names are not its own. -/
theorem name_notMem_of_areMembersOf {name : Text} {members : List Shape}
    (h : V.AreMembersOf shape item members) (hmembers : item.key ≠ Text.ofString "members")
    (hname : ∀ single ∈ singleMembers, Text.ofString single ≠ name) :
    name ∉ members.map Shape.name := by
  by_cases hsingle : (singleMembers.any fun name => Text.ofString name = item.key) = true
  · obtain ⟨member, hmember, rfl⟩ := (areMembersOf_iff_of_single hmembers hsingle).mp h
    obtain ⟨single, hmem, heq⟩ := List.any_eq_true.mp hsingle
    rw [List.map_singleton, List.mem_singleton, name_of_isMemberOf hmember]
    exact fun h => hname single hmem ((of_decide_eq_true heq).trans h.symm)
  · rw [areMembersOf_iff_of_other hmembers hsingle] at h
    rw [h]
    exact List.not_mem_nil

/-- A name that no property has by itself is given to one member at most. -/
theorem count_name_le_one {items : List Item} {groups : List (List Shape)} {name : Text}
    (hitems : ∀ id items, V.items id items → (items.map Item.key).Nodup)
    (h : List.Forall₂ (V.AreMembersOf shape) items groups) (hnodup : (items.map Item.key).Nodup)
    (hname : ∀ single ∈ singleMembers, Text.ofString single ≠ name) :
    (groups.flatten.map Shape.name).count name ≤ 1 := by
  induction h with
  | nil => exact Nat.zero_le _
  | @cons item group items groups hgroup hrest ih =>
    rw [List.map_cons, List.nodup_cons] at hnodup
    rw [List.flatten_cons, List.map_append, List.count_append]
    by_cases hmembers : item.key = Text.ofString "members"
    · -- The other properties have other names, so none of them is `members`.
      have hnone : name ∉ groups.flatten.map Shape.name := by
        rintro hmem
        obtain ⟨s, hs, rfl⟩ := List.mem_map.mp hmem
        obtain ⟨group, hgroup, hs⟩ := List.mem_flatten.mp hs
        obtain ⟨other, hother, hdeclared⟩ := exists_mem_of_forall₂_right hrest hgroup
        have hkey : other.key ≠ Text.ofString "members" := fun heq =>
          hnodup.1 (List.mem_map.mpr ⟨other, hother, heq.trans hmembers.symm⟩)
        exact name_notMem_of_areMembersOf hdeclared hkey hname (List.mem_map_of_mem hs)
      obtain ⟨declared, hdeclared, hall⟩ := (areMembersOf_iff_of_members hmembers).mp hgroup
      rw [List.count_eq_zero_of_not_mem hnone, names_of_isMemberOf hall]
      exact List.nodup_iff_count_le_one.mp (hitems _ _ hdeclared) name
    · rw [List.count_eq_zero_of_not_mem (name_notMem_of_areMembersOf hgroup hmembers hname),
        Nat.zero_add]
      exact ih hnodup.2

/-- The names of the members of a declared shape are different if those are that properties have by
themselves. -/
theorem names_nodup_iff {top : Shape}
    (hitems : ∀ id items, V.items id items → (items.map Item.key).Nodup) (h : V.IsShape item top) :
    (top.members.map Shape.name).Nodup ↔
      ∀ single ∈ singleMembers, (top.members.map Shape.name).count (Text.ofString single) ≤ 1 := by
  rw [List.nodup_iff_count_le_one]
  constructor
  · exact fun hcount single _ => hcount _
  · intro hcount name
    by_cases hname : ∃ single ∈ singleMembers, Text.ofString single = name
    · obtain ⟨single, hmem, rfl⟩ := hname
      exact hcount single hmem
    · cases h with
      | of_items _ _ hdeclared _ _ hmembers =>
        refine count_name_le_one hitems hmembers (hitems _ _ hdeclared) fun single hmem heq => ?_
        exact hname ⟨single, hmem, heq⟩

/-! ## Traits -/

/-- Without a property `traits` there are none, and with it they are those of its mapping. -/
theorem areTraits_of_propertyIn {items : List Item} {ts : List Trait}
    (h : PropertyIn "traits" V.AreTraits [] items ts) : ts = [] ∨ ∃ id, V.AreTraits id ts := by
  rcases h with ⟨item, -, -, htraits⟩ | ⟨-, hempty⟩
  · exact Or.inr ⟨item.value, htraits⟩
  · exact Or.inl hempty

/-- A name with `#` has its namespace already, and is taken as it is. -/
theorem traitKey_of_hash_mem {key : Text} (h : CodePoint.ofChar '#' ∈ key) : traitKey key = key :=
  if_pos h

/-- The name of a trait is absolute in the end. -/
theorem hash_mem_traitKey (key : Text) : CodePoint.ofChar '#' ∈ traitKey key := by
  by_cases h : CodePoint.ofChar '#' ∈ key
  · rw [traitKey_of_hash_mem h]
    exact h
  · unfold traitKey
    rw [if_neg h]
    exact List.mem_append_left _ (by decide)

/-- If two names mean one trait, they are the same, or one is the other with the namespace of the prelude
in front. -/
theorem eq_or_of_traitKey_eq {key key' : Text} (heq : traitKey key = traitKey key') :
    key = key' ∨ (CodePoint.ofChar '#' ∉ key ∧ traitKey key = key') ∨
      (CodePoint.ofChar '#' ∉ key' ∧ traitKey key' = key) := by
  by_cases h : CodePoint.ofChar '#' ∈ key
  · rw [traitKey_of_hash_mem h] at heq
    by_cases h' : CodePoint.ofChar '#' ∈ key'
    · rw [traitKey_of_hash_mem h'] at heq
      exact Or.inl heq
    · exact Or.inr (Or.inr ⟨h', heq.symm⟩)
  · by_cases h' : CodePoint.ofChar '#' ∈ key'
    · rw [traitKey_of_hash_mem h'] at heq
      exact Or.inr (Or.inl ⟨h, heq⟩)
    · unfold traitKey at heq
      rw [if_neg h, if_neg h'] at heq
      exact Or.inl (List.append_cancel_left heq)

/-- The names of traits mean different traits if none of them stands without and with the namespace of
the prelude. -/
theorem traitKeys_nodup_iff {keys : List Text} (h : keys.Nodup) :
    (keys.map traitKey).Nodup ↔ ∀ key ∈ keys, CodePoint.ofChar '#' ∉ key → traitKey key ∉ keys := by
  constructor
  · intro hnodup key hkey hbare hmem
    have hsame := traitKey_of_hash_mem (hash_mem_traitKey key)
    have heq := List.inj_on_of_nodup_map hnodup hmem hkey hsame
    exact hbare (heq ▸ hash_mem_traitKey key)
  · intro hnone
    refine h.map_on fun key hkey key' hkey' heq => ?_
    rcases eq_or_of_traitKey_eq heq with heq | ⟨hbare, rfl⟩ | ⟨hbare, rfl⟩
    · exact heq
    · exact absurd hkey' (hnone key hkey hbare)
    · exact absurd hkey (hnone key' hkey' hbare)

/-- The trait is declared at a key of the document, which names it. With the key the trait is known up to
its value, and the keys of one mapping are different. -/
structure IsDeclaredBy (origin : Origin) (d : Document) (key : Text) (t : Trait) : Prop where
  location : ∃ node, (d.graph.node node).content = .scalar key ∧ t.location = placeOf origin d.graph node
  id : ShapeId.parse (traitKey key) = .ok t.id

/-- Traits have different ids exactly if their keys mean different ones. An id and the key that it is parsed
from determine each other, once the namespace of the prelude stands where it is left out. -/
theorem trait_ids_nodup_iff_of_declared {origin : Origin} {d : Document} {keys : List Text}
    {ts : List Trait} (h : List.Forall₂ (IsDeclaredBy origin d) keys ts) :
    (ts.map Trait.id).Nodup ↔ (keys.map traitKey).Nodup := by
  constructor
  · intro hnodup
    refine nodup_map_of_forall₂ h.flip hnodup fun t t' key key' ht ht' heq => ?_
    have hid := ht.id
    rw [heq, ht'.id] at hid
    exact (Except.ok.inj hid).symm
  · intro hnodup
    refine nodup_map_of_forall₂ h hnodup fun key key' t t' ht ht' heq => ?_
    have hid := ht.id
    rw [heq] at hid
    exact ShapeId.parse_inj hid ht'.id

/-! ## Shapes of a model -/

/-- The id of a shape is parsed from its key, and names no member. -/
theorem id_of_isShape (h : V.IsShape item s) : ShapeId.parse item.key = .ok s.id ∧ s.id.member = none := by
  cases h with
  | of_items hid hmember => exact ⟨hid, hmember⟩

/-- The shapes of a declared model are declared by items with different keys. -/
theorem exists_items_of_isModel {root : NodeId} {m : Model}
    (hitems : ∀ id items, V.items id items → (items.map Item.key).Nodup) (h : V.IsModel root m) :
    ∃ items, (items.map Item.key).Nodup ∧ List.Forall₂ V.IsShape items m.shapes := by
  obtain ⟨_, -, hm⟩ := h
  rcases hm.shapes with ⟨_, -, -, items, hdeclared, hshapes⟩ | ⟨-, hempty⟩
  · exact ⟨items, hitems _ _ hdeclared, hshapes⟩
  · refine ⟨[], List.nodup_nil, ?_⟩
    rw [hempty]
    exact .nil

/-- What a member refers to was read from its written form. -/
theorem target_of_isMember {id target : ShapeId} {keyNode value : NodeId}
    (h : V.IsMember id keyNode value s) (htarget : s.target = some target) : target.IsProper := by
  cases h with
  | of_items _ hread _ =>
    cases htarget
    rcases hread with ⟨_, -, -, text, -, hparse⟩ | ⟨-, heq⟩
    · exact (ShapeId.proper_of_parse hparse).1
    · cases heq

/-- The id of a trait was parsed from a key, so it is proper. -/
theorem traits_areProper {ts : List Trait} {t : Trait} (h : ts = [] ∨ ∃ id, V.AreTraits id ts)
    (ht : t ∈ ts) : t.id.IsProper := by
  rcases h with rfl | ⟨id, items, -, htraits⟩
  · cases ht
  · obtain ⟨item, -, hitem⟩ := exists_mem_of_forall₂_right htraits ht
    exact (ShapeId.proper_of_parse hitem.id).1

/-- A shape of a declared model, or a member, is declared as such. -/
theorem cases_of_mem_walk {root : NodeId} {m : Model}
    (hitems : ∀ id items, V.items id items → (items.map Item.key).Nodup) (h : V.IsModel root m)
    (hs : s ∈ m.walk) : (∃ item, V.IsShape item s) ∨
      ∃ top, (∃ item, V.IsShape item top) ∧ ∃ item, V.IsMemberOf top.id item s := by
  obtain ⟨items, -, hshapes⟩ := exists_items_of_isModel hitems h
  obtain ⟨top, htop, hs⟩ := Model.mem_walk_iff.mp hs
  obtain ⟨item, -, hshape⟩ := exists_mem_of_forall₂_right hshapes htop
  rcases hs with rfl | hs
  · exact Or.inl ⟨item, hshape⟩
  · exact Or.inr ⟨top, ⟨item, hshape⟩, isMemberOf_of_mem_members hshape hs⟩

/-- The traits of a shape or a member come from one mapping, if there are any. Their keys are thus different
texts. -/
theorem traits_of_mem_walk {root : NodeId} {m : Model}
    (hitems : ∀ id items, V.items id items → (items.map Item.key).Nodup) (h : V.IsModel root m)
    (hs : s ∈ m.walk) : s.traits = [] ∨ ∃ id, V.AreTraits id s.traits := by
  rcases cases_of_mem_walk hitems h hs with ⟨item, hshape⟩ | ⟨top, -, item, hmember⟩
  · cases hshape with
    | of_items _ _ _ _ htraits => exact areTraits_of_propertyIn htraits
  · cases hmember with
    | of_items _ _ htraits => exact areTraits_of_propertyIn htraits

/-- Every id of a declared model is proper, unless it names a member by nothing. -/
theorem isProper_of_mem_ids {root : NodeId} {m : Model}
    (hitems : ∀ id items, V.items id items → (items.map Item.key).Nodup) (h : V.IsModel root m)
    (hnames : ∀ s ∈ m.walk, s.id.member ≠ some []) {id : ShapeId} (hid : id ∈ m.ids) : id.IsProper := by
  obtain ⟨s, hs, hid⟩ := List.mem_flatMap.mp hid
  -- An id is that of the shape, its target, or one of its traits.
  rcases List.mem_cons.mp hid with rfl | hid
  · rcases cases_of_mem_walk hitems h hs with ⟨item, hshape⟩ | ⟨top, ⟨item, hshape⟩, other, hmember⟩
    · exact (ShapeId.proper_of_parse (id_of_isShape hshape).1).1
    · have htop := (ShapeId.proper_of_parse (id_of_isShape hshape).1).1
      have hname := hnames s hs
      rw [id_of_isMemberOf hmember] at hname ⊢
      exact (ShapeId.withMember_isProper_iff htop).mpr fun heq => hname (congrArg some heq)
  rcases List.mem_append.mp hid with htarget | htrait
  · rw [Option.mem_toList] at htarget
    rcases cases_of_mem_walk hitems h hs with ⟨item, hshape⟩ | ⟨top, -, item, hmember⟩
    · cases hshape
      cases htarget
    · exact target_of_isMember hmember htarget
  · obtain ⟨t, ht, rfl⟩ := List.mem_map.mp htrait
    exact traits_areProper (traits_of_mem_walk hitems h hs) ht

end ModelReader

namespace Model

open ModelReader Yaml

variable {m : Model} {s : Shape}

/-- The ids of a shape and its members are different if the names of the members are. -/
theorem ids_nodup_iff_of_declared (htop : s.id.member = none)
    (hmember : ∀ member ∈ s.members, member.id = s.id.withMember member.name) :
    ((s :: s.members).map Shape.id).Nodup ↔ (s.members.map Shape.name).Nodup := by
  have hmap : s.members.map Shape.id = (s.members.map Shape.name).map s.id.withMember := by
    rw [List.map_map]
    exact List.map_congr_left hmember
  have hinj : Function.Injective s.id.withMember := fun name name' heq =>
    Option.some.inj (congrArg ShapeId.member heq)
  rw [List.map_cons, List.nodup_cons, hmap, List.nodup_map_iff hinj]
  -- A member has a name in its id, so its shape does not have the id.
  refine and_iff_right fun hmem => ?_
  obtain ⟨name, -, heq⟩ := List.mem_map.mp hmem
  rw [← heq] at htop
  cases htop

/-- Without the name of a member, the id of a shape and of its members is the same. -/
theorem owner_of_mem_ids (htop : s.id.member = none)
    (hmember : ∀ member ∈ s.members, member.id = s.id.withMember member.name) {id : ShapeId}
    (hid : id ∈ (s :: s.members).map Shape.id) : { id with member := none } = s.id := by
  obtain ⟨other, hother, rfl⟩ := List.mem_map.mp hid
  rcases List.mem_cons.mp hother with rfl | hother
  · rw [← htop]
  · rw [hmember other hother, ← htop]
    rfl

/-- Ids in the walk are different if those of shapes are, and the names of the members of each shape. -/
theorem walk_ids_nodup_iff_of_declared (hshapes : (m.shapes.map Shape.id).Nodup)
    (htop : ∀ s ∈ m.shapes, s.id.member = none)
    (hmember : ∀ s ∈ m.shapes, ∀ member ∈ s.members, member.id = s.id.withMember member.name) :
    (m.walk.map Shape.id).Nodup ↔ ∀ s ∈ m.shapes, (s.members.map Shape.name).Nodup := by
  have hapart : m.shapes.Pairwise fun s s' =>
      List.Disjoint ((s :: s.members).map Shape.id) ((s' :: s'.members).map Shape.id) := by
    rw [List.Nodup, List.pairwise_map] at hshapes
    refine hshapes.imp_of_mem fun {s s'} hs hs' hne id hid hid' => hne ?_
    rw [← owner_of_mem_ids (htop s hs) (hmember s hs) hid,
      owner_of_mem_ids (htop s' hs') (hmember s' hs') hid']
  unfold walk
  rw [List.map_flatMap, List.nodup_flatMap, and_iff_left hapart]
  exact forall₂_congr fun s hs => ids_nodup_iff_of_declared (htop s hs) (hmember s hs)

/-- The ids of all shapes of a model that is read are different exactly if no two members of a shape are
called `member`, `key` or `value`. Then each shape is found by its id. A member can have one of these names
from a property of its own and from the property `members` as well, and no other name can come twice. -/
theorem walk_ids_nodup_iff {file text : Text} (h : ofText file text = .ok m) :
    ((m.walk.map Shape.id).Nodup ↔ ∀ s ∈ m.shapes, ∀ name ∈ singleMembers,
      (s.members.map Shape.name).count (Text.ofString name) ≤ 1) ∧
    ((m.walk.map Shape.id).Nodup → ∀ s ∈ m.walk, m.shape? s.id = some s) := by
  refine ⟨?_, fun hnodup s hs => find?_eq_some_of_nodup hnodup hs⟩
  rcases isModel_of_ofText h with rfl | ⟨d, -, hmodel⟩
  · exact iff_of_true List.nodup_nil fun s hs => absurd hs List.not_mem_nil
  · have hitems (id : NodeId) (items : List Item)
        (hitems : (View.lasting ⟨file, text⟩ d.graph).items id items) : (items.map Item.key).Nodup :=
      hitems.1
    -- Shapes are declared under their ids, and the keys of one mapping are all different.
    obtain ⟨items, hnodup, hshapes⟩ := exists_items_of_isModel hitems hmodel
    have hdeclared (s : Shape) (hs : s ∈ m.shapes) := exists_mem_of_forall₂_right hshapes hs
    rw [walk_ids_nodup_iff_of_declared]
    · refine forall₂_congr fun s hs => ?_
      obtain ⟨item, -, hshape⟩ := hdeclared s hs
      exact names_nodup_iff hitems hshape
    · refine nodup_map_of_forall₂ hshapes hnodup fun item item' s s' hs hs' heq => ?_
      have hid := (id_of_isShape hs).1
      rw [heq] at hid
      exact ShapeId.parse_inj hid (id_of_isShape hs').1
    · intro s hs
      obtain ⟨item, -, hshape⟩ := hdeclared s hs
      exact (id_of_isShape hshape).2
    · intro s hs member hmember
      obtain ⟨item, -, hshape⟩ := hdeclared s hs
      obtain ⟨property, hproperty⟩ := isMemberOf_of_mem_members hshape hmember
      rw [name_of_isMemberOf hproperty]
      exact id_of_isMemberOf hproperty

/-- A list with its member. -/
def listText : Text :=
  "shapes:\n a#B:\n  type: list\n  member:\n   target: c#D\n"

/-- The one member of a list has an id of its own. -/
theorem walk_ids_nodup_iff_list :
    ∃ m, ofText "m.yaml" listText = .ok m ∧
      ((m.walk.map Shape.id).Nodup ↔ ∀ s ∈ m.shapes, ∀ name ∈ singleMembers,
        (s.members.map Shape.name).count (Text.ofString name) ≤ 1) ∧
      ((m.walk.map Shape.id).Nodup → ∀ s ∈ m.walk, m.shape? s.id = some s) := by
  obtain ⟨m, hm, -⟩ := exists_ok_of_toOption_any (p := fun _ => true)
    (x := ofText "m.yaml" listText)
    (by decide +kernel)
  exact ⟨m, hm, walk_ids_nodup_iff hm⟩

/-- A list with two members of one name. Both are read, one from each of the two properties. -/
def doubleMemberText : Text :=
  "shapes:\n a#B:\n  type: list\n  member: {target: c#D}\n  members: {member: {target: c#E}}\n"

/-- A list can have two members with one id, and only the first of them is found. One is declared by the
property `member`, the other under `members`. -/
theorem walk_ids_not_nodup_member :
    ∃ m, ofText "m.yaml" doubleMemberText = .ok m ∧
      ¬ (m.walk.map Shape.id).Nodup ∧
      ∃ s ∈ m.walk, (m.shape? s.id).map Shape.target ≠ some s.target := by
  obtain ⟨m, hm, hids⟩ := exists_ok_of_toOption_any
    (x := ofText "m.yaml" doubleMemberText)
    (p := fun m => decide (¬ (m.walk.map Shape.id).Nodup ∧
      ∃ s ∈ m.walk, (m.shape? s.id).map Shape.target ≠ some s.target))
    (by decide +kernel)
  exact ⟨m, hm, of_decide_eq_true hids⟩

/-- The ids of the traits of a shape of a model that is read, or of a member, are different exactly if no
name stands both without the namespace of the prelude and with it. Then each trait is found by its id. The
keys of a mapping are different texts, so it is only the namespace that is put in front which can make two
of them one. -/
theorem trait_ids_nodup_iff {file text : Text} (h : ofText file text = .ok m) (hs : s ∈ m.walk) :
    ∃ d keys, Document.ofText text = .ok (some d) ∧ keys.Nodup ∧
      List.Forall₂ (IsDeclaredBy ⟨file, text⟩ d) keys s.traits ∧
      ((s.traits.map Trait.id).Nodup ↔
        ∀ key ∈ keys, CodePoint.ofChar '#' ∉ key → traitKey key ∉ keys) ∧
      ((s.traits.map Trait.id).Nodup → ∀ t ∈ s.traits, s.trait? t.id = some t) := by
  rcases isModel_of_ofText h with rfl | ⟨d, hdocument, hmodel⟩
  · cases hs
  have htraits := traits_of_mem_walk (fun _ _ hitems => And.left hitems) hmodel hs
  have hkeys : ∃ keys : List Text, keys.Nodup ∧
      List.Forall₂ (IsDeclaredBy ⟨file, text⟩ d) keys s.traits := by
    rcases htraits with hempty | ⟨id, items, ⟨hnodup, hcontent⟩, htraits⟩
    · exact ⟨[], List.nodup_nil, hempty ▸ .nil⟩
    · refine ⟨items.map Item.key, hnodup, List.forall₂_map_left_iff.mpr ?_⟩
      have hboth := (List.forall₂_and_left _ _).mpr ⟨hcontent, htraits⟩
      exact hboth.imp fun item t ⟨hkey, ht⟩ => ⟨⟨item.keyNode, hkey, ht.location⟩, ht.id⟩
  obtain ⟨keys, hnodup, hdeclared⟩ := hkeys
  refine ⟨d, keys, hdocument, hnodup, hdeclared, ?_, fun hids t ht => find?_eq_some_of_nodup hids ht⟩
  exact (trait_ids_nodup_iff_of_declared hdeclared).trans (traitKeys_nodup_iff hnodup)

/-- A shape with two traits. -/
def twoTraitsText : Text :=
  "shapes:\n a#B:\n  type: blob\n  traits:\n   sensitive: 1\n   c#sensitive: 2\n"

/-- The traits have the same name in different namespaces. -/
theorem trait_ids_nodup_iff_apart :
    ∃ m s, ofText "m.yaml" twoTraitsText = .ok m ∧ s ∈ m.walk ∧
      ∃ d keys, Document.ofText twoTraitsText = .ok (some d) ∧ keys.Nodup ∧
        List.Forall₂ (IsDeclaredBy ⟨"m.yaml", twoTraitsText⟩ d) keys s.traits ∧
        ((s.traits.map Trait.id).Nodup ↔
          ∀ key ∈ keys, CodePoint.ofChar '#' ∉ key → traitKey key ∉ keys) ∧
        ((s.traits.map Trait.id).Nodup → ∀ t ∈ s.traits, s.trait? t.id = some t) := by
  obtain ⟨m, hm, hwalk⟩ := exists_ok_of_toOption_any (p := fun m => m.walk.any fun _ => true)
    (x := ofText "m.yaml" twoTraitsText)
    (by decide +kernel)
  obtain ⟨s, hs, -⟩ := List.any_eq_true.mp hwalk
  exact ⟨m, s, hm, hs, trait_ids_nodup_iff hm hs⟩

/-- A shape with one trait of the prelude, written in both ways. The keys are different texts, so the
mapping is a proper one. -/
def doubleTraitText : Text :=
  "shapes:\n a#B:\n  type: blob\n  traits:\n   sensitive: 1\n   smithy.api#sensitive: 2\n"

/-- A trait of the prelude can be written in both ways in one mapping, and only the first is found. -/
theorem trait_ids_not_nodup_prelude :
    ∃ m, ofText "m.yaml" doubleTraitText = .ok m ∧
      ∃ s ∈ m.walk, ¬ (s.traits.map Trait.id).Nodup ∧
        ∃ t ∈ s.traits, (s.trait? t.id).map Trait.location ≠ some t.location := by
  obtain ⟨m, hm, hids⟩ := exists_ok_of_toOption_any
    (x := ofText "m.yaml" doubleTraitText)
    (p := fun m => decide (∃ s ∈ m.walk, ¬ (s.traits.map Trait.id).Nodup ∧
      ∃ t ∈ s.traits, (s.trait? t.id).map Trait.location ≠ some t.location))
    (by decide +kernel)
  exact ⟨m, hm, of_decide_eq_true hids⟩

/-- A text that belongs to a shape has the id of one of the model. -/
theorem exists_shape_of_belongsTo {i : TextInstance} {location : Location} {id : ShapeId}
    (hi : i ∈ m.textIndex) (h : i.BelongsTo location (some id)) : ∃ s ∈ m.walk, s.id = id := by
  have horigin := TermTable.origin_of_belongsTo h
  -- A text has one origin, and the origin of each text of a shape is the shape.
  have hshape (s : Shape) (location' : Location) (h' : i.BelongsTo location' (some s.id)) : s.id = id := by
    have horigin' := TermTable.origin_of_belongsTo h'
    rw [horigin] at horigin'
    cases horigin'
    rfl
  rcases mem_textIndex hi with ⟨ns, rfl⟩ | ⟨s, hs, rfl | ⟨t, -, path, text, rfl⟩⟩
  · cases horigin
  · exact ⟨s, hs, hshape s _ (.ofShape s)⟩
  · exact ⟨s, hs, hshape s _ (.ofTrait s t path text)⟩

/-- What a validator reports about a shape, it reports about one of the model. -/
theorem exists_shape_of_check {c : TermsConfig} {v : Validator} {ds : List Diagnostic} {d : Diagnostic}
    {id : ShapeId} (hv : Validator.ofConfig c = .ok v) (hds : v.check m = .ok ds) (hd : d ∈ ds)
    (hshape : d.shape = some id) : ∃ s ∈ m.walk, s.id = id := by
  obtain ⟨t, hreports⟩ := Validator.reports_of_check hv hds
  obtain ⟨⟨i, term⟩, hmem, hreport⟩ := exists_mem_of_forall₂_right hreports hd
  have hi : i ∈ m.textIndex := by
    obtain ⟨i', hi', hterm⟩ := List.mem_flatMap.mp hmem
    obtain ⟨_, -, heq⟩ := List.mem_map.mp hterm
    cases heq
    exact hi'
  exact exists_shape_of_belongsTo hi (hshape ▸ hreport.place)

/-- The ids in a model that is read can be read back from their written forms exactly if no member has the
empty name. Then what a validator reports about a shape leads back to a shape with this id. The other parts
of an id were read from a written form themselves, so that only the names of members are left to be asked
for. -/
theorem ids_read_back_iff {file text : Text} (h : ofText file text = .ok m) :
    ((∀ id ∈ m.ids, ShapeId.parse id.shown = .ok id) ↔ ∀ s ∈ m.walk, s.id.member ≠ some []) ∧
    ((∀ s ∈ m.walk, s.id.member ≠ some []) →
      ∀ c v ds d id, Validator.ofConfig c = .ok v → v.check m = .ok ds → d ∈ ds → d.shape = some id →
        ShapeId.parse id.shown = .ok id ∧ ∃ s, m.shape? id = some s ∧ s.id = id) := by
  have hproper (hnames : ∀ s ∈ m.walk, s.id.member ≠ some []) (id : ShapeId) (hid : id ∈ m.ids) :
      ShapeId.parse id.shown = .ok id := by
    refine ShapeId.parse_shown ?_
    rcases isModel_of_ofText h with rfl | ⟨d, -, hmodel⟩
    · cases hid
    · exact isProper_of_mem_ids (fun _ _ hitems => And.left hitems) hmodel hnames hid
  have hown {s : Shape} (hs : s ∈ m.walk) : s.id ∈ m.ids :=
    List.mem_flatMap.mpr ⟨s, hs, List.mem_cons_self⟩
  refine ⟨⟨fun hread s hs => ?_, hproper⟩, ?_⟩
  · exact (ShapeId.proper_of_parse (hread _ (hown hs))).1.member_ne_nil
  · intro hnames c v ds d id hv hds hd hshape
    obtain ⟨s, hs, rfl⟩ := exists_shape_of_check hv hds hd hshape
    refine ⟨hproper hnames _ (hown hs), ?_⟩
    -- The search meets the shape of this id at the latest, and whatever it finds has the id.
    cases hfind : m.shape? s.id with
    | none => exact absurd (beq_self_eq_true _) (List.find?_eq_none.mp hfind s hs)
    | some found =>
      have hid := List.find?_some (p := fun other : Shape => other.id == s.id) hfind
      exact ⟨found, rfl, beq_iff_eq.mp hid⟩

/-- A list with its member and a trait. -/
def taggedListText : Text :=
  "shapes:\n a#B:\n  type: list\n  traits:\n   sensitive: 1\n  member:\n   target: c#D\n"

/-- All ids of the list are read back. -/
theorem ids_read_back_iff_list :
    ∃ m, ofText "m.yaml" taggedListText = .ok m ∧
      ((∀ id ∈ m.ids, ShapeId.parse id.shown = .ok id) ↔ ∀ s ∈ m.walk, s.id.member ≠ some []) ∧
      ((∀ s ∈ m.walk, s.id.member ≠ some []) →
        ∀ c v ds d id, Validator.ofConfig c = .ok v → v.check m = .ok ds → d ∈ ds → d.shape = some id →
          ShapeId.parse id.shown = .ok id ∧ ∃ s, m.shape? id = some s ∧ s.id = id) := by
  obtain ⟨m, hm, -⟩ := exists_ok_of_toOption_any (p := fun _ => true)
    (x := ofText "m.yaml" taggedListText)
    (by decide +kernel)
  exact ⟨m, hm, ids_read_back_iff hm⟩

/-- A list with a member that has no name. The empty text is a key as any other. -/
def namelessMemberText : Text :=
  "shapes:\n a#B:\n  type: list\n  members:\n   '':\n    target: c#D\n"

/-- A member with an empty name is read, and its id is not read back: it is written with nothing behind the
dollar sign, which is no id. -/
theorem id_not_read_back_emptyName :
    ∃ m, ofText "m.yaml" namelessMemberText = .ok m ∧
      ∃ id ∈ m.ids, ShapeId.parse id.shown ≠ .ok id := by
  obtain ⟨m, hm, hids⟩ := exists_ok_of_toOption_any
    (x := ofText "m.yaml" namelessMemberText)
    (p := fun m => m.ids.any fun id => !((ShapeId.parse id.shown).toOption == some id))
    (by decide +kernel)
  obtain ⟨id, hid, hnot⟩ := List.any_eq_true.mp hids
  refine ⟨m, hm, id, hid, fun hread => ?_⟩
  rw [hread] at hnot
  simp [Except.toOption] at hnot

end Model

end TermAudit
