import TermAudit.Proofs.Index.Listing
import TermAudit.Proofs.Model.Identity

/-!
# `TermAudit.Proofs.Model.Hierarchy`: shapes and their members

A model can be any list of shapes. In one that is read there are two layers (`Model.IsLayered`): shapes
that are no members, and the members of each of them, which have no members themselves
(`Model.isLayered_of_ofText`).

A member is in the namespace of its shape, so that members have no namespaces of their own
(`Model.namespacesOf_walk`). For this reason the index, which looks at all shapes and members, has the
same namespaces as the model, which looks at shapes alone (`Model.ofText_namespaces_iff`).
-/

set_option autoImplicit false

namespace TermAudit

/-- The shape is no member. It can be told by each of three signs, and in a model that is read they
agree. -/
structure Shape.IsTop (s : Shape) : Prop where
  member : s.id.member = none
  type : s.type ≠ .member
  target : s.target = none

/-- The shape is a member of the other one. Its id is that of the other shape with a name, so the two are
in one namespace. -/
structure Shape.IsMemberOf (s top : Shape) : Prop where
  type : s.type = .member
  target : ∃ target, s.target = some target
  members : s.members = []
  id : s.id = top.id.withMember s.name
  sameNamespace : s.id.ns = top.id.ns
  sameName : s.id.name = top.id.name

/-- The shapes of the model are no members, and what they have is. There is no third layer, as members
have no members. -/
structure Model.IsLayered (m : Model) : Prop where
  top : ∀ s ∈ m.shapes, s.IsTop
  member : ∀ s ∈ m.shapes, ∀ member ∈ s.members, member.IsMemberOf s

namespace ModelReader

variable {V : View} {item : Item} {s top : Shape}

/-- A shape that an item declares is no member, and has no target. -/
theorem isTop_of_isShape (h : V.IsShape item s) : s.IsTop := by
  cases h with
  | of_items _ hmember _ htype _ _ =>
    refine ⟨hmember, ?_, rfl⟩
    -- The word for the type was read, and the reader takes no member at the top.
    rcases htype with ⟨_, -, -, _, -, -, hne⟩ | ⟨-, hnone⟩
    · exact hne
    · cases hnone

/-- A member that an item declares belongs to the shape around it. -/
theorem shape_isMemberOf_of_isMemberOf (h : V.IsMemberOf top.id item s) : s.IsMemberOf top := by
  have hid : s.id = top.id.withMember s.name := by
    rw [id_of_isMemberOf h, name_of_isMemberOf h]
  cases h with
  | of_items => exact ⟨rfl, ⟨_, rfl⟩, rfl, hid, rfl, rfl⟩

end ModelReader

namespace Model

open ModelReader

variable {m : Model} {index : List TextInstance}

/-- The reader makes two layers of shapes. It refuses ids of members at the top, and it never looks for
members inside of members. -/
theorem isLayered_of_ofText {file text : Text} (h : ofText file text = .ok m) : m.IsLayered := by
  rcases isModel_of_ofText h with rfl | ⟨d, -, hmodel⟩
  · exact ⟨fun s hs => absurd hs List.not_mem_nil, fun s hs => absurd hs List.not_mem_nil⟩
  · obtain ⟨items, -, hshapes⟩ := exists_items_of_isModel (fun _ _ hitems => And.left hitems) hmodel
    constructor
    · intro s hs
      obtain ⟨item, -, hshape⟩ := exists_mem_of_forall₂_right hshapes hs
      exact isTop_of_isShape hshape
    · intro s hs member hmember
      obtain ⟨item, -, hshape⟩ := exists_mem_of_forall₂_right hshapes hs
      obtain ⟨property, hproperty⟩ := isMemberOf_of_mem_members hshape hmember
      exact shape_isMemberOf_of_isMemberOf hproperty

/-! ## Namespaces -/

/-- Members come right behind their shape, when its namespace has been `seen`. -/
theorem foldl_addNew_members {shapes : List Shape} (seen : List Text)
    (h : ∀ s ∈ shapes, ∀ member ∈ s.members, member.id.ns = s.id.ns) :
    ((shapes.flatMap fun s => s :: s.members).map (·.id.ns)).foldl
        (fun seen ns => if ns ∈ seen then seen else seen ++ [ns]) seen =
      (shapes.map (·.id.ns)).foldl (fun seen ns => if ns ∈ seen then seen else seen ++ [ns]) seen := by
  induction shapes generalizing seen with
  | nil => rfl
  | cons s shapes ih =>
    simp only [List.flatMap_cons, List.map_append, List.foldl_append, List.map_cons, List.foldl_cons]
    generalize hseen' : (if s.id.ns ∈ seen then seen else seen ++ [s.id.ns]) = seen'
    have hns : s.id.ns ∈ seen' := by
      rw [← hseen']
      split
      · assumption
      · exact List.mem_append_right _ List.mem_cons_self
    -- The members are in the namespace of their shape, which has been seen just before.
    have hmembers : ∀ ns ∈ s.members.map (·.id.ns), ns ∈ seen' := by
      intro ns hmem
      obtain ⟨member, hmember, rfl⟩ := List.mem_map.mp hmem
      rwa [h s List.mem_cons_self member hmember]
    rw [foldl_addNew_eq_self hmembers]
    exact ih seen' fun s hs => h s (List.mem_cons_of_mem _ hs)

/-- Members do not add to the namespaces of their shapes. A member comes behind its shape in the walk,
whose namespace is there already. -/
theorem namespacesOf_walk (h : m.IsLayered) : namespacesOf m.walk = m.namespaces :=
  foldl_addNew_members [] fun s hs member hmember => (h.member s hs member hmember).sameNamespace

/-- Each namespace is listed once. -/
theorem nodup_namespaces (m : Model) : m.namespaces.Nodup := by
  rw [namespaces, namespacesOf_eq]
  exact nodup_eraseDups _

/-- The texts of an index that are names of namespaces, in the order of the index. -/
def namespacesIn (index : List TextInstance) : List Text :=
  (index.filter fun i => i.place = .namespaceName).map (·.text)

/-- Only the end of the index has names of namespaces. -/
theorem namespacesIn_textIndex (m : Model) : namespacesIn m.textIndex = namespacesOf m.walk := by
  have hshapes : (m.walk.flatMap Shape.textInstances).filter
      (fun i => decide (i.place = .namespaceName)) = [] := by
    refine List.filter_eq_nil_iff.mpr fun i hi => ?_
    obtain ⟨s, -, hi⟩ := List.mem_flatMap.mp hi
    rcases List.mem_cons.mp hi with rfl | hi
    · exact of_decide_eq_false rfl
    · obtain ⟨t, -, hi⟩ := List.mem_flatMap.mp hi
      obtain ⟨_, -, rfl⟩ := List.mem_map.mp hi
      exact of_decide_eq_false rfl
  have hnamespaces : ((namespacesOf m.walk).map TextInstance.ofNamespace).filter
      (fun i => decide (i.place = .namespaceName)) = (namespacesOf m.walk).map .ofNamespace := by
    refine List.filter_eq_self.mpr fun i hi => ?_
    obtain ⟨ns, -, rfl⟩ := List.mem_map.mp hi
    rfl
  unfold namespacesIn textIndex
  rw [List.filter_append, hshapes, hnamespaces, List.nil_append, List.map_map]
  exact List.map_id _

/-- A model that is read has two layers of shapes. It has an index exactly if every path in it can be
written, and the namespaces there are those of the model, each one once and in the same order. The layers
are a matter of the reader, which takes no members at the top and none in members, and the namespaces one of
the index. -/
theorem ofText_namespaces_iff {file text : Text} (h : ofText file text = .ok m) :
    m.IsLayered ∧ m.namespaces.Nodup ∧
      ((∃ index, m.index? = some index ∧ namespacesIn index = m.namespaces) ↔ m.PathsWritable) := by
  have hlayered := isLayered_of_ofText h
  refine ⟨hlayered, nodup_namespaces m, ?_, fun hpaths => ?_⟩
  · rintro ⟨index, hindex, -⟩
    exact pathsWritable_of_index? hindex
  · refine ⟨m.textIndex, index?_of_pathsWritable hpaths, ?_⟩
    rw [namespacesIn_textIndex, namespacesOf_walk hlayered]

/-- Shapes with members in two namespaces. The first namespace comes again after the second, and still it
is indexed once. -/
def twoNamespacesText : Text :=
  "shapes:\n e#F:\n  type: blob\n a#B:\n  type: list\n  member:\n   target: c#D\n e#G:\n  type: blob\n"

/-- The theorem at the model of this text, whose namespaces are `e` and `a`. -/
theorem ofText_namespaces_iff_two :
    ∃ m, ofText "m.yaml" twoNamespacesText = .ok m ∧ m.namespaces = [("e" : Text), ("a" : Text)] ∧
      m.IsLayered ∧ m.namespaces.Nodup ∧
        ((∃ index, m.index? = some index ∧ namespacesIn index = m.namespaces) ↔ m.PathsWritable) := by
  obtain ⟨m, hm, hnamespaces⟩ := exists_ok_of_toOption_any
    (x := ofText "m.yaml" twoNamespacesText)
    (p := fun m => decide (m.namespaces = [("e" : Text), ("a" : Text)]))
    (by decide +kernel)
  exact ⟨m, hm, of_decide_eq_true hnamespaces, ofText_namespaces_iff hm⟩

/-- A model that is read can be without an index that could have its namespaces. -/
theorem namespaces_not_indexed_longKeyText :
    ∃ m, ofText "m.yaml" longKeyText = .ok m ∧
      ¬ ∃ index, m.index? = some index ∧ namespacesIn index = m.namespaces := by
  obtain ⟨m, hok, hpath⟩ := exists_ofText_longKeyText
  refine ⟨m, hok, ?_⟩
  rintro ⟨index, hindex, -⟩
  rw [index?_of_hasUnwritablePath hpath] at hindex
  cases hindex

end Model

end TermAudit
