import TermAudit.Proofs.Model.Declaration

/-!
# `TermAudit.Proofs.Model.Interpretation`: reading what a document declares

The reader makes exactly the model that a document declares, as far as a view tells how its basic steps
go:

* `ModelReader.Reads`: a computation has only results with a property and, if it is `full`, all of them;
* `View.Reflects`: this holds of the basic steps where they are taken, at the places (`Place`) to which
  the declarations lead;
* `ModelReader.reads_document`: then it holds of the whole document.

Merges change the graph while values are made, and with it what a mapping holds. What they leave alone
can be seen in every document (`View.lasting`), and so `Model.isModel_of_ofText` says of every model that
is read where its ids come from.
-/

set_option autoImplicit false

namespace TermAudit

namespace ModelReader

open Yaml (Graph NodeId Evaluation)

/-! ## Places -/

/-- The kinds of mappings in a model document. The reader treats the items of each of them in its own
way. -/
inductive Part where
  | document
  | shapes
  | shape
  | members
  | member
  | traits
deriving DecidableEq

/-- How the reader takes a node: as a mapping of some kind, as a string, or as a value, whose inside is no
matter of the reader. -/
inductive Place where
  | mapping (part : Part)
  | string
  | value
deriving DecidableEq

/-- How the values of items are taken. Those of some items are not looked at, and nothing is asked of
them. -/
def Part.inside : Part → Text → Option Place
  | .document, key =>
    if key = Text.ofString "smithy" then some .string
    else if key = Text.ofString "metadata" then some .value
    else if key = Text.ofString "shapes" then some (.mapping .shapes)
    else none
  | .shapes, _ => some (.mapping .shape)
  | .shape, key =>
    if key = Text.ofString "type" then some .string
    else if key = Text.ofString "traits" then some (.mapping .traits)
    else if key = Text.ofString "members" then some (.mapping .members)
    else if singleMembers.any fun name => Text.ofString name = key then some (.mapping .member)
    else none
  | .members, _ => some (.mapping .member)
  | .member, key =>
    if key = Text.ofString "target" then some .string
    else if key = Text.ofString "traits" then some (.mapping .traits)
    else none
  | .traits, _ => some .value

/-! ## Results -/

variable {α β : Type} {origin : Origin} {P : Evaluation → Prop} {full : Prop}

/-- From each state with `P` the computation goes to another one, if to any, and its result has `R`. If it
is full, it can come to every such result. The first half says that a model which is read is declared, and
the second that a declared model is read. -/
def Reads (origin : Origin) (P : Evaluation → Prop) (full : Prop) (x : Reading α) (R : α → Prop) :
    Prop :=
  ∀ s, P s →
    (∀ a s', (x.run origin).run s = .ok (a, s') → P s' ∧ R a) ∧
    (full → ∀ a, R a → ∃ s', (x.run origin).run s = .ok (a, s'))

/-- What is known of results may be said in other words. -/
theorem Reads.congr {x : Reading α} {R R' : α → Prop} (h : Reads origin P full x R)
    (hiff : ∀ a, R a ↔ R' a) : Reads origin P full x R' := by
  intro s hs
  obtain ⟨honly, hall⟩ := h s hs
  refine ⟨fun a s' hrun => ?_, fun hfull a ha => hall hfull a ((hiff a).mpr ha)⟩
  obtain ⟨hs', ha⟩ := honly a s' hrun
  exact ⟨hs', (hiff a).mp ha⟩

/-- A computation that gives one result. -/
theorem reads_pure (a : α) : Reads origin P full (pure a) (· = a) := by
  intro s hs
  refine ⟨fun a' s' hrun => ?_, ?_⟩
  · cases hrun
    exact ⟨hs, rfl⟩
  · rintro - _ rfl
    exact ⟨s, rfl⟩

/-- A refusal has no result, so there is nothing to say of one. -/
theorem reads_refuse (id : NodeId) (problem : ModelProblem) :
    Reads origin P full (refuse id problem : Reading α) fun _ => False := by
  intro s _
  refine ⟨fun a s' hrun => ?_, fun _ a ha => ha.elim⟩
  cases hrun

/-- The results of two steps one after the other are those that the second one has for some result of the
first. If both are full, all of these can be reached. -/
theorem Reads.bind {x : Reading α} {f : α → Reading β} {R : α → Prop} {Q : α → β → Prop}
    (hx : Reads origin P full x R) (hf : ∀ a, R a → Reads origin P full (f a) (Q a)) :
    Reads origin P full (x >>= f) fun b => ∃ a, R a ∧ Q a b := by
  intro s hs
  rw [ReaderT.run_bind, StateT.run_bind]
  obtain ⟨honly, hall⟩ := hx s hs
  constructor
  · intro b s₂ hrun
    obtain ⟨⟨a, s₁⟩, hrun, hrun'⟩ := bind_eq_ok_iff.mp hrun
    obtain ⟨hs₁, ha⟩ := honly a s₁ hrun
    obtain ⟨hs₂, hb⟩ := (hf a ha s₁ hs₁).1 b s₂ hrun'
    exact ⟨hs₂, a, ha, hb⟩
  · rintro hfull b ⟨a, ha, hb⟩
    obtain ⟨s₁, hrun⟩ := hall hfull a ha
    obtain ⟨hs₁, -⟩ := honly a s₁ hrun
    obtain ⟨s₂, hrun'⟩ := (hf a ha s₁ hs₁).2 hfull b hb
    exact ⟨s₂, bind_eq_ok_iff.mpr ⟨_, hrun, hrun'⟩⟩

/-- A step whose result is used in a last one, which always goes on. -/
theorem Reads.map {x : Reading α} {R : α → Prop} (hx : Reads origin P full x R) (f : α → β) :
    Reads origin P full (x >>= fun a => pure (f a)) fun b => ∃ a, R a ∧ b = f a :=
  hx.bind fun a _ => reads_pure (f a)

/-- The results for a list are lists of results. -/
theorem reads_mapM {f : α → Reading β} {R : α → β → Prop} {l : List α}
    (hf : ∀ a ∈ l, Reads origin P full (f a) (R a)) :
    Reads origin P full (l.mapM f) (List.Forall₂ R l) := by
  induction l with
  | nil => exact (reads_pure []).congr fun bs => List.forall₂_nil_left_iff.symm
  | cons a l ih =>
    rw [List.mapM_cons]
    have hrest := ih fun b hb => hf b (List.mem_cons_of_mem _ hb)
    refine ((hf a List.mem_cons_self).bind fun b _ => hrest.map fun bs => b :: bs).congr fun bs => ?_
    rw [List.forall₂_cons_left_iff]
    constructor
    · rintro ⟨b, hb, bs, hbs, rfl⟩
      exact ⟨b, bs, hb, hbs, rfl⟩
    · rintro ⟨b, bs, hb, hbs, rfl⟩
      exact ⟨b, hb, bs, hbs, rfl⟩

/-- What the properties in a list of items say, if it is put together from what each of them says. -/
theorem reads_properties {σ : Type} {f : σ → Item → Reading σ} {Says : σ → List Item → σ → Prop}
    (hnil : ∀ s s', Says s [] s' ↔ s' = s)
    (hcons : ∀ s s' item rest, item.key ∉ rest.map Item.key →
      (Says s (item :: rest) s' ↔ ∃ t, Says s [item] t ∧ Says t rest s'))
    {items : List Item} (hnodup : (items.map Item.key).Nodup)
    (hstep : ∀ item ∈ items, ∀ s, Reads origin P full (f s item) (Says s [item])) (s : σ) :
    Reads origin P full (items.foldlM f s) (Says s items) := by
  induction items generalizing s with
  | nil => exact (reads_pure s).congr fun s' => (hnil s s').symm
  | cons item items ih =>
    rw [List.map_cons, List.nodup_cons] at hnodup
    have hrest := ih hnodup.2 fun other hother => hstep other (List.mem_cons_of_mem _ hother)
    rw [List.foldlM_cons]
    exact ((hstep item List.mem_cons_self s).bind fun t _ => hrest t).congr fun s' =>
      (hcons s s' item items hnodup.1).symm

/-! ## Reading -/

/-- The view tells how the basic steps of the reader go where they are taken. It is asked only at places
to which the declarations lead, since elsewhere a node may have been changed by merges. -/
structure View.Reflects (V : View) (origin : Origin) (At : Place → NodeId → Prop)
    (P : Evaluation → Prop) (full : Prop) : Prop where
  items : ∀ {part id} (called : MappingPart), At (.mapping part) id →
    Reads origin P full (ModelReader.items id called) (V.items id)
  string : ∀ {id} (called : StringPart), At .string id →
    Reads origin P full (ModelReader.string id called) (V.string id)
  value : ∀ {id}, At .value id → Reads origin P full (plainValue id) (V.value id)
  location : ∀ id, Reads origin P full (ModelReader.location id) (· = V.location id)
  /-- The places of the items in a mapping. -/
  inside : ∀ {part place id items}, At (.mapping part) id → V.items id items →
    ∀ item ∈ items, part.inside item.key = some place → At place item.value
  /-- Different items have different keys. -/
  nodup : ∀ {id items}, V.items id items → (items.map Item.key).Nodup

section Reading

/-- An id is what its text says. -/
theorem reads_shapeId (text : Text) (id : NodeId) :
    Reads origin P full (shapeId text id) fun i => ShapeId.parse text = .ok i := by
  unfold shapeId
  cases ShapeId.parse text with
  | ok i => exact (reads_pure i).congr fun j => ⟨fun h => h ▸ rfl, fun h => (Except.ok.inj h).symm⟩
  | error error => exact (reads_refuse id _).congr fun j => ⟨False.elim, fun h => nomatch h⟩

variable {V : View} {At : Place → NodeId → Prop} (hV : V.Reflects origin At P full)

include hV

/-- A trait has the id of its key and the value that is seen at its node. -/
theorem reads_trait {item : Item} (hat : At .value item.value) :
    Reads origin P full (trait item) (V.IsTrait item) := by
  refine ((reads_shapeId _ _).bind fun id _ => (hV.value hat).bind fun v _ =>
    (hV.location item.keyNode).map fun location => Trait.mk id v location).congr fun t => ?_
  constructor
  · rintro ⟨id, hid, v, hv, _, rfl, rfl⟩
    exact ⟨hid, hv, rfl⟩
  · rintro ⟨hid, hv, hlocation⟩
    exact ⟨t.id, hid, t.value, hv, _, rfl, hlocation ▸ rfl⟩

/-- The traits of a mapping are those of its items, in order. -/
theorem reads_traits {id : NodeId} (hat : At (.mapping .traits) id) :
    Reads origin P full (traits id) (V.AreTraits id) :=
  (hV.items .traits hat).bind fun _ hitems => reads_mapM fun item hitem =>
    reads_trait hV (hV.inside hat hitems item hitem rfl)

/-- What a single property says of a member. -/
theorem reads_memberProperty {item : Item} (parts : MemberParts)
    (hinside : ∀ place, Part.member.inside item.key = some place → At place item.value) :
    Reads origin P full (memberProperty parts item) (V.SaysOfMember parts [item]) := by
  unfold memberProperty
  by_cases htarget : item.key = Text.ofString "target"
  · have hat : At .string item.value := hinside .string (by rw [Part.inside, if_pos htarget])
    rw [if_pos htarget]
    refine ((hV.string .memberTarget hat).bind fun text _ => (reads_shapeId text item.value).map
      fun target => MemberParts.mk (some target) parts.traits).congr fun parts' => ?_
    rw [saysOfMember_target htarget]
    constructor
    · rintro ⟨text, htext, target, hparse, rfl⟩
      exact ⟨target, ⟨text, htext, hparse⟩, rfl⟩
    · rintro ⟨target, ⟨text, htext, hparse⟩, rfl⟩
      exact ⟨text, htext, target, hparse, rfl⟩
  rw [if_neg htarget]
  by_cases htraits : item.key = Text.ofString "traits"
  · have hat : At (.mapping .traits) item.value :=
      hinside _ (by rw [Part.inside, if_neg htarget, if_pos htraits])
    rw [if_pos htraits]
    exact ((reads_traits hV hat).map fun traits => MemberParts.mk parts.target traits).congr
      fun parts' => (saysOfMember_traits htraits).symm
  · rw [if_neg htraits]
    exact (reads_pure parts).congr fun parts' => (saysOfMember_other htarget htraits).symm

/-- A member. -/
theorem reads_member {id : ShapeId} {keyNode value : NodeId} (hat : At (.mapping .member) value) :
    Reads origin P full (member id keyNode value) (V.IsMember id keyNode value) := by
  refine ((hV.items (.member id) hat).bind (Q := fun items s =>
    ∃ parts, V.SaysOfMember ⟨none, []⟩ items parts ∧ ∃ target, parts.target = some target ∧
      s = ⟨id, .member, parts.traits, [], V.location keyNode, some target⟩)
    fun items hitems => ?_).congr fun s => ?_
  · refine (reads_properties saysOfMember_nil saysOfMember_cons (hV.nodup hitems)
      (fun item hitem parts => reads_memberProperty hV parts fun _ =>
        hV.inside hat hitems item hitem) ⟨none, []⟩).bind fun parts _ => ?_
    -- Without a target the member is refused at its key.
    cases htarget : parts.target with
    | none => exact (reads_refuse _ _).congr fun s => ⟨False.elim, fun h => nomatch h.choose_spec.1⟩
    | some target =>
      refine ((hV.location keyNode).map fun location =>
        Shape.mk id .member parts.traits [] location (some target)).congr fun s => ?_
      constructor
      · rintro ⟨_, rfl, rfl⟩
        exact ⟨target, rfl, rfl⟩
      · rintro ⟨_, heq, rfl⟩
        cases heq
        exact ⟨_, rfl, rfl⟩
  · constructor
    · rintro ⟨items, hitems, ⟨target, traits⟩, ⟨htarget, htraits⟩, _, heq, rfl⟩
      dsimp only at heq
      subst heq
      exact .of_items hitems htarget htraits
    · rintro ⟨hitems, htarget, htraits⟩
      exact ⟨_, hitems, MemberParts.mk _ _, ⟨htarget, htraits⟩, _, rfl, rfl⟩

/-- The members that a property of a shape declares. -/
theorem reads_members {key : Text} {shape : ShapeId} {id : NodeId} (hat : At (.mapping .members) id) :
    Reads origin P full (members key shape id) fun members =>
      ∃ items, V.items id items ∧ List.Forall₂ (V.IsMemberOf shape) items members :=
  (hV.items (.members key) hat).bind fun _ hitems => reads_mapM fun item hitem =>
    reads_member hV (hV.inside hat hitems item hitem rfl)

/-- A type is the word that is seen at its node. -/
theorem reads_shapeType {id : NodeId} (hat : At .string id) :
    Reads origin P full (shapeType id) fun type => V.IsType id (some type) := by
  refine ((hV.string .shapeType hat).bind
    (Q := fun word type => ShapeType.ofKeyword? word = some type ∧ type ≠ .member)
    fun word _ => ?_).congr fun type => Iff.rfl
  cases hword : ShapeType.ofKeyword? word with
  | none => exact (reads_refuse _ _).congr fun type => ⟨False.elim, fun h => nomatch h.1⟩
  | some type =>
    by_cases hmember : type = .member
    · -- The word for members is no type of a shape.
      subst hmember
      refine (reads_refuse _ _).congr fun type => ⟨False.elim, fun h => ?_⟩
      exact h.2 (Option.some.inj h.1).symm
    · have hpure : Reads origin P full (pure type) fun type' => some type = some type' ∧
          type' ≠ .member := by
        refine (reads_pure type).congr fun type' => ?_
        constructor
        · rintro rfl
          exact ⟨rfl, hmember⟩
        · rintro ⟨heq, -⟩
          exact (Option.some.inj heq).symm
      cases type with
      | member => exact absurd rfl hmember
      | _ => exact hpure

/-- A property of a shape that is neither its type nor its traits. -/
theorem reads_membersOf {key : Text} {id : ShapeId} {item : Item} (parts : ShapeParts)
    (hinside : ∀ place, Part.shape.inside item.key = some place → At place item.value)
    (htype : item.key ≠ Text.ofString "type") (htraits : item.key ≠ Text.ofString "traits") :
    Reads origin P full (shapeProperty key id parts item) fun parts' =>
      ∃ declared, V.AreMembersOf id item declared ∧
        parts' = ⟨parts.type, parts.traits, parts.members ++ declared⟩ := by
  unfold shapeProperty
  rw [if_neg htype, if_neg htraits]
  by_cases hmembers : item.key = Text.ofString "members"
  · have hat : At (.mapping .members) item.value :=
      hinside _ (by rw [Part.inside, if_neg htype, if_neg htraits, if_pos hmembers])
    -- A mapping of members declares all of them.
    rw [if_pos hmembers]
    refine ((reads_members hV hat).map
      fun members => ShapeParts.mk parts.type parts.traits (parts.members ++ members)).congr
      fun parts' => ?_
    simp only [areMembersOf_iff_of_members hmembers]
  rw [if_neg hmembers]
  by_cases hone : (singleMembers.any fun name => Text.ofString name = item.key) = true
  · have hat : At (.mapping .member) item.value := hinside _ (by
      rw [Part.inside, if_neg htype, if_neg htraits, if_neg hmembers, if_pos hone])
    -- The name of the property is that of the one member.
    rw [if_pos hone]
    refine ((reads_member hV hat).map
      fun member => ShapeParts.mk parts.type parts.traits (parts.members ++ [member])).congr
      fun parts' => ?_
    simp only [areMembersOf_iff_of_single hmembers hone]
    constructor
    · rintro ⟨member, hmember, rfl⟩
      exact ⟨[member], ⟨member, hmember, rfl⟩, rfl⟩
    · rintro ⟨_, ⟨member, hmember, rfl⟩, rfl⟩
      exact ⟨member, hmember, rfl⟩
  · rw [if_neg hone]
    refine (reads_pure parts).congr fun parts' => ?_
    simp only [areMembersOf_iff_of_other hmembers hone, exists_eq_left, List.append_nil]

/-- What a single property says of a shape. -/
theorem reads_shapeProperty {key : Text} {id : ShapeId} {item : Item} (parts : ShapeParts)
    (hinside : ∀ place, Part.shape.inside item.key = some place → At place item.value) :
    Reads origin P full (shapeProperty key id parts item) (V.SaysOfShape id parts [item]) := by
  by_cases htype : item.key = Text.ofString "type"
  · have hat : At .string item.value := hinside .string (by rw [Part.inside, if_pos htype])
    unfold shapeProperty
    rw [if_pos htype]
    exact ((reads_shapeType hV hat).map
      fun type => ShapeParts.mk (some type) parts.traits parts.members).congr
      fun parts' => (saysOfShape_type htype).symm
  by_cases htraits : item.key = Text.ofString "traits"
  · have hat : At (.mapping .traits) item.value :=
      hinside _ (by rw [Part.inside, if_neg htype, if_pos htraits])
    unfold shapeProperty
    rw [if_neg htype, if_pos htraits]
    exact ((reads_traits hV hat).map fun traits => ShapeParts.mk parts.type traits parts.members).congr
      fun parts' => (saysOfShape_traits htraits).symm
  · exact (reads_membersOf hV parts hinside htype htraits).congr
      fun parts' => (saysOfShape_other htype htraits).symm

/-- A shape. -/
theorem reads_shape {item : Item} (hat : At (.mapping .shape) item.value) :
    Reads origin P full (shape item) (V.IsShape item) := by
  unfold shape
  refine ((reads_shapeId item.key item.keyNode).bind
    (Q := fun id s => id.member = none ∧ ∃ items, V.items item.value items ∧
      ∃ parts, V.SaysOfShape id ⟨none, [], []⟩ items parts ∧ ∃ type, parts.type = some type ∧
      s = ⟨id, type, parts.traits, parts.members, V.location item.keyNode, none⟩)
    fun id _ => ?_).congr fun s => ?_
  · by_cases hmember : id.member.isSome = true
    · -- The id of a member names no shape at the top.
      rw [if_pos hmember]
      refine ((reads_refuse item.keyNode (.memberAtTop item.key)).bind
        (Q := fun _ _ => False) fun _ h => h.elim).congr fun s => ?_
      constructor
      · rintro ⟨_, h, -⟩
        exact h.elim
      · rintro ⟨hnone, -⟩
        rw [hnone] at hmember
        cases hmember
    · rw [if_neg hmember]
      have hnone : id.member = none := Option.not_isSome_iff_eq_none.mp hmember
      refine ((hV.items (.shape item.key) hat).bind fun items hitems => ?_).congr
        fun s => (and_iff_right hnone).symm
      refine (reads_properties (saysOfShape_nil id) (saysOfShape_cons id) (hV.nodup hitems)
        (fun other hother parts => reads_shapeProperty hV parts fun _ =>
          hV.inside hat hitems other hother) ⟨none, [], []⟩).bind fun parts _ => ?_
      -- Without a type the shape is refused at its key.
      cases htype : parts.type with
      | none => exact (reads_refuse _ _).congr fun s => ⟨False.elim, fun h => nomatch h.choose_spec.1⟩
      | some type =>
        refine ((hV.location item.keyNode).map fun location =>
          Shape.mk id type parts.traits parts.members location none).congr fun s => ?_
        constructor
        · rintro ⟨_, rfl, rfl⟩
          exact ⟨type, rfl, rfl⟩
        · rintro ⟨_, heq, rfl⟩
          cases heq
          exact ⟨_, rfl, rfl⟩
  · constructor
    · rintro ⟨id, hid, hnone, items, hitems, ⟨_, traits, members⟩, ⟨htype, htraits, groups, hgroups, heq⟩,
        type, rfl, rfl⟩
      dsimp only at heq
      rw [heq, List.nil_append]
      exact .of_items hid hnone hitems htype htraits hgroups
    · rintro ⟨hid, hnone, hitems, htype, htraits, hgroups⟩
      exact ⟨_, hid, hnone, _, hitems, ShapeParts.mk _ _ _, ⟨htype, htraits, _, hgroups, rfl⟩, _, rfl, rfl⟩

/-- The shapes of a mapping are those of its items, in order. -/
theorem reads_shapes {id : NodeId} (hat : At (.mapping .shapes) id) :
    Reads origin P full (items id .shapes >>= fun items => items.mapM shape) (V.AreShapes id) :=
  (hV.items .shapes hat).bind fun _ hitems => reads_mapM fun item hitem =>
    reads_shape hV (hV.inside hat hitems item hitem rfl)

/-- What a single part of the document says of the model. -/
theorem reads_documentPart {item : Item} (m : Model)
    (hinside : ∀ place, Part.document.inside item.key = some place → At place item.value) :
    Reads origin P full (documentPart m item) (V.IsModelAfter m [item]) := by
  unfold documentPart
  by_cases hversion : item.key = Text.ofString "smithy"
  · have hat : At .string item.value := hinside .string (by rw [Part.inside, if_pos hversion])
    rw [if_pos hversion]
    exact ((hV.string .version hat).map fun _ => m).congr fun m' => (isModelAfter_version hversion).symm
  rw [if_neg hversion]
  by_cases hmetadata : item.key = Text.ofString "metadata"
  · have hat : At .value item.value :=
      hinside .value (by rw [Part.inside, if_neg hversion, if_pos hmetadata])
    rw [if_pos hmetadata]
    refine ((hV.value hat).bind (Q := fun v m' => ∃ metadata, v = .mapping metadata ∧
      m' = ⟨m.shapes, metadata⟩) fun v _ => ?_).congr fun m' => ?_
    · -- Metadata is made in full before its kind is looked at.
      cases v with
      | mapping metadata =>
        refine (reads_pure _).congr fun m' => ?_
        constructor
        · rintro rfl
          exact ⟨metadata, rfl, rfl⟩
        · rintro ⟨_, heq, rfl⟩
          cases heq
          rfl
      | _ => exact (reads_refuse _ _).congr fun m' => ⟨False.elim, fun ⟨_, h, _⟩ => nomatch h⟩
    · rw [isModelAfter_metadata hmetadata]
      constructor
      · rintro ⟨_, hread, metadata, rfl, rfl⟩
        exact ⟨metadata, hread, rfl⟩
      · rintro ⟨metadata, hread, rfl⟩
        exact ⟨_, hread, metadata, rfl, rfl⟩
  rw [if_neg hmetadata]
  by_cases hshapes : item.key = Text.ofString "shapes"
  · have hat : At (.mapping .shapes) item.value :=
      hinside _ (by rw [Part.inside, if_neg hversion, if_neg hmetadata, if_pos hshapes])
    rw [if_pos hshapes, ← bind_assoc]
    exact ((reads_shapes hV hat).map fun shapes => { m with shapes := shapes }).congr
      fun m' => (isModelAfter_shapes hshapes).symm
  · rw [if_neg hshapes]
    refine (reads_refuse _ _).congr fun m' => ⟨False.elim, fun hafter => ?_⟩
    -- A model says nothing under any other key.
    rcases hafter.keys item List.mem_cons_self with h | h | h
    · exact hversion h
    · exact hmetadata h
    · exact hshapes h

/-- The whole document: where the view reflects the basic steps, the reader makes the models that the view
declares, and if it is full, all of them. The properties are gone through as in the loop of the reader. -/
theorem reads_document {root : NodeId} (hat : At (.mapping .document) root) :
    Reads origin P full (document root) (V.IsModel root) :=
  (hV.items .document hat).bind fun _ hitems =>
    reads_properties isModelAfter_nil isModelAfter_cons (hV.nodup hitems)
      (fun item hitem m => reads_documentPart hV m fun _ => hV.inside hat hitems item hitem) .empty

end Reading

/-! ## Basic steps -/

/-- The items are those of the mapping. All of its keys are scalars then, and their texts differ, or else
the reader refuses the mapping. -/
structure HasItems (g : Graph) (id : NodeId) (items : List Item) : Prop where
  content : (g.node id).content = .mapping (items.map fun item => (item.keyNode, item.value))
  key : ∀ item ∈ items, (g.node item.keyNode).content = .scalar item.key
  nodup : (items.map Item.key).Nodup

/-- An item is an entry of the mapping. -/
theorem HasItems.mem_entries {g : Graph} {id : NodeId} {items : List Item} (h : HasItems g id items)
    {item : Item} (hitem : item ∈ items) : (item.keyNode, item.value) ∈ g.entries id := by
  unfold Graph.entries
  rw [h.content]
  exact List.mem_map_of_mem hitem

/-- The place of a node. -/
def placeOf (origin : Origin) (g : Graph) (id : NodeId) : Location :=
  ⟨origin.file, (g.node id).position.line + 1, (g.node id).position.column + 1⟩

section Steps

variable {s s' : Evaluation}

/-- The graph is at hand. -/
theorem run_graph_bind (k : Graph → Reading α) :
    ((graph >>= k).run origin).run s = ((k s.graph).run origin).run s :=
  rfl

/-- A result leaves the state as it was. -/
theorem run_pure_eq_ok_iff {a b : α} :
    ((pure a : Reading α).run origin).run s = .ok (b, s') ↔ s' = s ∧ b = a := by
  constructor
  · intro h
    cases h
    exact ⟨rfl, rfl⟩
  · rintro ⟨rfl, rfl⟩
    rfl

/-- A refusal never ends with a result. -/
theorem run_refuse_ne_ok {id : NodeId} {problem : ModelProblem} {a : α} :
    ((refuse id problem : Reading α).run origin).run s ≠ .ok (a, s') := by
  intro h
  cases h

/-- The key of an entry is checked before the entries behind it. -/
theorem run_checkItems_cons_eq_ok_iff {called : MappingPart} {keyNode value : NodeId}
    {rest : List (NodeId × NodeId)} {seen : List Text} {items : List Item} :
    ((checkItems called ((keyNode, value) :: rest) seen).run origin).run s = .ok (items, s') ↔
      ∃ key others, (s.graph.node keyNode).content = .scalar key ∧ key ∉ seen ∧
        ((checkItems called rest (key :: seen)).run origin).run s = .ok (others, s') ∧
        items = ⟨key, keyNode, value⟩ :: others := by
  rw [checkItems, run_graph_bind]
  split
  · rename_i key hkey
    -- A key that was seen before is refused, and so is a key that is no scalar.
    by_cases hseen : key ∈ seen
    · rw [if_pos hseen]
      constructor
      · intro h
        cases h
      · rintro ⟨_, _, hkey', hnew, -⟩
        rw [hkey] at hkey'
        cases hkey'
        exact absurd hseen hnew
    · rw [if_neg hseen]
      show ((checkItems called rest (key :: seen) >>= fun others =>
        pure (Item.mk key keyNode value :: others)).run origin).run s = _ ↔ _
      rw [ReaderT.run_bind, StateT.run_bind, bind_eq_ok_iff]
      constructor
      · rintro ⟨⟨others, s₁⟩, hrest, hrun⟩
        obtain ⟨rfl, rfl⟩ := run_pure_eq_ok_iff.mp hrun
        exact ⟨key, others, hkey, hseen, hrest, rfl⟩
      · rintro ⟨_, others, hkey', -, hrest, rfl⟩
        rw [hkey] at hkey'
        cases hkey'
        exact ⟨_, hrest, rfl⟩
  · rename_i hnot
    refine iff_of_false run_refuse_ne_ok ?_
    rintro ⟨key, _, hkey, -⟩
    exact hnot key hkey

/-- The check of items succeeds exactly if all keys are texts and differ from each other and from those seen
before. Induction on the entries. -/
theorem run_checkItems_eq_ok_iff {called : MappingPart} {entries : List (NodeId × NodeId)}
    {seen : List Text} {items : List Item} :
    ((checkItems called entries seen).run origin).run s = .ok (items, s') ↔
      s' = s ∧ entries = items.map (fun item => (item.keyNode, item.value)) ∧
        (∀ item ∈ items, (s.graph.node item.keyNode).content = .scalar item.key) ∧
        (items.map Item.key).Nodup ∧ ∀ item ∈ items, item.key ∉ seen := by
  induction entries generalizing seen items with
  | nil =>
    refine run_pure_eq_ok_iff.trans (and_congr_right fun _ => ?_)
    constructor
    · rintro rfl
      simp
    · rintro ⟨heq, -⟩
      exact List.map_eq_nil_iff.mp heq.symm
  | cons entry rest ih =>
    obtain ⟨keyNode, value⟩ := entry
    rw [run_checkItems_cons_eq_ok_iff]
    constructor
    · rintro ⟨key, others, hkey, hseen, hrest, rfl⟩
      obtain ⟨rfl, rfl, hkeys, hnodup, hnew⟩ := ih.mp hrest
      refine ⟨rfl, rfl, List.forall_mem_cons.mpr ⟨hkey, hkeys⟩, ?_, ?_⟩
      · rw [List.map_cons, List.nodup_cons]
        refine ⟨fun hmem => ?_, hnodup⟩
        obtain ⟨item, hitem, heq⟩ := List.mem_map.mp hmem
        exact hnew item hitem (heq ▸ List.mem_cons_self)
      · exact List.forall_mem_cons.mpr ⟨hseen, fun item hitem hmem =>
          hnew item hitem (List.mem_cons_of_mem _ hmem)⟩
    · rintro ⟨rfl, heq, hkeys, hnodup, hnew⟩
      obtain ⟨item, items, rfl, ⟨⟩, rfl⟩ := List.map_eq_cons_iff.mp heq.symm
      rw [List.forall_mem_cons] at hkeys hnew
      rw [List.map_cons, List.nodup_cons] at hnodup
      refine ⟨item.key, items, hkeys.1, hnew.1, ih.mpr ⟨rfl, rfl, hkeys.2, hnodup.2, ?_⟩, rfl⟩
      -- A key behind is new to those before and different from the first one.
      intro other hother hmem
      rcases List.mem_cons.mp hmem with heq | hmem
      · exact hnodup.1 (List.mem_map.mpr ⟨other, hother, heq⟩)
      · exact hnew.2 other hother hmem

/-- The items of a mapping are those of `HasItems`, and reading them changes nothing. -/
theorem run_items_eq_ok_iff {called : MappingPart} {id : NodeId} {items : List Item} :
    ((ModelReader.items id called).run origin).run s = .ok (items, s') ↔
      s' = s ∧ HasItems s.graph id items := by
  unfold ModelReader.items
  rw [run_graph_bind]
  split
  · rename_i entries hcontent
    rw [run_checkItems_eq_ok_iff]
    constructor
    · rintro ⟨rfl, rfl, hkeys, hnodup, -⟩
      exact ⟨rfl, hcontent, hkeys, hnodup⟩
    · rintro ⟨rfl, hitems⟩
      rw [hitems.content] at hcontent
      cases hcontent
      exact ⟨rfl, rfl, hitems.key, hitems.nodup, fun _ _ => List.not_mem_nil⟩
  · rename_i hnot
    refine iff_of_false run_refuse_ne_ok ?_
    rintro ⟨-, hitems⟩
    exact hnot _ hitems.content

/-- A string is a scalar with the tag of strings. -/
theorem run_string_eq_ok_iff {called : StringPart} {id : NodeId} {text : Text} :
    ((string id called).run origin).run s = .ok (text, s') ↔
      s' = s ∧ (s.graph.node id).content = .scalar text ∧ (s.graph.node id).tag = .str := by
  unfold string
  rw [run_graph_bind]
  dsimp only
  split
  · rename_i t hcontent htag
    rw [run_pure_eq_ok_iff, hcontent, htag]
    refine and_congr_right fun _ => ?_
    constructor
    · rintro rfl
      exact ⟨rfl, rfl⟩
    · rintro ⟨heq, -⟩
      exact (Yaml.Content.scalar.inj heq).symm
  · rename_i hnot
    refine iff_of_false run_refuse_ne_ok ?_
    rintro ⟨-, hcontent, htag⟩
    exact hnot _ hcontent htag

/-- A location is the place of the node in the file. -/
theorem run_location_eq_ok_iff {id : NodeId} {l : Location} :
    ((ModelReader.location id).run origin).run s = .ok (l, s') ↔
      s' = s ∧ l = placeOf origin s.graph id := by
  show ((pure (placeOf origin s.graph id) : Reading Location).run origin).run s = _ ↔ _
  exact run_pure_eq_ok_iff

/-- A value is read if it can be made, and in the same states. -/
theorem run_plainValue_eq_ok_iff {id : NodeId} {v : Value} :
    ((plainValue id).run origin).run s = .ok (v, s') ↔ (Evaluation.value id).run s = .ok (v, s') := by
  constructor
  · intro h
    unfold plainValue at h
    rw [run_getThe_bind] at h
    split at h
    · rename_i v₁ s₁ hrun
      cases h
      exact hrun
    · have hread : (read : Reading Origin).run origin = pure origin := rfl
      rw [ReaderT.run_bind, hread, pure_bind] at h
      -- A fault is refused or passed on, and there is no value either way.
      split at h
      · exact absurd h run_refuse_ne_ok
      · cases h
  · exact plainValue_of_ok

end Steps

/-! ## Documents of any form -/

/-- What merges leave of a document: the texts of keys and strings, and the places of nodes. Merges change
which entries a mapping has, so a view that is to hold at all times says nothing of them. -/
def View.lasting (origin : Origin) (g : Graph) : View where
  items _ items :=
    (items.map Item.key).Nodup ∧ ∀ item ∈ items, (g.node item.keyNode).content = .scalar item.key
  string id text := (g.node id).content = .scalar text
  value _ _ := True
  location := placeOf origin g

/-- Merges leave nodes where they are. -/
theorem placeOf_of_stemsFrom {g g' : Graph} (h : g'.StemsFrom g) (id : NodeId) :
    placeOf origin g' id = placeOf origin g id := by
  unfold placeOf
  rw [h.position]

/-- Whatever has been merged, the reader sees what lasts. -/
theorem reflects_lasting (g : Graph) :
    (View.lasting origin g).Reflects origin (fun _ _ => True) (fun s => s.graph.StemsFrom g) False where
  items called _ s hs := by
    refine ⟨fun items s' hrun => ?_, False.elim⟩
    obtain ⟨rfl, hitems⟩ := run_items_eq_ok_iff.mp hrun
    exact ⟨hs, hitems.nodup, fun item hitem => hs.content _ _ (hitems.key item hitem)⟩
  string called _ s hs := by
    refine ⟨fun text s' hrun => ?_, False.elim⟩
    obtain ⟨rfl, hcontent, -⟩ := run_string_eq_ok_iff.mp hrun
    exact ⟨hs, hs.content _ _ hcontent⟩
  value {id} _ s hs := by
    refine ⟨fun v s' hrun => ⟨?_, trivial⟩, False.elim⟩
    have hrun := run_plainValue_eq_ok_iff.mp hrun
    rcases Evaluation.value_causes id s hs with ⟨v', s₁, hrun', hs'⟩ | ⟨fault, hrun', -⟩
    · rw [hrun] at hrun'
      cases hrun'
      exact hs'
    · rw [hrun] at hrun'
      cases hrun'
  location id s hs := by
    refine ⟨fun l s' hrun => ?_, False.elim⟩
    obtain ⟨rfl, rfl⟩ := run_location_eq_ok_iff.mp hrun
    exact ⟨hs, placeOf_of_stemsFrom hs id⟩
  inside _ _ _ _ _ := trivial
  nodup h := h.1

end ModelReader

namespace Model

open ModelReader Yaml

/-- A document is read from the state in which nothing is known. -/
theorem ofDocument_eq_ok_iff {origin : Origin} {d : Document} {m : Model} :
    ofDocument origin d = .ok m ↔
      ∃ s, ((document d.root).run origin).run (.start d.graph) = .ok (m, s) := by
  unfold ofDocument
  rw [map_eq_ok_iff]
  constructor
  · rintro ⟨⟨_, s⟩, hrun, rfl⟩
    exact ⟨s, hrun⟩
  · rintro ⟨s, hrun⟩
    exact ⟨(m, s), hrun, rfl⟩

/-- A model that is read is the empty one, or what lasts of the document declares it. A text without a
document is read as the empty model. -/
theorem isModel_of_ofText {file text : Text} {m : Model} (h : ofText file text = .ok m) :
    m = .empty ∨ ∃ d, Document.ofText text = .ok (some d) ∧
      (View.lasting ⟨file, text⟩ d.graph).IsModel d.root m := by
  unfold ofText at h
  split at h
  · cases h
    exact Or.inl rfl
  · rename_i d hdocument
    obtain ⟨s, hrun⟩ := ofDocument_eq_ok_iff.mp h
    refine Or.inr ⟨d, hdocument, ?_⟩
    exact ((reads_document (reflects_lasting d.graph) trivial _ (.refl d.graph)).1 m s hrun).2
  · cases h
  · cases h

end Model

end TermAudit
