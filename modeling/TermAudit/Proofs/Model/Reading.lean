import Mathlib.Data.List.Forall2
import TermAudit.Proofs.Model.Described
import TermAudit.Proofs.Loading
import TermAudit.Proofs.Yaml.Values

/-!
# `TermAudit.Proofs.Model.Reading`: the reader of models and the plain data behind a document

Reading a model out of a document whose graph shows a value gives the model that the value describes,
or an error if it describes none (`ModelReader.agrees_document`). `Agrees` is what a step of the reader
and a step on the plain data have in common; it goes through `bind` and `mapM`.

The properties of a member, of a shape and of a model are read in the order in which they come, and
described by their names. `agrees_memberProperties` and its like put the two together by induction over
the properties, with what has been read so far as the default of what is still to come.
-/

set_option autoImplicit false

namespace TermAudit.ModelReader

open Yaml (Graph NodeId Evaluation)

variable {α α' β β' : Type} {g : Graph}

/-! ## Agreement -/

/-- The reader gives something related to the result on plain data, or both fail. The values that have
been made are those that the graph shows. Which error the reader ends with is left open, as plain data
have no places for it. -/
def Agrees (g : Graph) (x : Reading α) (y : Option β) (R : α → β → Prop) : Prop :=
  ∀ origin (s : Evaluation), s.Faithful g →
    (∃ a s' b, (x.run origin).run s = .ok (a, s') ∧ s'.Faithful g ∧ y = some b ∧ R a b) ∨
    ((∃ e, (x.run origin).run s = .error e) ∧ y = none)

/-- A result that is related to the one on plain data. -/
theorem agrees_pure {R : α → β → Prop} {a : α} {b : β} (h : R a b) :
    Agrees g (pure a) (some b) R :=
  fun _ s hs => Or.inl ⟨a, s, b, rfl, hs, rfl, h⟩

/-- Steps agree one after the other if the second ones agree for all results of the first ones that are
related. With it, a computation is followed in the order in which it is written. -/
theorem Agrees.bind {x : Reading α} {y : Option β} {R : α → β → Prop} {k : α → Reading α'}
    {l : β → Option β'} {R' : α' → β' → Prop} (hx : Agrees g x y R)
    (hk : ∀ a b, R a b → Agrees g (k a) (l b) R') : Agrees g (x >>= k) (y >>= l) R' := by
  intro origin s hs
  show (∃ a s' b, ((x.run origin).run s >>= fun r => ((k r.1).run origin).run r.2) = _ ∧ _) ∨ _
  rcases hx origin s hs with ⟨a, s₁, b, hrun, hs₁, rfl, hab⟩ | ⟨⟨e, hrun⟩, rfl⟩
  · rcases hk a b hab origin s₁ hs₁ with ⟨a', s₂, b', hrun', hs₂, hb', hab'⟩ | ⟨⟨e, hrun'⟩, hb'⟩
    · exact Or.inl ⟨a', s₂, b', bind_eq_ok_iff.mpr ⟨_, hrun, hrun'⟩, hs₂, hb', hab'⟩
    · exact Or.inr ⟨⟨e, bind_eq_error_iff.mpr (Or.inr ⟨_, hrun, hrun'⟩)⟩, hb'⟩
  · exact Or.inr ⟨⟨e, bind_eq_error_iff.mpr (Or.inl hrun)⟩, rfl⟩

/-- A step that says nothing about the plain data. -/
theorem Agrees.bind_left {x : Reading α} {k : α → Reading α'} {y : Option β'} {R : α' → β' → Prop}
    (hx : Agrees g x (some ()) fun _ _ => True) (hk : ∀ a, Agrees g (k a) y R) :
    Agrees g (x >>= k) y R :=
  hx.bind (l := fun _ => y) fun a _ _ => hk a

/-- The relation may be replaced by a weaker one, for the one result that there is on plain data. -/
theorem Agrees.of_some {x : Reading α} {b : β} {R R' : α → β → Prop} (hx : Agrees g x (some b) R)
    (himp : ∀ a, R a b → R' a b) : Agrees g x (some b) R' := by
  intro origin s hs
  rcases hx origin s hs with ⟨a, s', b', hrun, hs', hb, hab⟩ | ⟨-, hb⟩
  · cases hb
    exact Or.inl ⟨a, s', b, hrun, hs', rfl, himp a hab⟩
  · cases hb

/-- The same where nothing is known of that result. -/
theorem Agrees.mono {x : Reading α} {y : Option β} {R R' : α → β → Prop} (hx : Agrees g x y R)
    (himp : ∀ a b, R a b → R' a b) : Agrees g x y R' := by
  intro origin s hs
  rcases hx origin s hs with ⟨a, s', b, hrun, hs', hb, hab⟩ | herror
  · exact Or.inl ⟨a, s', b, hrun, hs', hb, himp a b hab⟩
  · exact Or.inr herror

/-- Lists whose elements agree in pairs are read alike. -/
theorem agrees_mapM {R : α → β → Prop} {R' : α' → β' → Prop} {k : α → Reading α'}
    {l : β → Option β'} {as : List α} {bs : List β} (h : List.Forall₂ R as bs)
    (hk : ∀ a b, R a b → Agrees g (k a) (l b) R') :
    Agrees g (as.mapM k) (bs.mapM l) (List.Forall₂ R') := by
  induction h with
  | nil => exact agrees_pure .nil
  | cons hab _ ih =>
    rw [List.mapM_cons, List.mapM_cons]
    exact (hk _ _ hab).bind fun a b hab' => ih.bind fun as bs hs => agrees_pure (.cons hab' hs)

/-- A refusal agrees with having no result. -/
theorem agrees_refuse (id : NodeId) (problem : ModelProblem) (R : α → β → Prop) :
    Agrees g (refuse id problem) none R :=
  fun _ _ _ => Or.inr ⟨⟨_, rfl⟩, rfl⟩

/-- What comes after a refusal does not count. -/
theorem agrees_refuse_bind (id : NodeId) (problem : ModelProblem) (k : α → Reading α')
    (R : α' → β → Prop) : Agrees g (refuse id problem >>= k) none R :=
  fun _ _ _ => Or.inr ⟨⟨_, rfl⟩, rfl⟩

/-- The graph is the one that shows the document. -/
theorem agrees_graph {k : Graph → Reading α} {y : Option β} {R : α → β → Prop}
    (hk : Agrees g (k g) y R) : Agrees g (graph >>= k) y R := by
  intro origin s hs
  have h := hk origin s hs
  rw [← hs.graph] at h
  rw [← hs.graph]
  exact h

/-- A location has nothing to agree with on plain data, which has no places. -/
theorem agrees_location (id : NodeId) : Agrees g (location id) (some ()) fun _ _ => True :=
  fun _ s hs => Or.inl ⟨_, s, (), rfl, hs, rfl, trivial⟩

/-! ## Parts of documents -/

/-- An item is an entry of the plain data. -/
def Item.Shows (g : Graph) (item : Item) (e : Scalar × Value) : Prop :=
  e.1 = .text item.key ∧ g.Shows item.value e.2

/-- The items are the entries of a mapping. -/
def AreItems (g : Graph) (items : List Item) (entries : List (Scalar × Value)) : Prop :=
  List.Forall₂ (Item.Shows g) items entries ∧ (entries.map Prod.fst).Nodup

/-- The items of a mapping are the entries that the graph shows. Induction on the entries: the keys seen
before are none of those to come, so no key is refused as repeated. -/
theorem agrees_checkItems {around : NodeId} {part : MappingPart} {ids : List (NodeId × NodeId)}
    {entries : List (Scalar × Value)} {seen : List Text} (h : g.ShowsEntries around ids entries)
    (hnodup : (entries.map Prod.fst).Nodup)
    (hseen : ∀ t ∈ seen, Scalar.text t ∉ entries.map Prod.fst) :
    Agrees g (checkItems part ids seen) (some entries) (List.Forall₂ (Item.Shows g)) := by
  induction entries generalizing ids seen with
  | nil =>
    obtain rfl : ids = [] := h
    exact agrees_pure .nil
  | cons e entries ih =>
    obtain ⟨keyId, id, rest, t, rfl, hkey, -, -, hshows, -, hvalue, hrest⟩ := h
    obtain ⟨key, value⟩ := e
    dsimp only at hkey hvalue
    subst hkey
    rw [List.map_cons, List.nodup_cons] at hnodup
    -- The keys are different ones, so none is refused as seen before.
    have hnew : t ∉ seen := fun hmem => hseen t hmem (List.mem_cons_self ..)
    unfold checkItems
    refine agrees_graph ?_
    rw [(Graph.ShowsScalar.text_iff.mp hshows).2]
    dsimp only
    rw [if_neg hnew]
    refine Agrees.bind (l := fun es => some ((.text t, value) :: es)) (ih hrest hnodup.2 ?_) ?_
    · intro t' ht' hmem
      rcases List.mem_cons.mp ht' with rfl | ht'
      · exact hnodup.1 hmem
      · exact hseen t' ht' (List.mem_cons_of_mem _ hmem)
    · intro items es hitems
      exact agrees_pure (.cons ⟨rfl, hvalue⟩ hitems)

/-- The entries of a mapping. -/
theorem agrees_items {id : NodeId} {v : Value} (h : g.Shows id v) (part : MappingPart) :
    Agrees g (items id part) v.entries? (AreItems g) := by
  unfold items
  refine agrees_graph ?_
  match v with
  | .scalar s =>
    obtain ⟨t, hcontent⟩ := h.2.exists_content
    rw [hcontent]
    exact agrees_refuse _ _ _
  | .list items =>
    obtain ⟨-, -, ids, hcontent, -⟩ := h
    rw [hcontent]
    exact agrees_refuse _ _ _
  | .mapping entries =>
    obtain ⟨-, -, hnodup, ids, hcontent, hentries⟩ := h
    rw [hcontent]
    -- In front of the first entry no key has been seen.
    have hnew : ∀ t ∈ ([] : List Text), Scalar.text t ∉ entries.map Prod.fst :=
      fun t ht => absurd ht List.not_mem_nil
    exact (agrees_checkItems hentries hnodup hnew).of_some fun items h => ⟨h, hnodup⟩
  | .tuple _ => exact h.elim
  | .set _ => exact h.elim

/-- A string is read from what is shown as a text, and refused in any other case. A scalar of another kind
has another tag, and a list or a mapping another content. -/
theorem agrees_string {id : NodeId} {v : Value} (h : g.Shows id v) (part : StringPart) :
    Agrees g (string id part) v.text? Eq := by
  unfold string
  refine agrees_graph ?_
  dsimp only
  match v with
  | .scalar s =>
    -- What is shown as a text has the tag of strings, and anything else has another one.
    cases h.2 with
    | text t htag hcontent =>
      rw [hcontent, htag]
      exact agrees_pure rfl
    | other _ t hs htag hcontent hscalar =>
      rw [hcontent]
      have hnone : (Value.scalar s).text? = none := by
        cases s with
        | text t' => exact absurd rfl (hs t')
        | _ => rfl
      rw [hnone]
      split
      · rename_i htext
        exact absurd htext htag
      · exact agrees_refuse _ _ _
  | .list items =>
    obtain ⟨-, -, ids, hcontent, -⟩ := h
    rw [hcontent]
    exact agrees_refuse _ _ _
  | .mapping entries =>
    obtain ⟨-, -, -, ids, hcontent, -⟩ := h
    rw [hcontent]
    exact agrees_refuse _ _ _
  | .tuple _ => exact h.elim
  | .set _ => exact h.elim

/-- An id is read from its text alone. -/
theorem agrees_shapeId (text : Text) (id : NodeId) :
    Agrees g (shapeId text id) (Value.writtenId? text) Eq := by
  unfold shapeId Value.writtenId?
  cases ShapeId.parse text with
  | ok shapeId => exact agrees_pure rfl
  | error error => exact agrees_refuse _ _ _

/-- A value is made in full. -/
theorem agrees_plainValue {id : NodeId} {v : Value} (h : g.Shows id v) :
    Agrees g (plainValue id) (some v) Eq := by
  intro origin s hs
  obtain ⟨s', hrun, hs'⟩ := Evaluation.value_of_shows h s hs
  exact Or.inl ⟨v, s', v, plainValue_of_ok hrun, hs', rfl, rfl⟩

/-! ## Traits -/

/-- Traits that are declared somewhere, next to the same ones that are declared nowhere. -/
def areTraits (located unlocated : List Trait) : Prop :=
  located.map Trait.unlocated = unlocated

/-- A trait has the id of its key and the value that is shown, and a location besides. -/
theorem agrees_trait {item : Item} {e : Scalar × Value} (h : item.Shows g e) :
    Agrees g (trait item) (Value.trait? e) fun t t' => t.unlocated = t' := by
  obtain ⟨key, value⟩ := e
  obtain ⟨hkey, hvalue⟩ := h
  dsimp only at hkey hvalue
  subst hkey
  show Agrees g (trait item) (Value.writtenId? (traitKey item.key) >>= fun id =>
    some (⟨id, value, .nowhere⟩ : Trait)) _
  refine (agrees_shapeId _ _).bind ?_
  rintro id _ rfl
  refine Agrees.bind (l := fun v => some (⟨id, v, .nowhere⟩ : Trait)) (agrees_plainValue hvalue) ?_
  rintro v _ rfl
  exact (agrees_location _).bind_left fun location => agrees_pure rfl

/-- Traits that are the same one by one are the same as lists. -/
theorem areTraits_of_forall₂ {located unlocated : List Trait}
    (h : List.Forall₂ (fun t t' => t.unlocated = t') located unlocated) :
    areTraits located unlocated := by
  induction h with
  | nil => rfl
  | cons ht _ ih =>
    unfold areTraits at ih ⊢
    rw [List.map_cons, ht, ih]

/-- So all traits of a shape are read as the plain data says. -/
theorem agrees_traits {id : NodeId} {v : Value} (h : g.Shows id v) :
    Agrees g (traits id) v.traits? areTraits := by
  refine (agrees_items h .traits).bind fun items entries hitems => ?_
  exact (agrees_mapM hitems.1 fun item e hitem => agrees_trait hitem).mono
    fun _ _ => areTraits_of_forall₂

/-! ## Properties -/

/-- A property that comes first is read, and the others are not the same. -/
theorem property_cons {name : String} {read : Value → Option α} {default : α} {key : Text} {v : Value}
    {rest : List (Scalar × Value)} :
    Value.property name read default ((.text key, v) :: rest) =
      if key = Text.ofString name then read v else Value.property name read default rest := by
  unfold Value.property
  rw [List.lookup_cons]
  by_cases hkey : key = Text.ofString name
  · subst hkey
    simp
  · have hne : (Scalar.text (Text.ofString name) == .text key) = false := by
      rw [beq_eq_false_iff_ne]
      exact fun heq => hkey (Scalar.text.inj heq).symm
    rw [hne, if_neg hkey]

/-- A property that is not there has its default. -/
theorem property_of_notMem {name : String} {read : Value → Option α} {default : α}
    {rest : List (Scalar × Value)} (h : Scalar.text (Text.ofString name) ∉ rest.map Prod.fst) :
    Value.property name read default rest = some default := by
  unfold Value.property
  have hnone : rest.lookup (.text (Text.ofString name)) = none := by
    rw [List.lookup_eq_none_iff]
    intro e he
    rw [bne_iff_ne]
    intro heq
    exact h (List.mem_map.mpr ⟨e, he, heq.symm⟩)
  rw [hnone]

/-! ## Members -/

/-- The target that the value of a property names. -/
def target? (v : Value) : Option (Option ShapeId) :=
  some <$> (v.text? >>= Value.writtenId?)

/-- What is known of a member, by the reader and from plain data. -/
def areMemberParts (parts : MemberParts) (r : Option ShapeId × List Trait) : Prop :=
  parts.target = r.1 ∧ areTraits parts.traits r.2

/-- What the properties of a member say, and what is known already where they say nothing. In this form it
can be followed property by property. -/
def memberParts? (entries : List (Scalar × Value)) (target : Option ShapeId) (traits : List Trait) :
    Option (Option ShapeId × List Trait) := do
  let target ← Value.property "target" target? target entries
  let traits ← Value.property "traits" Value.traits? traits entries
  return (target, traits)

section MemberParts

variable {key : Text} {v : Value} {rest : List (Scalar × Value)} {target : Option ShapeId}
  {traits : List Trait}

/-- The target of a member is what its property says, as there is no second one. -/
theorem memberParts?_target (h : Scalar.text (Text.ofString "target") ∉ rest.map Prod.fst) :
    memberParts? ((.text (Text.ofString "target"), v) :: rest) target traits =
      target? v >>= fun target => memberParts? rest target traits := by
  unfold memberParts?
  simp only [property_cons, if_true, property_of_notMem h,
    if_neg (by decide : Text.ofString "target" ≠ Text.ofString "traits")]
  rfl

/-- The same for its traits. -/
theorem memberParts?_traits (h : Scalar.text (Text.ofString "traits") ∉ rest.map Prod.fst) :
    memberParts? ((.text (Text.ofString "traits"), v) :: rest) target traits =
      v.traits? >>= fun traits => memberParts? rest target traits := by
  unfold memberParts?
  simp only [property_cons, if_true, property_of_notMem h,
    if_neg (by decide : Text.ofString "traits" ≠ Text.ofString "target")]
  exact Option.bind_comm _ _

/-- Properties of other names are passed over. -/
theorem memberParts?_other (htarget : key ≠ Text.ofString "target")
    (htraits : key ≠ Text.ofString "traits") :
    memberParts? ((.text key, v) :: rest) target traits = memberParts? rest target traits := by
  unfold memberParts?
  rw [property_cons, property_cons, if_neg htarget, if_neg htraits]

end MemberParts

/-- The properties of a member. What has been read before counts where nothing else is said. -/
theorem agrees_memberProperties {items : List Item} {entries : List (Scalar × Value)}
    (h : AreItems g items entries) {parts : MemberParts} {target : Option ShapeId} {traits : List Trait}
    (hparts : areMemberParts parts (target, traits)) :
    Agrees g (items.foldlM memberProperty parts) (memberParts? entries target traits)
      areMemberParts := by
  obtain ⟨hitems, hnodup⟩ := h
  induction hitems generalizing parts target traits with
  | nil => exact agrees_pure hparts
  | @cons item e items entries hitem hitems ih =>
    obtain ⟨key, v⟩ := e
    obtain ⟨hkey, hvalue⟩ := hitem
    dsimp only at hkey hvalue
    subst hkey
    rw [List.map_cons, List.nodup_cons] at hnodup
    rw [List.foldlM_cons, memberProperty]
    by_cases htarget : item.key = Text.ofString "target"
    · rw [htarget] at hnodup
      rw [htarget, if_pos rfl, memberParts?_target hnodup.1, target?, bind_map_left, bind_assoc,
        bind_assoc]
      refine (agrees_string hvalue .memberTarget).bind ?_
      rintro text _ rfl
      rw [bind_assoc]
      refine (agrees_shapeId text item.value).bind ?_
      rintro id _ rfl
      rw [pure_bind]
      have hread : areMemberParts { parts with target := some id } (some id, traits) :=
        ⟨rfl, hparts.2⟩
      exact ih hread hnodup.2
    rw [if_neg htarget]
    by_cases htraits : item.key = Text.ofString "traits"
    · rw [htraits] at hnodup
      rw [htraits, if_pos rfl, memberParts?_traits hnodup.1, bind_assoc]
      refine (agrees_traits hvalue).bind fun located unlocated htraits' => ?_
      rw [pure_bind]
      have hread : areMemberParts { parts with traits := located } (target, unlocated) :=
        ⟨hparts.1, htraits'⟩
      exact ih hread hnodup.2
    · rw [if_neg htraits, pure_bind, memberParts?_other htarget htraits]
      exact ih hparts hnodup.2

/-- A member. -/
theorem agrees_member {keyNode value : NodeId} {v : Value} (id : ShapeId) (h : g.Shows value v) :
    Agrees g (member id keyNode value) (v.member? id) fun s s' => s.unlocated = s' := by
  refine (agrees_items h (.member id)).bind fun items entries hitems => ?_
  have hparts : (do
      let target ← Value.property "target" target? none entries
      let traits ← Value.property "traits" Value.traits? [] entries
      return (⟨id, .member, traits, [], .nowhere, some (← target)⟩ : Shape)) =
      (memberParts? entries none [] >>= fun r => do
        return (⟨id, .member, r.2, [], .nowhere, some (← r.1)⟩ : Shape)) := by
    unfold memberParts?
    simp only [bind_assoc, pure_bind]
  show Agrees g _ (do
      let target ← Value.property "target" target? none entries
      let traits ← Value.property "traits" Value.traits? [] entries
      return (⟨id, .member, traits, [], .nowhere, some (← target)⟩ : Shape)) _
  rw [hparts]
  have hstart : areMemberParts ⟨none, []⟩ (none, []) := ⟨rfl, rfl⟩
  refine (agrees_memberProperties hitems hstart).bind fun parts r hread => ?_
  obtain ⟨target, traits⟩ := r
  obtain ⟨htarget, htraits⟩ := hread
  dsimp only at htarget htraits
  rw [htarget]
  -- A member without a target is refused at its key; one with a target is declared there.
  cases target with
  | none => exact agrees_refuse _ _ _
  | some target =>
    refine (agrees_location keyNode).bind_left fun location => agrees_pure ?_
    show Shape.mk id .member (parts.traits.map Trait.unlocated) [] .nowhere (some target) = _
    rw [htraits]

/-- A member of this name is read as the plain data says. -/
theorem agrees_namedMember {item : Item} {e : Scalar × Value} (id : ShapeId) (h : item.Shows g e) :
    Agrees g (member (id.withMember item.key) item.keyNode item.value) (Value.namedMember? id e)
      fun s s' => s.unlocated = s' := by
  obtain ⟨key, value⟩ := e
  obtain ⟨hkey, hvalue⟩ := h
  dsimp only at hkey hvalue
  subst hkey
  exact agrees_member _ hvalue

/-- Shapes that are declared somewhere, next to the same ones that are declared nowhere. -/
def areShapes (located unlocated : List Shape) : Prop :=
  Shape.unlocatedAll located = unlocated

/-- Shapes that are the same one by one are the same as lists. -/
theorem areShapes_of_forall₂ {located unlocated : List Shape}
    (h : List.Forall₂ (fun s s' => s.unlocated = s') located unlocated) :
    areShapes located unlocated := by
  induction h with
  | nil => rfl
  | cons hs _ ih =>
    unfold areShapes at ih ⊢
    rw [Shape.unlocatedAll, hs, ih]

/-- Members of several properties stand one after the other on both sides. -/
theorem areShapes_append {before located unlocated before' : List Shape}
    (hbefore : areShapes before before') (h : areShapes located unlocated) :
    areShapes (before ++ located) (before' ++ unlocated) := by
  unfold areShapes at h hbefore ⊢
  induction before generalizing before' with
  | nil =>
    obtain rfl : [] = before' := hbefore
    exact h
  | cons s before ih =>
    subst hbefore
    exact congrArg (List.cons _) (ih rfl)

/-- So all members in a mapping are read as the plain data says. -/
theorem agrees_members {key : Text} {node : NodeId} {v : Value} (id : ShapeId) (h : g.Shows node v) :
    Agrees g (members key id node) (v.entries? >>= fun entries => entries.mapM (Value.namedMember? id))
      areShapes := by
  refine (agrees_items h (.members key)).bind fun items entries hitems => ?_
  exact (agrees_mapM hitems.1 fun item e hitem => agrees_namedMember id hitem).mono
    fun _ _ => areShapes_of_forall₂

/-! ## Shapes -/

/-- A type is read from its word. That of members is refused for shapes. -/
theorem agrees_shapeType {id : NodeId} {v : Value} (h : g.Shows id v) :
    Agrees g (shapeType id) v.type? Eq := by
  refine (agrees_string h .shapeType).bind ?_
  rintro word _ rfl
  cases hword : ShapeType.ofKeyword? word with
  | none => exact agrees_refuse _ _ _
  | some type =>
    by_cases hmember : type = .member
    · subst hmember
      exact agrees_refuse _ _ _
    · show Agrees g _ (if type = .member then none else some type) Eq
      rw [if_neg hmember]
      cases type with
      | member => exact absurd rfl hmember
      | _ => exact agrees_pure rfl

/-- The type that the value of a property names. -/
def type? (v : Value) : Option (Option ShapeType) :=
  some <$> v.type?

/-- What is known of a shape, by the reader and from plain data. -/
def areShapeParts (parts : ShapeParts) (r : Option ShapeType × List Trait × List Shape) : Prop :=
  parts.type = r.1 ∧ areTraits parts.traits r.2.1 ∧ areShapes parts.members r.2.2

/-- The members that a property declares. -/
theorem agrees_membersOf {key : Text} {id : ShapeId} {parts : ShapeParts} {item : Item} {v : Value}
    (h : g.Shows item.value v) (htype : item.key ≠ Text.ofString "type")
    (htraits : item.key ≠ Text.ofString "traits") :
    Agrees g (shapeProperty key id parts item) (Value.membersOf? id (.text item.key, v))
      fun parts' shapes => ∃ located, areShapes located shapes ∧
        parts' = { parts with members := parts.members ++ located } := by
  unfold shapeProperty Value.membersOf?
  dsimp only
  rw [if_neg htype, if_neg htraits]
  by_cases hmembers : item.key = Text.ofString "members"
  · rw [if_pos hmembers, if_pos hmembers, ← bind_pure (v.entries? >>= _)]
    exact (agrees_members id h).bind fun located unlocated hshapes =>
      agrees_pure ⟨located, hshapes, rfl⟩
  · rw [if_neg hmembers, if_neg hmembers]
    by_cases hsingle : (singleMembers.any fun name => Text.ofString name = item.key) = true
    · rw [if_pos hsingle, if_pos hsingle]
      have hitem : item.Shows g (.text item.key, v) := ⟨rfl, h⟩
      refine (agrees_namedMember id hitem).bind fun located unlocated hshape => agrees_pure ?_
      exact ⟨[located], areShapes_of_forall₂ (.cons hshape .nil), rfl⟩
    · rw [if_neg hsingle, if_neg hsingle]
      refine agrees_pure ⟨[], rfl, ?_⟩
      rw [List.append_nil]

/-- What properties say about a shape: its type and its traits, unless they are known already, and
members behind those that are known. -/
def shapeParts? (id : ShapeId) (entries : List (Scalar × Value)) (type : Option ShapeType)
    (traits : List Trait) (before : List Shape) :
    Option (Option ShapeType × List Trait × List Shape) := do
  let type ← Value.property "type" type? type entries
  let traits ← Value.property "traits" Value.traits? traits entries
  let members ← entries.mapM (Value.membersOf? id)
  return (type, traits, before ++ members.flatten)

section ShapeParts

variable {id : ShapeId} {key : Text} {v : Value} {rest : List (Scalar × Value)}
  {type : Option ShapeType} {traits : List Trait} {before : List Shape}

/-- The type of a shape is what its property says, as there is no second one. -/
theorem shapeParts?_type (h : Scalar.text (Text.ofString "type") ∉ rest.map Prod.fst) :
    shapeParts? id ((.text (Text.ofString "type"), v) :: rest) type traits before =
      v.type? >>= fun type => shapeParts? id rest (some type) traits before := by
  have hmembers : Value.membersOf? id (.text (Text.ofString "type"), v) = some [] := by
    unfold Value.membersOf?
    dsimp only
    rw [if_neg (by decide), if_neg (by decide)]
  unfold shapeParts?
  simp only [property_cons, if_true, if_neg (by decide : Text.ofString "type" ≠ Text.ofString "traits"),
    property_of_notMem h, List.mapM_cons, hmembers]
  unfold type?
  cases v.type? with
  | none => rfl
  | some t => cases rest.mapM (Value.membersOf? id) <;> rfl

/-- The same for its traits. -/
theorem shapeParts?_traits (h : Scalar.text (Text.ofString "traits") ∉ rest.map Prod.fst) :
    shapeParts? id ((.text (Text.ofString "traits"), v) :: rest) type traits before =
      v.traits? >>= fun traits => shapeParts? id rest type traits before := by
  have hmembers : Value.membersOf? id (.text (Text.ofString "traits"), v) = some [] := by
    unfold Value.membersOf?
    dsimp only
    rw [if_neg (by decide), if_neg (by decide)]
  unfold shapeParts?
  simp only [property_cons, if_true, if_neg (by decide : Text.ofString "traits" ≠ Text.ofString "type"),
    property_of_notMem h, List.mapM_cons, hmembers]
  cases v.traits? with
  | none => cases Value.property "type" type? type rest <;> rfl
  | some traits => cases rest.mapM (Value.membersOf? id) <;> rfl

/-- Any other property gives the members that it declares, which may be none. -/
theorem shapeParts?_members (htype : key ≠ Text.ofString "type")
    (htraits : key ≠ Text.ofString "traits") :
    shapeParts? id ((.text key, v) :: rest) type traits before =
      Value.membersOf? id (.text key, v) >>= fun members =>
        shapeParts? id rest type traits (before ++ members) := by
  unfold shapeParts?
  simp only [property_cons, if_neg htype, if_neg htraits, List.mapM_cons]
  -- Whatever fails first, nothing comes of the properties.
  cases Value.membersOf? id (.text key, v) with
  | none =>
    cases Value.property "type" type? type rest with
    | none => rfl
    | some _ => cases Value.property "traits" Value.traits? traits rest <;> rfl
  | some members =>
    cases rest.mapM (Value.membersOf? id) with
    | none => rfl
    | some others =>
      simp only [List.append_assoc]
      rfl

end ShapeParts

/-- The properties of a shape, of which something may have been read before. -/
theorem agrees_shapeProperties {key : Text} {id : ShapeId} {items : List Item}
    {entries : List (Scalar × Value)} (h : AreItems g items entries) {parts : ShapeParts}
    {type : Option ShapeType} {traits : List Trait} {before : List Shape}
    (hparts : areShapeParts parts (type, traits, before)) :
    Agrees g (items.foldlM (shapeProperty key id) parts)
      (shapeParts? id entries type traits before) areShapeParts := by
  obtain ⟨hitems, hnodup⟩ := h
  induction hitems generalizing parts type traits before with
  | nil =>
    -- Without further properties what has been read is all that counts.
    unfold shapeParts?
    rw [List.mapM_nil]
    refine agrees_pure ?_
    rw [List.flatten_nil, List.append_nil]
    exact hparts
  | @cons item e items entries hitem hitems ih =>
    obtain ⟨k, v⟩ := e
    obtain ⟨hkey, hvalue⟩ := hitem
    dsimp only at hkey hvalue
    subst hkey
    rw [List.map_cons, List.nodup_cons] at hnodup
    rw [List.foldlM_cons]
    by_cases htype : item.key = Text.ofString "type"
    · rw [htype] at hnodup
      unfold shapeProperty
      rw [htype, if_pos rfl, shapeParts?_type hnodup.1, bind_assoc]
      refine (agrees_shapeType hvalue).bind ?_
      rintro type _ rfl
      rw [pure_bind]
      exact ih ⟨rfl, hparts.2⟩ hnodup.2
    · by_cases htraits : item.key = Text.ofString "traits"
      · rw [htraits] at hnodup
        unfold shapeProperty
        rw [if_neg htype, htraits, if_pos rfl, shapeParts?_traits hnodup.1, bind_assoc]
        refine (agrees_traits hvalue).bind fun located unlocated htraits' => ?_
        rw [pure_bind]
        exact ih ⟨hparts.1, htraits', hparts.2.2⟩ hnodup.2
      · rw [shapeParts?_members htype htraits]
        refine (agrees_membersOf hvalue htype htraits).bind ?_
        rintro _ shapes ⟨located, hshapes, rfl⟩
        exact ih ⟨hparts.1, hparts.2.1, areShapes_append hparts.2.2 hshapes⟩ hnodup.2

/-- A shape. -/
theorem agrees_shape {item : Item} {e : Scalar × Value} (h : item.Shows g e) :
    Agrees g (shape item) (Value.shape? e) fun s s' => s.unlocated = s' := by
  obtain ⟨key, v⟩ := e
  obtain ⟨hkey, hvalue⟩ := h
  dsimp only at hkey hvalue
  subst hkey
  unfold shape Value.shape?
  dsimp only
  refine (agrees_shapeId item.key item.keyNode).bind ?_
  rintro id _ rfl
  by_cases hmember : id.member.isSome = true
  · rw [if_pos hmember, if_pos hmember]
    exact agrees_refuse item.keyNode (.memberAtTop item.key) _
  · rw [if_neg hmember, if_neg hmember]
    refine (agrees_items hvalue (.shape item.key)).bind fun items entries hitems => ?_
    have hspec : (do
        let type ← Value.property "type" type? none entries
        let traits ← Value.property "traits" Value.traits? [] entries
        let members ← entries.mapM (Value.membersOf? id)
        return (⟨id, ← type, traits, members.flatten, .nowhere, none⟩ : Shape)) =
        (shapeParts? id entries none [] [] >>= fun r => do
          return (⟨id, ← r.1, r.2.1, r.2.2, .nowhere, none⟩ : Shape)) := by
      simp only [shapeParts?, bind_assoc, pure_bind, List.nil_append]
    show Agrees g _ (do
        let type ← Value.property "type" type? none entries
        let traits ← Value.property "traits" Value.traits? [] entries
        let members ← entries.mapM (Value.membersOf? id)
        return (⟨id, ← type, traits, members.flatten, .nowhere, none⟩ : Shape)) _
    rw [hspec]
    have hstart : areShapeParts ⟨none, [], []⟩ (none, [], []) := ⟨rfl, rfl, rfl⟩
    refine (agrees_shapeProperties hitems hstart).bind ?_
    rintro parts ⟨type, traits, members⟩ ⟨htype, htraits, hmembers⟩
    dsimp only at htype htraits hmembers
    rw [htype]
    cases type with
    | none => exact agrees_refuse _ _ _
    | some type =>
      -- The key declares the shape where it stands.
      refine (agrees_location item.keyNode).bind_left fun location => agrees_pure ?_
      show Shape.mk id type (parts.traits.map Trait.unlocated) (Shape.unlocatedAll parts.members)
        .nowhere none = _
      rw [htraits, hmembers]

/-! ## Documents -/

/-- What properties say about a model, where something is known already of its metadata and its
shapes. -/
def modelParts? (entries : List (Scalar × Value)) (shapes : List Shape)
    (metadata : List (Scalar × Value)) : Option Model :=
  if entries.all fun e => Value.modelProperties.any fun name => e.1 = .text name then do
    let _ ← Value.property "smithy" (fun v => some <$> v.text?) none entries
    let metadata ← Value.property "metadata" Value.entries? metadata entries
    let shapes ← Value.property "shapes" Value.shapes? shapes entries
    return ⟨shapes, metadata⟩
  else none

section ModelParts

variable {key : Text} {v : Value} {rest : List (Scalar × Value)} {shapes : List Shape}
  {metadata : List (Scalar × Value)}

/-- A property that a model may have says nothing about which others there are. -/
theorem all_modelProperties_cons {name : String} (h : name ∈ Value.modelProperties) :
    (((Scalar.text name, v) :: rest).all fun e =>
      Value.modelProperties.any fun name => e.1 = .text name) =
      rest.all fun e => Value.modelProperties.any fun name => e.1 = .text name := by
  have hany : (Value.modelProperties.any fun name' => Scalar.text name = .text name') = true :=
    List.any_eq_true.mpr ⟨name, h, decide_eq_true rfl⟩
  rw [List.all_cons, hany, Bool.true_and]

/-- The version is read and has no influence on the model. -/
theorem modelParts?_smithy (h : Scalar.text (Text.ofString "smithy") ∉ rest.map Prod.fst) :
    modelParts? ((.text (Text.ofString "smithy"), v) :: rest) shapes metadata =
      v.text? >>= fun _ => modelParts? rest shapes metadata := by
  unfold modelParts?
  rw [all_modelProperties_cons (by decide)]
  simp only [property_cons, if_true, property_of_notMem h,
    if_neg (by decide : Text.ofString "smithy" ≠ Text.ofString "metadata"),
    if_neg (by decide : Text.ofString "smithy" ≠ Text.ofString "shapes")]
  cases v.text? with
  | none => split <;> rfl
  | some t => rfl

/-- The metadata are what their property says. -/
theorem modelParts?_metadata (h : Scalar.text (Text.ofString "metadata") ∉ rest.map Prod.fst) :
    modelParts? ((.text (Text.ofString "metadata"), v) :: rest) shapes metadata =
      v.entries? >>= fun metadata => modelParts? rest shapes metadata := by
  unfold modelParts?
  rw [all_modelProperties_cons (by decide)]
  simp only [property_cons, if_true, property_of_notMem h,
    if_neg (by decide : Text.ofString "metadata" ≠ Text.ofString "smithy"),
    if_neg (by decide : Text.ofString "metadata" ≠ Text.ofString "shapes")]
  cases v.entries? with
  | none =>
    split
    · cases Value.property "smithy" (fun v => some <$> v.text?) none rest <;> rfl
    · rfl
  | some metadata => rfl

/-- So are the shapes. -/
theorem modelParts?_shapes (h : Scalar.text (Text.ofString "shapes") ∉ rest.map Prod.fst) :
    modelParts? ((.text (Text.ofString "shapes"), v) :: rest) shapes metadata =
      v.shapes? >>= fun shapes => modelParts? rest shapes metadata := by
  unfold modelParts?
  rw [all_modelProperties_cons (by decide)]
  simp only [property_cons, if_true, property_of_notMem h,
    if_neg (by decide : Text.ofString "shapes" ≠ Text.ofString "smithy"),
    if_neg (by decide : Text.ofString "shapes" ≠ Text.ofString "metadata")]
  cases v.shapes? with
  | none =>
    split
    · cases Value.property "smithy" (fun v => some <$> v.text?) none rest with
      | none => rfl
      | some _ => cases Value.property "metadata" Value.entries? metadata rest <;> rfl
    · rfl
  | some shapes => rfl

/-- A model has no other properties. -/
theorem modelParts?_other (hsmithy : key ≠ Text.ofString "smithy")
    (hmetadata : key ≠ Text.ofString "metadata") (hshapes : key ≠ Text.ofString "shapes") :
    modelParts? ((.text key, v) :: rest) shapes metadata = none := by
  have hany : (Value.modelProperties.any fun name => Scalar.text key = .text name) = false := by
    simp [Value.modelProperties, hsmithy, hmetadata, hshapes]
  unfold modelParts?
  rw [List.all_cons, hany, Bool.false_and]
  rfl

end ModelParts

/-- A part of a document. -/
theorem agrees_documentParts {items : List Item} {entries : List (Scalar × Value)}
    (h : AreItems g items entries) {m : Model} {shapes : List Shape} (hm : areShapes m.shapes shapes) :
    Agrees g (items.foldlM documentPart m) (modelParts? entries shapes m.metadata)
      fun m m' => m.unlocated = m' := by
  obtain ⟨hitems, hnodup⟩ := h
  induction hitems generalizing m shapes with
  | nil =>
    refine agrees_pure ?_
    unfold Model.unlocated
    rw [hm]
  | @cons item e items entries hitem hitems ih =>
    obtain ⟨k, v⟩ := e
    obtain ⟨hkey, hvalue⟩ := hitem
    dsimp only at hkey hvalue
    subst hkey
    rw [List.map_cons, List.nodup_cons] at hnodup
    rw [List.foldlM_cons, documentPart]
    by_cases hsmithy : item.key = Text.ofString "smithy"
    · rw [hsmithy] at hnodup
      -- The version has to be a text, and says nothing else.
      rw [hsmithy, if_pos rfl, modelParts?_smithy hnodup.1, bind_assoc]
      refine (agrees_string hvalue .version).bind fun _ _ _ => ?_
      rw [pure_bind]
      exact ih hm hnodup.2
    rw [if_neg hsmithy]
    by_cases hmetadata : item.key = Text.ofString "metadata"
    · rw [hmetadata] at hnodup
      rw [hmetadata, if_pos rfl, modelParts?_metadata hnodup.1, bind_assoc]
      have hmade : Agrees g (plainValue item.value) (some v) Eq := agrees_plainValue hvalue
      refine Agrees.bind (l := fun v => v.entries? >>= fun metadata =>
        modelParts? entries shapes metadata) hmade ?_
      rintro w _ rfl
      -- The value is made in full first, so a fault inside of it comes before its kind is looked at.
      cases w with
      | mapping metadata =>
        rw [pure_bind]
        exact ih (m := ⟨m.shapes, metadata⟩) hm hnodup.2
      | _ => exact agrees_refuse_bind _ _ _ _
    rw [if_neg hmetadata]
    by_cases hshapes : item.key = Text.ofString "shapes"
    · rw [hshapes] at hnodup
      rw [hshapes, if_pos rfl, modelParts?_shapes hnodup.1, bind_assoc, Value.shapes?, bind_assoc]
      refine (agrees_items hvalue .shapes).bind fun items' entries' hitems' => ?_
      rw [bind_assoc]
      refine (agrees_mapM hitems'.1 fun _ _ hitem => agrees_shape hitem).bind ?_
      intro located unlocated hread
      rw [pure_bind]
      exact ih (areShapes_of_forall₂ hread) hnodup.2
    -- A key that no model has is refused.
    rw [if_neg hshapes, modelParts?_other hsmithy hmetadata hshapes]
    exact agrees_refuse_bind _ _ _ _

/-- A document: the reader makes the model that its plain data describe, but for the places in it, or
fails if they describe none. -/
theorem agrees_document {root : NodeId} {v : Value} (h : g.Shows root v) :
    Agrees g (document root) v.model? fun m m' => m.unlocated = m' := by
  refine (agrees_items h .document).bind fun items entries hitems => ?_
  exact agrees_documentParts hitems rfl

end TermAudit.ModelReader
