import TermAudit.Model.ShapeId

/-!
# `TermAudit.Proofs.Model.ShapeId`: reading and writing shape ids

`ShapeId.parse` reads exactly the texts that `ShapeId.shown` writes for ids whose parts can be told
apart again, and it reads them as these ids:

* `ShapeId.IsProper`: no part is empty, the namespace has no `#` and the name no `$`;
* `ShapeId.parse_eq_ok_iff`: a text is read as an id if the id is proper and the text is its written
  form;
* `ShapeId.parse_inverts_shown`: the texts that are read are those of the two forms `namespace#name` and
  `namespace#name$member`, and reading and writing undo each other.
-/

set_option autoImplicit false

namespace TermAudit

/-- A text without the separator is not cut, and any other one is cut at the first. -/
theorem Text.splitFirst_cases (sep : CodePoint) (t : Text) :
    (sep ∉ t ∧ t.splitFirst sep = (t, none)) ∨
      ∃ before after, sep ∉ before ∧ t = before ++ sep :: after ∧
        t.splitFirst sep = (before, some after) := by
  by_cases h : sep ∈ t
  · obtain ⟨before, after, rfl, hnew⟩ := List.eq_append_cons_of_mem h
    exact Or.inr ⟨before, after, hnew, rfl, splitFirst_append after hnew⟩
  · exact Or.inl ⟨h, splitFirst_of_notMem h⟩

namespace ShapeId

/-- The parts of the id can be told apart in writing: none is empty, the namespace has no `#`, and the
name no `$`. A member may have either sign in it, as it comes last. -/
structure IsProper (id : ShapeId) : Prop where
  ns_ne_nil : id.ns ≠ []
  hash_notMem : CodePoint.ofChar '#' ∉ id.ns
  name_ne_nil : id.name ≠ []
  dollar_notMem : CodePoint.ofChar '$' ∉ id.name
  member_ne_nil : id.member ≠ some []

variable {id id' : ShapeId} {text text' : Text}

/-- What is read is proper and was written like this. -/
theorem proper_of_parse (h : parse text = .ok id) : id.IsProper ∧ text = id.shown := by
  unfold parse at h
  -- The pieces are cut off one by one, and reading goes on only if they are not empty.
  rcases Text.splitFirst_cases '#' text with ⟨-, hsplit⟩ | ⟨ns, rest, hhash, rfl, hsplit⟩
  · rw [hsplit] at h
    cases text <;> cases h
  · rw [hsplit] at h
    cases ns with
    | nil => cases h
    | cons c ns =>
      cases rest with
      | nil => cases h
      | cons d rest =>
        dsimp only at h
        rcases Text.splitFirst_cases '$' (d :: rest) with
          ⟨hdollar, hsplit'⟩ | ⟨name, member, hdollar, heq, hsplit'⟩
        · rw [hsplit'] at h
          cases h
          refine ⟨⟨by simp, hhash, by simp, hdollar, by simp⟩, ?_⟩
          show _ = c :: ns ++ ("#" : Text) ++ d :: rest ++ []
          simp
          rfl
        · rw [hsplit'] at h
          cases name with
          | nil => cases h
          | cons e name =>
            cases member with
            | nil => cases h
            | cons f member =>
              cases h
              refine ⟨⟨by simp, hhash, by simp, hdollar, by simp⟩, ?_⟩
              rw [heq]
              show _ = c :: ns ++ ("#" : Text) ++ e :: name ++ (("$" : Text) ++ f :: member)
              simp
              rfl

/-- The id of a shape in writing. -/
theorem shown_shape (ns name : Text) :
    shown ⟨ns, name, none⟩ = ns ++ CodePoint.ofChar '#' :: name := by
  show ns ++ ("#" : Text) ++ name ++ [] = _
  simp
  rfl

/-- The id of a member in writing. -/
theorem shown_member (ns name member : Text) :
    shown ⟨ns, name, some member⟩ =
      ns ++ CodePoint.ofChar '#' :: (name ++ CodePoint.ofChar '$' :: member) := by
  show ns ++ ("#" : Text) ++ name ++ (("$" : Text) ++ member) = _
  simp
  rfl

/-- A proper id is read back. -/
theorem parse_shown (h : id.IsProper) : parse id.shown = .ok id := by
  obtain ⟨ns, name, member⟩ := id
  obtain ⟨hns, hhash, hname, hdollar, hmember⟩ := h
  dsimp only at hns hhash hname hdollar hmember
  obtain ⟨c, ns, rfl⟩ := List.exists_cons_of_ne_nil hns
  obtain ⟨d, name, rfl⟩ := List.exists_cons_of_ne_nil hname
  -- The namespace has no `#` and the name no `$`, so the id is split where it was put together.
  unfold parse
  cases member with
  | none =>
    rw [shown_shape, Text.splitFirst_append _ hhash]
    dsimp only
    rw [Text.splitFirst_of_notMem hdollar]
  | some member =>
    obtain ⟨e, member, rfl⟩ := List.exists_cons_of_ne_nil fun heq => hmember (congrArg some heq)
    rw [shown_member, Text.splitFirst_append _ hhash]
    dsimp only [List.cons_append]
    rw [← List.cons_append, Text.splitFirst_append _ hdollar]

/-- A text is read as an id if the id is proper and the text is its written form. Both directions are
needed: that nothing else is read, and that every proper id can be. -/
theorem parse_eq_ok_iff : parse text = .ok id ↔ id.IsProper ∧ text = id.shown := by
  constructor
  · exact proper_of_parse
  · rintro ⟨h, rfl⟩
    exact parse_shown h

/-- Different texts are read as different ids. -/
theorem parse_inj (h : parse text = .ok id) (h' : parse text' = .ok id) : text = text' :=
  (proper_of_parse h).2.trans (proper_of_parse h').2.symm

/-- Only an empty member name keeps the id of a member of a proper shape from being proper. -/
theorem withMember_isProper_iff (h : id.IsProper) {name : Text} :
    (id.withMember name).IsProper ↔ name ≠ [] := by
  constructor
  · rintro h' rfl
    exact h'.member_ne_nil rfl
  · intro hname
    refine ⟨h.ns_ne_nil, h.hash_notMem, h.name_ne_nil, h.dollar_notMem, fun heq => hname ?_⟩
    exact Option.some.inj heq

/-- The text has one of the two forms of an id: `namespace#name` or `namespace#name$member`. The first
`#` ends the namespace and the first `$` behind it the name, so there may be further ones. -/
inductive HasForm : Text → Prop
  | shape {ns name : Text} (hns : ns ≠ []) (hhash : CodePoint.ofChar '#' ∉ ns) (hname : name ≠ [])
    (hdollar : CodePoint.ofChar '$' ∉ name) : HasForm (ns ++ CodePoint.ofChar '#' :: name)
  | member {ns name member : Text} (hns : ns ≠ []) (hhash : CodePoint.ofChar '#' ∉ ns)
    (hname : name ≠ []) (hdollar : CodePoint.ofChar '$' ∉ name) (hmember : member ≠ []) :
    HasForm (ns ++ CodePoint.ofChar '#' :: (name ++ CodePoint.ofChar '$' :: member))

/-- The forms are those of proper ids in writing. -/
theorem hasForm_iff : HasForm text ↔ ∃ id : ShapeId, id.IsProper ∧ text = id.shown := by
  constructor
  · rintro (⟨hns, hhash, hname, hdollar⟩ | ⟨hns, hhash, hname, hdollar, hmember⟩)
    · exact ⟨⟨_, _, none⟩, ⟨hns, hhash, hname, hdollar, by simp⟩, (shown_shape _ _).symm⟩
    · refine ⟨⟨_, _, some _⟩, ⟨hns, hhash, hname, hdollar, ?_⟩, (shown_member _ _ _).symm⟩
      exact fun heq => hmember (Option.some.inj heq)
  · rintro ⟨⟨ns, name, member⟩, ⟨hns, hhash, hname, hdollar, hmember⟩, rfl⟩
    cases member with
    | none =>
      rw [shown_shape]
      exact .shape hns hhash hname hdollar
    | some member =>
      rw [shown_member]
      exact .member hns hhash hname hdollar fun heq => hmember (congrArg some heq)

/-- Different proper ids are written in different ways. -/
theorem shown_inj (h : id.IsProper) (h' : id'.IsProper) (heq : id.shown = id'.shown) : id = id' := by
  have hparse := parse_shown h
  rw [heq, parse_shown h'] at hparse
  exact (Except.ok.inj hparse).symm

/-- A text is read as an id exactly if it has the form of one. What is read is a proper id that was written
like this, a proper id is read back from what is written, and so no two proper ids are written alike. The
three parts are told apart by the first `#` and the first `$` behind it, which the parts in front of them
cannot have. -/
theorem parse_inverts_shown :
    (∀ text, (∃ id, parse text = .ok id) ↔ HasForm text) ∧
      (∀ text id, parse text = .ok id → id.IsProper ∧ id.shown = text) ∧
      (∀ id : ShapeId, id.IsProper → parse id.shown = .ok id) ∧
      ∀ id id' : ShapeId, id.IsProper → id'.IsProper → id.shown = id'.shown → id = id' := by
  refine ⟨fun text => ?_, fun text id h => ?_, fun id h => parse_shown h,
    fun id id' h h' heq => shown_inj h h' heq⟩
  · rw [hasForm_iff]
    exact exists_congr fun id => parse_eq_ok_iff
  · obtain ⟨hproper, heq⟩ := proper_of_parse h
    exact ⟨hproper, heq.symm⟩

/-- The theorem at a member whose name, and the name of whose shape, have separators again. -/
theorem parse_inverts_shown_separators :
    (∃ id, parse "a#b#c$d$e#f" = .ok id) ∧
      parse "a#b#c$d$e#f" = .ok ⟨"a", "b#c", some "d$e#f"⟩ ∧
      shown ⟨"a", "b#c", some "d$e#f"⟩ = ("a#b#c$d$e#f" : Text) := by
  have hparse : parse "a#b#c$d$e#f" = .ok ⟨"a", "b#c", some "d$e#f"⟩ := rfl
  obtain ⟨hforms, hread, hwritten, -⟩ := parse_inverts_shown
  obtain ⟨hproper, hshown⟩ := hread _ _ hparse
  refine ⟨(hforms _).mpr ((hforms _).mp ⟨_, hparse⟩), ?_, hshown⟩
  rw [← hwritten _ hproper, hshown]

end ShapeId

end TermAudit
