import Mathlib.Data.List.Induction
import TermAudit.Proofs.Validation

/-!
# `TermAudit.Proofs.Validation.Messages`: what can be read back from a message

A message begins with words about the place of a finding (`Finding.opening`). Behind them it is a list of
texts between apostrophes, the term as it was found and then the suggestions, each with the words in front
of it that say which of the two it is (`Finding.message_eq`). Where no text between apostrophes has an
apostrophe itself, this list can be read back from the end of the message (`flatMap_piece_inj`).

Two findings are worded alike if both the opening and this list are the same. `TextInstance.Indistinct`
says when two texts of a model have the same opening and stand at the same place.
-/

set_option autoImplicit false

namespace TermAudit

/-- The sign that marks a text in a message. -/
def apostrophe : CodePoint := '\''

namespace Text

/-- The last separator begins the last part. -/
theorem append_cons_inj_of_notMem {sep : CodePoint} {before before' after after' : Text}
    (h : sep ∉ after) (h' : sep ∉ after') :
    before ++ sep :: after = before' ++ sep :: after' ↔ before = before' ∧ after = after' := by
  constructor
  · intro heq
    -- Read from the end, the last separator is the first one.
    have hsplit := congrArg (fun t : Text => splitFirst sep t.reverse) heq
    simp only [List.reverse_append, List.reverse_cons, List.append_assoc, List.singleton_append]
      at hsplit
    rw [splitFirst_append _ (by simpa using h), splitFirst_append _ (by simpa using h')] at hsplit
    obtain ⟨hafter, hbefore⟩ := Prod.mk.inj hsplit
    exact ⟨List.reverse_injective (Option.some.inj hbefore), List.reverse_injective hafter⟩
  · rintro ⟨rfl, rfl⟩
    rfl

end Text

/-! ## Texts between apostrophes -/

namespace Suggestions

/-- What a text between apostrophes is in a message: the term, the first suggestion, one that another one
follows, or the last. The words in front of a text are fixed by its role, and the roles can be told from
the words. -/
inductive Role where
  | term
  | first
  | next
  | last
deriving DecidableEq

/-- The words in front of the text. -/
def Role.words : Role → Text
  | .term => " a non-inclusive term "
  | .first => ". Consider using one of the following terms instead: "
  | .next => ", "
  | .last => " and "

/-- The words tell the roles apart from the end. -/
theorem Role.append_words_inj {t t' : Text} {r r' : Role} :
    t ++ r.words = t' ++ r'.words ↔ t = t' ∧ r = r' := by
  constructor
  · intro h
    -- The last two characters are enough.
    have hend (t : Text) (r : Role) : (t ++ r.words).reverse.take 2 = r.words.reverse.take 2 := by
      rw [List.reverse_append, List.take_append_of_le_length (by cases r <;> decide)]
    have hwords : r.words.reverse.take 2 = r'.words.reverse.take 2 := by
      rw [← hend t r, ← hend t' r', h]
    have hr : r = r' := by
      cases r <;> cases r' <;> first | rfl | exact absurd hwords (by decide)
    subst hr
    exact ⟨List.append_cancel_right h, rfl⟩
  · rintro ⟨rfl, rfl⟩
    rfl

/-- A text in a message, with the words in front of it. A message is its opening and then a list of such
pieces. -/
def piece (p : Role × Text) : Text :=
  p.1.words ++ marked p.2

/-- The suggestions behind the first one. The last of them has another role, as the word `and` stands in
front of it. -/
def following : List Text → List (Role × Text)
  | [] => []
  | [t] => [(.last, t)]
  | t :: rest => (.next, t) :: following rest

/-- The suggestions with their roles. There may be none, and then the message ends behind the term. -/
def offers : List Text → List (Role × Text)
  | [] => []
  | t :: rest => (.first, t) :: following rest

/-- The texts behind the first one are all there, in their order. -/
theorem map_snd_following (ts : List Text) : (following ts).map Prod.snd = ts := by
  induction ts using following.induct with
  | case1 => rfl
  | case2 t => rfl
  | case3 t rest hne ih =>
    rw [following, List.map_cons, ih]
    exact hne

/-- The suggestions are all there, in their order. So they can be read back from the list of pieces. -/
theorem map_snd_offers (ts : List Text) : (offers ts).map Prod.snd = ts := by
  cases ts with
  | nil => rfl
  | cons t rest => rw [offers, List.map_cons, map_snd_following]

/-- None of the texts behind the first suggestion has the words of the term in front of it. -/
theorem ne_term_of_mem_following {rest : List Text} {p : Role × Text} (h : p ∈ following rest) :
    p.1 ≠ .term := by
  induction rest using following.induct with
  | case1 => cases h
  | case2 t =>
    rw [List.mem_singleton.mp h]
    nofun
  | case3 t rest hne ih =>
    rw [following] at h
    · rcases List.mem_cons.mp h with rfl | h
      · nofun
      · exact ih h
    · exact hne

/-- No suggestion has the words of the term in front of it. Read from the end, the term is where these words
stand first. -/
theorem ne_term_of_mem_offers {ts : List Text} {p : Role × Text} (h : p ∈ offers ts) :
    p.1 ≠ .term := by
  cases ts with
  | nil => cases h
  | cons t rest =>
    rcases List.mem_cons.mp h with rfl | h
    · nofun
    · exact ne_term_of_mem_following h

/-- In an enumeration each text but the first has words in front of it. -/
theorem enumerated_cons (t : Text) (rest : List Text) :
    enumerated (t :: rest) = marked t ++ (following rest).flatMap piece := by
  induction rest generalizing t with
  | nil => simp [enumerated, following]
  | cons u rest ih =>
    cases rest with
    | nil => simp [enumerated, following, piece, Role.words]
    | cons v rest => simp [enumerated, following, piece, Role.words, ih]

/-- The sentence that offers suggestions, with the full stops around it. -/
theorem sentence_eq (suggestions : List Text) (matched : Text) :
    ("." : Text) ++ sentence suggestions matched =
      (offers (matchCase suggestions matched)).flatMap piece ++ ("." : Text) := by
  cases suggestions with
  | nil => rfl
  | cons t rest =>
    have hwords : ("." : Text) ++ (" Consider using one of the following terms instead: " : Text) =
        Role.first.words := rfl
    unfold sentence matchCase
    rw [if_neg (by simp), List.map_cons, enumerated_cons, offers, List.flatMap_cons, piece, ← hwords]
    simp only [List.append_assoc]

/-- The text between the last two apostrophes can be read back, if it has none itself. -/
theorem append_marked_inj {t t' u u' : Text} (h : apostrophe ∉ u) (h' : apostrophe ∉ u') :
    t ++ marked u = t' ++ marked u' ↔ t = t' ∧ u = u' := by
  have hmarked (t u : Text) : t ++ marked u = t ++ apostrophe :: u ++ [apostrophe] := by
    simp [marked, apostrophe, Text.ofString, Text.ofChars]
  rw [hmarked, hmarked, List.append_cancel_right_eq, Text.append_cons_inj_of_notMem h h']

/-- The last text of a message can be read back. -/
theorem append_piece_inj {t t' : Text} {p p' : Role × Text} (h : apostrophe ∉ p.2)
    (h' : apostrophe ∉ p'.2) : t ++ piece p = t' ++ piece p' ↔ t = t' ∧ p = p' := by
  unfold piece
  rw [← List.append_assoc, ← List.append_assoc, append_marked_inj h h', Role.append_words_inj, and_assoc,
    ← Prod.ext_iff]

/-- All texts of a message can be read back, up to the term. The reading goes from the end, as what stands
before the term can have apostrophes of its own. -/
theorem flatMap_piece_inj {t t' u u' : Text} {ps ps' : List (Role × Text)} (hu : apostrophe ∉ u)
    (hu' : apostrophe ∉ u') (hps : ∀ p ∈ ps, p.1 ≠ .term ∧ apostrophe ∉ p.2)
    (hps' : ∀ p ∈ ps', p.1 ≠ .term ∧ apostrophe ∉ p.2)
    (h : t ++ ((.term, u) :: ps).flatMap piece = t' ++ ((.term, u') :: ps').flatMap piece) :
    t = t' ∧ u = u' ∧ ps = ps' := by
  have hlast (t : Text) (head p : Role × Text) (qs : List (Role × Text)) :
      t ++ (head :: (qs ++ [p])).flatMap piece = t ++ (head :: qs).flatMap piece ++ piece p := by
    simp [List.flatMap_append]
  -- From the end, text by text. On both sides the first text is the term, and no other one is.
  induction ps using List.reverseRecOn generalizing ps' with
  | nil =>
    cases ps' using List.reverseRecOn with
    | nil =>
      rw [List.flatMap_singleton, List.flatMap_singleton, append_piece_inj hu hu'] at h
      exact ⟨h.1, congrArg Prod.snd h.2, rfl⟩
    | append_singleton qs' p' =>
      have hp' := hps' p' (by simp)
      rw [List.flatMap_singleton, hlast, append_piece_inj hu hp'.2] at h
      exact absurd (congrArg Prod.fst h.2).symm hp'.1
  | append_singleton qs p ih =>
    have hp := hps p (by simp)
    cases ps' using List.reverseRecOn with
    | nil =>
      rw [List.flatMap_singleton, hlast, append_piece_inj hp.2 hu'] at h
      exact absurd (congrArg Prod.fst h.2) hp.1
    | append_singleton qs' p' =>
      have hp' := hps' p' (by simp)
      rw [hlast, hlast, append_piece_inj hp.2 hp'.2] at h
      obtain ⟨ht, hueq, hqs⟩ := ih (fun q hq => hps q (List.mem_append_left _ hq))
        (fun q hq => hps' q (List.mem_append_left _ hq)) h.1
      exact ⟨ht, hueq, by rw [hqs, h.2]⟩

end Suggestions

/-! ## Messages -/

namespace Finding

/-- The suggestions as the message has them, in the case of the term that was found. -/
def offered (f : Finding) : List Text :=
  Suggestions.matchCase f.suggestions f.matched

/-- The texts between apostrophes in the two messages are the same, behind what is said about places. The
term in the table need not be the same, as a message has only what was found. -/
structure SameWords (f f' : Finding) : Prop where
  matched : f.matched = f'.matched
  offered : f.offered = f'.offered

/-- No text that the message has between apostrophes, behind what it says about the place, has one itself.
Then each apostrophe marks the start or the end of a text, and the list can be read back. -/
structure IsPlain (f : Finding) : Prop where
  matched : apostrophe ∉ f.matched
  offered : ∀ t ∈ f.offered, apostrophe ∉ t

/-- Whether the texts have apostrophes can be computed. -/
instance (f : Finding) : Decidable f.IsPlain :=
  decidable_of_iff (apostrophe ∉ f.matched ∧ ∀ t ∈ f.offered, apostrophe ∉ t)
    ⟨fun h => ⟨h.1, h.2⟩, fun h => ⟨h.matched, h.offered⟩⟩

variable {f f' : Finding} {opening opening' : Text}

/-- A message is an opening, a list of texts between apostrophes, and a full stop. In this form it can be
taken apart again. -/
theorem message_eq (h : f.opening = .ok opening) : f.message = .ok (opening ++
    ((Suggestions.Role.term, f.matched) :: Suggestions.offers f.offered).flatMap Suggestions.piece
      ++ ("." : Text)) := by
  have hsentence := Suggestions.sentence_eq f.suggestions f.matched
  unfold message
  rw [h]
  show Except.ok _ = _
  rw [List.flatMap_cons, Suggestions.piece, offered]
  simp only [List.append_assoc, ← hsentence]
  rfl

/-- Two messages are the same if and only if the openings are and the texts behind them, as far as these
can be read back. -/
theorem message_eq_iff (h : f.opening = .ok opening) (h' : f'.opening = .ok opening')
    (hreadable : f.SameWords f' ∨ f.IsPlain ∧ f'.IsPlain) :
    f.message = f'.message ↔ opening = opening' ∧ f.SameWords f' := by
  rw [message_eq h, message_eq h', Except.ok.injEq, List.append_cancel_right_eq]
  constructor
  · intro heq
    rcases hreadable with hsame | ⟨hplain, hplain'⟩
    · -- The same texts end both messages, whatever is in them, so they can be taken off.
      rw [hsame.matched, hsame.offered, List.append_cancel_right_eq] at heq
      exact ⟨heq, hsame⟩
    · have hoffers {f : Finding} (hf : f.IsPlain) :
          ∀ p ∈ Suggestions.offers f.offered, p.1 ≠ .term ∧ apostrophe ∉ p.2 := fun p hp =>
        ⟨Suggestions.ne_term_of_mem_offers hp, hf.offered _
          (Suggestions.map_snd_offers f.offered ▸ List.mem_map_of_mem hp)⟩
      obtain ⟨hopening, hmatched, hsame⟩ := Suggestions.flatMap_piece_inj hplain.matched
        hplain'.matched (hoffers hplain) (hoffers hplain') heq
      refine ⟨hopening, hmatched, ?_⟩
      rw [← Suggestions.map_snd_offers f.offered, hsame, Suggestions.map_snd_offers]
  · rintro ⟨rfl, hsame⟩
    rw [hsame.matched, hsame.offered]

end Finding

/-! ## Openings -/

/-- What a message says about the place of a text in the value of a trait. The steps of the path have
slashes between them, so a step with a slash in it looks like two. -/
def Trait.words (t : Trait) (path : List Text) : Text :=
  Suggestions.marked t.idiomaticName ++
    if path.isEmpty then (" trait has a value that contains" : Text)
    else (" trait value at path " : Text) ++ Text.joinWith "/" path ++ (" contains" : Text)

/-- In one trait the joined path decides. -/
theorem Trait.words_eq_iff {t : Trait} {path path' : List Text} : t.words path = t.words path' ↔
    path.isEmpty = path'.isEmpty ∧ Text.joinWith "/" path = Text.joinWith "/" path' := by
  -- Whether there is a path shows right behind the name.
  have hdiffer (joined : Text) : (" trait has a value that contains" : Text) ≠
      (" trait value at path " : Text) ++ joined ++ (" contains" : Text) := by
    intro h
    have := congrArg (List.take 8) h
    rw [List.append_assoc, List.take_append_of_le_length (by decide)] at this
    exact absurd this (by decide)
  unfold words
  rw [List.append_cancel_left_eq]
  cases path with
  | nil =>
    cases path' with
    | nil => exact iff_of_true rfl ⟨rfl, rfl⟩
    | cons => exact iff_of_false (hdiffer _) (fun h => by cases h.1)
  | cons =>
    cases path' with
    | nil => exact iff_of_false (hdiffer _).symm (fun h => by cases h.1)
    | cons =>
      simp only [List.isEmpty_cons, Bool.false_eq_true, if_false, List.append_cancel_right_eq,
        List.append_cancel_left_eq, true_and]

namespace TextInstance

/-- Nothing that a diagnostic says about their places tells the two texts apart. The texts themselves do
not matter here, only where they are and which words a message has for this. -/
inductive Indistinct : TextInstance → TextInstance → Prop
  | ofNamespace (ns : Text) : Indistinct (.ofNamespace ns) (.ofNamespace ns)
  | ofShape {s s' : Shape} (hid : s.id = s'.id) (hlocation : s.location = s'.location)
    (htype : s.type = s'.type) : Indistinct (.ofShape s) (.ofShape s')
  | ofTrait {s s' : Shape} {t t' : Trait} {path path' : List Text} {x x' : Text}
    (hid : s.id = s'.id) (hlocation : t.location = t'.location)
    (hwords : t.words path = t'.words path') : Indistinct (.ofTrait s t path x) (.ofTrait s' t' path' x')

/-- Texts that no diagnostic tells apart by their places have the same location and shape in theirs. -/
theorem Indistinct.origin_eq {i i' : TextInstance} (h : i.Indistinct i') : i.origin = i'.origin := by
  cases h with
  | ofNamespace ns => rfl
  | @ofShape s s' hid hlocation _ =>
    show Except.ok (s.location, some s.id) = Except.ok (s'.location, some s'.id)
    rw [hid, hlocation]
  | @ofTrait s s' t t' _ _ _ _ hid hlocation _ =>
    show Except.ok (t.location, some s.id) = Except.ok (t'.location, some s'.id)
    rw [hid, hlocation]

end TextInstance

/-- The words for kinds of shapes are different ones, and they stay different in capitals. -/
theorem ShapeType.eq_of_capitalize_keyword {type type' : ShapeType}
    (h : type.keyword.capitalize = type'.keyword.capitalize) : type = type' := by
  have hall : ∀ type : ShapeType, type ∈ keywords.map Prod.fst := by
    intro type
    cases type <;> decide
  have hdiffer : ∀ type ∈ keywords.map Prod.fst, ∀ type' ∈ keywords.map Prod.fst,
      type.keyword.capitalize = type'.keyword.capitalize → type = type' := by
    decide +kernel
  exact hdiffer type (hall type) type' (hall type') h

namespace Finding

variable {f f' : Finding} {opening opening' : Text} {location location' : Location}
  {shape shape' : Option ShapeId}

/-- The opening for a namespace names it and nothing else. -/
theorem opening_ofNamespace {ns : Text} (h : f.source = .ofNamespace ns) :
    f.opening = .ok (ns ++ (" namespace uses" : Text)) := by
  unfold opening
  rw [h]
  rfl

/-- The opening for a shape names its type. The shape itself is named by the diagnostic, beside the
message. -/
theorem opening_ofShape {s : Shape} (h : f.source = .ofShape s) :
    f.opening = .ok (s.type.keyword.capitalize ++ (" shape uses" : Text)) := by
  unfold opening
  rw [h]
  rfl

/-- The opening for a text in a trait names the trait and the path. -/
theorem opening_ofTrait {s : Shape} {t : Trait} {path : List Text} {x : Text}
    (h : f.source = .ofTrait s t path x) : f.opening = .ok (t.words path) := by
  unfold opening
  rw [h]
  show (if path.isEmpty = true then _ else _) = _
  unfold Trait.words
  split
  · rfl
  · show Except.ok (_ ++ _ ++ Text.joinWith "/" path ++ _) = _
    simp only [List.append_assoc]

/-- What is said of a shape ends with another word than what is said of a trait. -/
theorem shape_opening_ne {type : ShapeType} {t : Trait} {path : List Text} :
    type.keyword.capitalize ++ (" shape uses" : Text) ≠ t.words path := by
  intro h
  -- Three characters: the two words have the last one in common.
  have hend := congrArg (fun t : Text => t.reverse.take 3) h
  have hwords : (t.words path).reverse.take 3 = (" contains" : Text).reverse.take 3 := by
    unfold Trait.words
    split
    · rw [List.reverse_append, List.take_append_of_le_length (by decide)]
      decide
    · rw [List.reverse_append, List.reverse_append, List.append_assoc,
        List.take_append_of_le_length (by decide)]
  rw [hwords, List.reverse_append, List.take_append_of_le_length (by decide)] at hend
  exact absurd hend (by decide)

/-- Findings in texts that no diagnostic tells apart by their places begin alike. -/
theorem opening_eq_of_indistinct {i i' : TextInstance} (h : i.Indistinct i') (hi : f.source = i)
    (hi' : f'.source = i') : f.opening = f'.opening := by
  cases h with
  | ofNamespace ns => rw [opening_ofNamespace hi, opening_ofNamespace hi']
  | ofShape _ _ htype => rw [opening_ofShape hi, opening_ofShape hi', htype]
  | ofTrait _ _ hwords => rw [opening_ofTrait hi, opening_ofTrait hi', hwords]

/-- Openings and places are the same only of texts that nothing tells apart. -/
theorem indistinct_iff (hplace : f.source.BelongsTo location shape)
    (hplace' : f'.source.BelongsTo location' shape') (h : f.opening = .ok opening)
    (h' : f'.opening = .ok opening') :
    f.source.Indistinct f'.source ↔ opening = opening' ∧ location = location' ∧ shape = shape' := by
  constructor
  · intro hind
    -- A text that belongs somewhere is reported there, so its origin is its place.
    have hopening := opening_eq_of_indistinct hind rfl rfl
    have horigin := hind.origin_eq
    rw [h, h'] at hopening
    rw [TermTable.origin_of_belongsTo hplace, TermTable.origin_of_belongsTo hplace'] at horigin
    obtain ⟨hlocation, hshape⟩ := Prod.mk.inj (Except.ok.inj horigin)
    exact ⟨Except.ok.inj hopening, hlocation, hshape⟩
  · rintro ⟨hopening, hlocation, hshape⟩
    have hsame : f.opening = f'.opening := by rw [h, h', hopening]
    obtain ⟨term, suggestions, matched, i⟩ := f
    obtain ⟨term', suggestions', matched', i'⟩ := f'
    dsimp only at hplace hplace' ⊢
    -- Texts of different kinds have different openings, or one has a shape and the other has none.
    cases hplace with
    | ofNamespace ns =>
      cases hplace' with
      | ofNamespace ns' =>
        rw [opening_ofNamespace rfl, opening_ofNamespace rfl] at hsame
        rw [List.append_cancel_right (Except.ok.inj hsame)]
        exact .ofNamespace ns'
      | ofShape s' => cases hshape
      | ofTrait s' t' path' x' => cases hshape
    | ofShape s =>
      cases hplace' with
      | ofNamespace ns' => cases hshape
      | ofShape s' =>
        rw [opening_ofShape rfl, opening_ofShape rfl] at hsame
        exact .ofShape (Option.some.inj hshape) hlocation
          (ShapeType.eq_of_capitalize_keyword (List.append_cancel_right (Except.ok.inj hsame)))
      | ofTrait s' t' path' x' =>
        rw [opening_ofShape rfl, opening_ofTrait rfl] at hsame
        exact absurd (Except.ok.inj hsame) shape_opening_ne
    | ofTrait s t path x =>
      cases hplace' with
      | ofNamespace ns' => cases hshape
      | ofShape s' =>
        rw [opening_ofTrait rfl, opening_ofShape rfl] at hsame
        exact absurd (Except.ok.inj hsame).symm shape_opening_ne
      | ofTrait s' t' path' x' =>
        rw [opening_ofTrait rfl, opening_ofTrait rfl] at hsame
        exact .ofTrait (Option.some.inj hshape) hlocation (Except.ok.inj hsame)

end Finding

end TermAudit
