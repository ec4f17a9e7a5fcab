import TermAudit.Proofs.Json.Tokens
import TermAudit.Proofs.Yaml.Grammar

/-!
# `TermAudit.Proofs.Json.Events`: the events of a JSON text

`Document.happenings` lists what happens in a JSON text. `Document.events` is the main theorem: these
are the events of the text if it is scannable and all its keys fit, and else a fault ends them.
-/

set_option autoImplicit false

namespace TermAudit.JsonText

open Yaml (Lexeme Tokens Events Event Happening ScalarForm Fault)
open Yaml.Grammar (Machine State)
open Yaml.Grammar.Machine (separator)

/-! ## Happenings -/

/-- A scalar of the form without anchor and tag. -/
def bareScalar (form : ScalarForm) (content : Text) : Happening :=
  .scalar ⟨none, none⟩ form content

mutual

/-- What happens in a value when it is parsed in flow style: each word and string is a scalar, and each
array or object a collection with a start and an end. No node has an anchor or a tag, as JSON has none. -/
def Tree.happenings : Tree → List Happening
  | .null => [bareScalar .byText (.ofChars "null".toList)]
  | .bool true => [bareScalar .byText (.ofChars "true".toList)]
  | .bool false => [bareScalar .byText (.ofChars "false".toList)]
  | .number n => [bareScalar .byText (.ofChars n.chars)]
  | .string s => [bareScalar .string (JsonString.reading s)]
  | .emptyArray _ => [.sequenceStart ⟨none, none⟩, .sequenceEnd]
  | .array items => .sequenceStart ⟨none, none⟩ :: items.happenings ++ [.sequenceEnd]
  | .emptyObject _ => [.mappingStart ⟨none, none⟩, .mappingEnd]
  | .object members => .mappingStart ⟨none, none⟩ :: members.happenings ++ [.mappingEnd]

/-- What happens in items, one after the other. The commas between them leave no trace. -/
def Items.happenings : Items → List Happening
  | .last _ item _ => item.happenings
  | .more _ item _ rest => item.happenings ++ rest.happenings

/-- What happens in members: a scalar for the key and then the value, for each of them. -/
def Members.happenings : Members → List Happening
  | .last _ key _ _ item _ => bareScalar .string (JsonString.reading key) :: item.happenings
  | .more _ key _ _ item _ rest =>
    bareScalar .string (JsonString.reading key) :: item.happenings ++ rest.happenings

end

/-- What happens in a document. Its start is not marked in the text, and neither is its end, so both are
implied by what is there. -/
def Document.happenings (d : Document) : List Happening :=
  .documentStart :: d.root.happenings ++ [.documentEnd, .streamEnd]

/-! ## Where values begin -/

/-- Every value begins with a lexeme that begins a node. -/
theorem Tree.exists_lexeme (t : Tree) :
    ∃ lexeme lexemes, t.lexemes = lexeme :: lexemes ∧ lexeme.startsNode = true := by
  match t with
  | .null => exact ⟨_, _, rfl, rfl⟩
  | .bool true => exact ⟨_, _, rfl, rfl⟩
  | .bool false => exact ⟨_, _, rfl, rfl⟩
  | .number n => exact ⟨_, _, rfl, rfl⟩
  | .string s => exact ⟨_, _, rfl, rfl⟩
  | .emptyArray _ => exact ⟨_, _, rfl, rfl⟩
  | .array items => exact ⟨_, _, rfl, rfl⟩
  | .emptyObject _ => exact ⟨_, _, rfl, rfl⟩
  | .object members => exact ⟨_, _, rfl, rfl⟩

variable {m : Machine} {fault : Option Fault} {state : State} {stack : List State}
  {lexemes : List Lexeme}

/-- An item is read like the root of a document. -/
theorem outcome_of_item {t : Tree} {first : Bool} {happenings : List Happening} {fits : Bool}
    {stack' : List State} {lexemes' : List Lexeme}
    (h : m.Stands fault (.flowSequenceEntry first) stack (separator first ++ (t.lexemes ++ lexemes)))
    (ht : ∀ m₀ : Machine,
      m₀.Stands fault .blockNode (.flowSequenceEntry false :: stack) (t.lexemes ++ lexemes) →
      m₀.Outcome happenings fits state stack' lexemes') :
    m.Outcome happenings fits state stack' lexemes' := by
  obtain ⟨lexeme, more, heq, hstarts⟩ := t.exists_lexeme
  rw [heq] at h ht
  obtain ⟨m₀, hlike, hstands⟩ := Machine.exists_actsLike_item hstarts h
  exact hlike.outcome (ht m₀ hstands)

/-- A key, which has to fit, and a value, which is read like the root of a document. -/
theorem outcome_of_member {key : JsonString} {behind : Gap} {t : Tree} {first : Bool}
    {happenings : List Happening} {fits : Bool} {stack' : List State} {lexemes' : List Lexeme}
    (h : m.Stands fault (.flowMappingKey first) stack
      (separator first ++ (keyLexemes key behind ++ (t.lexemes ++ lexemes))))
    (ht : ∀ m₀ : Machine,
      m₀.Stands fault .blockNode (.flowMappingKey false :: stack) (t.lexemes ++ lexemes) →
      m₀.Outcome happenings fits state stack' lexemes') :
    m.Outcome (bareScalar .string (JsonString.reading key) :: happenings)
      (JsonString.fitsKey key behind && fits) state stack' lexemes' := by
  have hfault := h.fault
  obtain ⟨lexeme, more, heq, hstarts⟩ := t.exists_lexeme
  unfold keyLexemes at h
  cases hfits : JsonString.fitsKey key behind with
  | true =>
    rw [hfits] at h
    -- The mark of a key is passed, the key is a scalar, and then the mark of a value is passed.
    obtain ⟨m₀, hlike, h₀⟩ := Machine.exists_actsLike_key h
    refine hlike.outcome ((Machine.outcome_of_scalar h₀).bind fun m₁ h₁ => ?_)
    rw [heq] at h₁ ht
    obtain ⟨m₂, hlike', h₂⟩ := Machine.exists_actsLike_value hstarts h₁
    refine hlike'.outcome (ht m₂ ?_)
    rw [← hfault, ← hlike.fault]
    exact h₂
  | false =>
    rw [hfits] at h
    -- A key that does not fit has got no mark, and a mapping cannot go on without one.
    exact Machine.outcome_of_unmarkedKey h

mutual

/-- The events of a value. -/
theorem Tree.run (t : Tree) {m : Machine} {fault : Option Fault} {state : State}
    {stack : List State} {lexemes : List Lexeme}
    (h : m.Stands fault .blockNode (state :: stack) (t.lexemes ++ lexemes)) :
    m.Outcome t.happenings t.keysFit state stack lexemes := by
  match t with
  | .null => exact Machine.outcome_of_scalar h
  | .bool true => exact Machine.outcome_of_scalar h
  | .bool false => exact Machine.outcome_of_scalar h
  | .number n => exact Machine.outcome_of_scalar h
  | .string s => exact Machine.outcome_of_scalar h
  | .emptyArray _ =>
    exact (Machine.outcome_of_sequenceStart h).bind fun m₁ h₁ => Machine.outcome_of_sequenceEnd h₁
  | .array items =>
    have h : m.Stands fault .blockNode (state :: stack)
        (.flowSequenceStart :: (items.lexemes ++ .flowSequenceEnd :: lexemes)) := by
      rw [Tree.lexemes, List.append_assoc] at h
      exact h
    exact (Machine.outcome_of_sequenceStart h).bind fun m₁ h₁ => items.run true h₁
  | .emptyObject _ =>
    exact (Machine.outcome_of_mappingStart h).bind fun m₁ h₁ => Machine.outcome_of_mappingEnd h₁
  | .object members =>
    have h : m.Stands fault .blockNode (state :: stack)
        (.flowMappingStart :: (members.lexemes ++ .flowMappingEnd :: lexemes)) := by
      rw [Tree.lexemes, List.append_assoc] at h
      exact h
    exact (Machine.outcome_of_mappingStart h).bind fun m₁ h₁ => members.run true h₁

/-- The events of items and the end of their array. -/
theorem Items.run (items : Items) {m : Machine} {fault : Option Fault} {state : State}
    {stack : List State} {lexemes : List Lexeme} (first : Bool)
    (h : m.Stands fault (.flowSequenceEntry first) (state :: stack)
      (separator first ++ (items.lexemes ++ .flowSequenceEnd :: lexemes))) :
    m.Outcome (items.happenings ++ [.sequenceEnd]) items.keysFit state stack lexemes := by
  match items with
  | .last _ item _ =>
    refine outcome_of_item h fun m₀ h₀ => ?_
    have hall := (item.run h₀).bind fun m₁ h₁ => Machine.outcome_of_sequenceEnd h₁
    rw [Bool.and_true] at hall
    exact hall
  | .more _ item _ rest =>
    have h : m.Stands fault (.flowSequenceEntry first) (state :: stack)
        (separator first ++ (item.lexemes ++
          .flowEntry :: (rest.lexemes ++ .flowSequenceEnd :: lexemes))) := by
      rw [Items.lexemes, List.append_assoc] at h
      exact h
    refine outcome_of_item h fun m₀ h₀ => ?_
    rw [Items.happenings, List.append_assoc]
    exact (item.run h₀).bind fun m₁ h₁ => rest.run false h₁

/-- The events of members and the end of their object. -/
theorem Members.run (members : Members) {m : Machine} {fault : Option Fault} {state : State}
    {stack : List State} {lexemes : List Lexeme} (first : Bool)
    (h : m.Stands fault (.flowMappingKey first) (state :: stack)
      (separator first ++ (members.lexemes ++ .flowMappingEnd :: lexemes))) :
    m.Outcome (members.happenings ++ [.mappingEnd]) members.keysFit state stack lexemes := by
  match members with
  | .last _ key behindKey _ item _ =>
    have h : m.Stands fault (.flowMappingKey first) (state :: stack)
        (separator first ++ (keyLexemes key behindKey ++
          (item.lexemes ++ .flowMappingEnd :: lexemes))) := by
      rw [Members.lexemes, List.append_assoc] at h
      exact h
    have hall := (outcome_of_member h fun m₀ h₀ => item.run h₀).bind
      fun m₁ h₁ => Machine.outcome_of_mappingEnd h₁
    rw [Bool.and_true] at hall
    exact hall
  | .more _ key behindKey _ item _ rest =>
    have h : m.Stands fault (.flowMappingKey first) (state :: stack)
        (separator first ++ (keyLexemes key behindKey ++
          (item.lexemes ++ .flowEntry :: (rest.lexemes ++ .flowMappingEnd :: lexemes)))) := by
      rw [Members.lexemes, List.append_assoc, List.append_assoc] at h
      exact h
    rw [Members.happenings, List.append_assoc]
    exact (outcome_of_member h fun m₀ h₀ => item.run h₀).bind fun m₁ h₁ => rest.run false h₁

end

/-! ## Documents -/

namespace Document

/-- Tokens that spell a document are lexemes for the automaton, with no fault behind them. -/
theorem feeds_of_spells {d : Document} {t : Tokens} (h : t.Spells d.lexemes) :
    (Events.start t).Feeds (d.root.lexemes ++ [.streamEnd]) := by
  refine ⟨[], ?_, ?_⟩
  · rw [List.append_nil]
    exact h.items
  · show t.fault.isNone = true
    rw [h.fault]
    rfl

/-- Tokens that end with a fault are lexemes up to there. -/
theorem feeds_of_breaks {d : Document} {t : Tokens} (h : t.Breaks d.root.lexemes) :
    (Events.start t).Feeds (d.root.lexemes ++ [.streamEnd]) := by
  obtain ⟨missing, hmissing⟩ := h.items
  refine ⟨missing ++ [.streamEnd], ?_, ?_⟩
  · rw [← List.append_assoc, ← hmissing]
    rfl
  · obtain ⟨fault, hfault⟩ := Option.isSome_iff_exists.mp h.fault
    show t.fault.isNone = _
    rw [hfault]
    cases missing
    · rfl
    · rfl

/-- The tokens of a JSON text give its events if all of them are there and all keys fit, and else a
fault ends the events. -/
theorem events_of_tokens (d : Document) {t : Tokens}
    (h : (d.isScannable = true ∧ t.Spells d.lexemes) ∨
      (d.isScannable = false ∧ t.Breaks d.root.lexemes)) :
    (d.isScannable = true ∧ d.root.keysFit = true ∧ (Events.ofTokens t).fault = none ∧
      (Events.ofTokens t).items.map Event.happening = d.happenings) ∨
    (¬ (d.isScannable = true ∧ d.root.keysFit = true) ∧
      (Events.ofTokens t).fault.isSome = true) := by
  have hrun (m : Machine)
      (h : m.Stands t.fault .blockNode [.documentEnd] (d.root.lexemes ++ [.streamEnd])) :
      m.Outcome d.root.happenings d.root.keysFit .documentEnd [] [.streamEnd] :=
    d.root.run h
  obtain ⟨lexeme, lexemes, heq, hstarts⟩ := d.root.exists_lexeme
  rw [heq] at hrun
  rcases h with ⟨hscan, hspells⟩ | ⟨hscan, hbreaks⟩
  · -- All tokens are there, so a key that does not fit is the only thing that can end the events.
    have hfeeds := feeds_of_spells hspells
    rw [heq] at hfeeds
    rcases Events.ofTokens_of_outcome hstarts hfeeds hrun with
      ⟨hfits, -, hfault, hitems⟩ | ⟨hfits, hfault⟩
    · exact Or.inl ⟨hscan, hfits, hfault, hitems⟩
    · refine Or.inr ⟨fun hboth => ?_, hfault⟩
      have hsome := hfits hboth.2
      rw [hspells.fault] at hsome
      cases hsome
  · -- The tokens end in a fault, which ends the events unless a key has ended them before.
    have hfeeds := feeds_of_breaks hbreaks
    rw [heq] at hfeeds
    rcases Events.ofTokens_of_outcome hstarts hfeeds hrun with ⟨-, hnone, -⟩ | ⟨-, hends⟩
    · have hfault := hbreaks.fault
      rw [hnone] at hfault
      cases hfault
    · refine Or.inr ⟨fun hboth => ?_, hends⟩
      rw [hscan] at hboth
      cases hboth.1

/-- A JSON text has the events that it should have if it is scannable and all keys fit, and else a fault
ends them. The tokens of the text are known, so only the automaton is left to be run over its tree. -/
theorem events (d : Document) :
    (d.isScannable = true ∧ d.root.keysFit = true ∧
      (Events.ofTokens (.ofChars d.chars)).fault = none ∧
      (Events.ofTokens (.ofChars d.chars)).items.map Event.happening = d.happenings) ∨
    (¬ (d.isScannable = true ∧ d.root.keysFit = true) ∧
      (Events.ofTokens (.ofChars d.chars)).fault.isSome = true) :=
  d.events_of_tokens d.tokens

end Document

end TermAudit.JsonText
