import TermAudit.Yaml.Event

/-!
# `TermAudit.Proofs.Yaml.Grammar`: nodes in flow style, one after the other

The automaton that makes events out of tokens is run on fuel and keeps its way back on a stack. Here
are its runs over nodes without anchors and tags, in flow style:

* `Machine.Feeds` says what lexemes the tokens spell that are left. A fault may end them before;
* `Machine.Stands` says in which state the automaton is, and `Machine.ActsLike` that it does what
  another one does, which takes away the many states in which a node may begin;
* `Machine.Outcome` is the result of a run over a part of a document: either the part fits, is read,
  and the automaton stands behind it, or the run ends with a fault.
-/

set_option autoImplicit false

namespace TermAudit.Yaml

namespace Events

/-- The events with others in front of them. A run gives out its events from the front, so those of its
rest come behind. -/
def behind (front : List Event) (e : Events) : Events :=
  { e with items := front ++ e.items }

/-- One step of the automaton. -/
theorem ofMachine_succ (fuel : Nat) (m : Grammar.Machine) : ofMachine (fuel + 1) m =
    if m.state = .done then ⟨[], none⟩
    else
      match Grammar.next m with
      | .error fault => ⟨[], some fault⟩
      | .ok (event, m) => (ofMachine fuel m).behind [event] :=
  (rfl)

end Events

/-- Whether a node in flow style begins with the lexeme. -/
def Lexeme.startsNode : Lexeme → Bool
  | .scalar .. | .flowSequenceStart | .flowMappingStart => true
  | _ => false

namespace Grammar.Machine

variable {m m₀ m₁ m₂ : Machine}

/-! ## Runs -/

/-- Going on from `m` gives the events `out` and goes on from `m'`. Every step but two takes a token, so
the tokens that are left bound the fuel that is needed. -/
def Leads (m : Machine) (out : List Event) (m' : Machine) : Prop :=
  ∀ fuel, m.tokens.length + 2 < fuel → ∃ fuel', m'.tokens.length + 2 < fuel' ∧
    Events.ofMachine fuel m = (Events.ofMachine fuel' m').behind out

/-- On the way from `m` to `m'` the happenings take place. A happening is an event without its place in
the text. -/
def Reads (m : Machine) (happenings : List Happening) (m' : Machine) : Prop :=
  ∃ out, m.Leads out m' ∧ out.map Event.happening = happenings

/-- Going on from `m` ends with a fault, however much fuel there is beyond the bound. -/
def Fails (m : Machine) : Prop :=
  ∀ fuel, m.tokens.length + 2 < fuel → (Events.ofMachine fuel m).fault.isSome = true

/-- Happenings that take place one after the other are a run together. -/
theorem Reads.trans {happenings happenings' : List Happening} (h : m.Reads happenings m₁)
    (h' : m₁.Reads happenings' m₂) : m.Reads (happenings ++ happenings') m₂ := by
  obtain ⟨out, hleads, rfl⟩ := h
  obtain ⟨out', hleads', rfl⟩ := h'
  refine ⟨out ++ out', ?_, List.map_append⟩
  intro fuel hfuel
  obtain ⟨fuel₁, hfuel₁, heq⟩ := hleads fuel hfuel
  obtain ⟨fuel₂, hfuel₂, heq'⟩ := hleads' fuel₁ hfuel₁
  refine ⟨fuel₂, hfuel₂, ?_⟩
  rw [heq, heq']
  simp only [Events.behind, List.append_assoc]

/-- A run that leads to a fault ends with it. -/
theorem Reads.fails {happenings : List Happening} (h : m.Reads happenings m₁) (h' : m₁.Fails) :
    m.Fails := by
  obtain ⟨out, hleads, -⟩ := h
  intro fuel hfuel
  obtain ⟨fuel₁, hfuel₁, heq⟩ := hleads fuel hfuel
  rw [heq]
  exact h' fuel₁ hfuel₁

/-- A step that takes a token gives an event. -/
theorem reads_of_next {event : Event} (hstate : m.state ≠ .done) (h : next m = .ok (event, m₁))
    (hlength : m₁.tokens.length < m.tokens.length) : m.Reads [event.happening] m₁ := by
  refine ⟨[event], ?_, rfl⟩
  intro fuel hfuel
  cases fuel with
  | zero => exact absurd hfuel (Nat.not_lt_zero _)
  | succ fuel =>
    refine ⟨fuel, by omega, ?_⟩
    rw [Events.ofMachine_succ, if_neg hstate, h]

/-- A run whose next step is a fault ends with it. -/
theorem fails_of_next {fault : Fault} (hstate : m.state ≠ .done) (h : next m = .error fault) :
    m.Fails := by
  intro fuel hfuel
  cases fuel with
  | zero => exact absurd hfuel (Nat.not_lt_zero _)
  | succ fuel =>
    rw [Events.ofMachine_succ, if_neg hstate, h]
    rfl

/-! ## What is left -/

/-- The tokens that are left spell the lexemes, if no fault ends them before. So one statement serves
texts that are scanned to their end and those that are not. -/
def Feeds (m : Machine) (lexemes : List Lexeme) : Prop :=
  ∃ missing, m.tokens.map Token.lexeme ++ missing = lexemes ∧ m.fault.isNone = missing.isEmpty

/-- There is a next token, or a fault. -/
theorem Feeds.cases {lexeme : Lexeme} {lexemes : List Lexeme} (h : m.Feeds (lexeme :: lexemes)) :
    (∃ start stop rest, m.tokens = ⟨lexeme, start, stop⟩ :: rest) ∨
    ∃ fault, m.tokens = [] ∧ m.fault = some fault := by
  obtain ⟨missing, htokens, hfault⟩ := h
  cases heq : m.tokens with
  | cons token rest =>
    obtain ⟨l, start, stop⟩ := token
    rw [heq] at htokens
    cases htokens
    exact Or.inl ⟨start, stop, rest, rfl⟩
  | nil =>
    rw [heq] at htokens
    cases htokens
    -- Without a token something is missing, so there is a fault.
    cases hm : m.fault with
    | none =>
      rw [hm] at hfault
      cases hfault
    | some fault => exact Or.inr ⟨fault, rfl, rfl⟩

/-- The tokens behind the next one, if there is one. -/
theorem Feeds.tail {lexeme : Lexeme} {lexemes : List Lexeme} (h : m.Feeds (lexeme :: lexemes))
    (hmore : m.tokens = [] → lexemes ≠ []) (htokens : m₁.tokens = m.tokens.tail)
    (hfault : m₁.fault = m.fault) : m₁.Feeds lexemes := by
  obtain ⟨missing, heq, hmissing⟩ := h
  cases hm : m.tokens with
  | cons token rest =>
    rw [hm] at heq htokens
    cases heq
    exact ⟨missing, by rw [htokens]; rfl, by rw [hfault, hmissing]⟩
  | nil =>
    rw [hm] at heq htokens
    cases heq
    -- No token was there, so all of what should follow is missing.
    refine ⟨lexemes, by rw [htokens]; rfl, ?_⟩
    have hne : lexemes.isEmpty = false := by
      cases lexemes with
      | nil => exact absurd rfl (hmore hm)
      | cons _ _ => rfl
    rw [hfault, hmissing, hne]
    rfl

/-- The automaton is in a state and has lexemes to read. The fault behind its tokens is part of it, as it
decides how the run ends. -/
structure Stands (m : Machine) (fault : Option Fault) (state : State) (stack : List State)
    (lexemes : List Lexeme) : Prop where
  fault : m.fault = fault
  state : m.state = state
  stack : m.stack = stack
  feeds : m.Feeds lexemes

/-- `m` has the next event of `m₀`, which has no more tokens. The first step from either is the same, and
so is all that follows. -/
structure ActsLike (m m₀ : Machine) : Prop where
  running : m.state ≠ .done
  running' : m₀.state ≠ .done
  next : next m = next m₀
  length : m₀.tokens.length ≤ m.tokens.length
  fault : m₀.fault = m.fault

/-- Automata with the same next event have the same events, as they are in the same state behind it. -/
theorem ActsLike.ofMachine_eq (h : m.ActsLike m₀) (fuel : Nat) :
    Events.ofMachine fuel m = Events.ofMachine fuel m₀ := by
  cases fuel with
  | zero => rfl
  | succ fuel =>
    rw [Events.ofMachine_succ, Events.ofMachine_succ, if_neg h.running, if_neg h.running', h.next]

/-! ## Outcomes -/

/-- What comes of a run over a part: it fits, its happenings take place, and the automaton stands behind
it; or a fault ends the run, which is one of the tokens if the part fits. Keys that are too far from their
colon are what can make a part not fit. -/
def Outcome (m : Machine) (happenings : List Happening) (fits : Bool) (state : State)
    (stack : List State) (lexemes : List Lexeme) : Prop :=
  (fits = true ∧ ∃ m', m.Reads happenings m' ∧ m'.Stands m.fault state stack lexemes) ∨
  ((fits = true → m.fault.isSome = true) ∧ m.Fails)

section Outcome

variable {happenings happenings' : List Happening} {fits fits' : Bool} {state state' : State}
  {stack stack' : List State} {lexemes lexemes' : List Lexeme}

/-- What comes of an automaton comes of one that acts like it. There is fuel enough, since it has no fewer
tokens. -/
theorem ActsLike.outcome (h : m.ActsLike m₀) (h₀ : m₀.Outcome happenings fits state stack lexemes) :
    m.Outcome happenings fits state stack lexemes := by
  have hless {fuel : Nat} (hfuel : m.tokens.length + 2 < fuel) : m₀.tokens.length + 2 < fuel :=
    Nat.lt_of_le_of_lt (Nat.add_le_add_right h.length 2) hfuel
  rcases h₀ with ⟨hfits, m', ⟨out, hleads, hout⟩, hstands⟩ | ⟨hfits, hfails⟩
  · refine Or.inl ⟨hfits, m', ⟨out, ?_, hout⟩, h.fault ▸ hstands⟩
    intro fuel hfuel
    rw [h.ofMachine_eq]
    exact hleads fuel (hless hfuel)
  · refine Or.inr ⟨h.fault ▸ hfits, ?_⟩
    intro fuel hfuel
    rw [h.ofMachine_eq]
    exact hfails fuel (hless hfuel)

/-- One part is read and then another. -/
theorem Outcome.bind (h : m.Outcome happenings fits state stack lexemes)
    (h' : ∀ m' : Machine, m'.Stands m.fault state stack lexemes →
      m'.Outcome happenings' fits' state' stack' lexemes') :
    m.Outcome (happenings ++ happenings') (fits && fits') state' stack' lexemes' := by
  rcases h with ⟨rfl, m₁, hreads, hstands⟩ | ⟨hfits, hfails⟩
  · rw [Bool.true_and]
    rcases h' m₁ hstands with ⟨hfits', m₂, hreads', hstands'⟩ | ⟨hfits', hfails⟩
    · exact Or.inl ⟨hfits', m₂, hreads.trans hreads', hstands.fault ▸ hstands'⟩
    · exact Or.inr ⟨hstands.fault ▸ hfits', hreads.fails hfails⟩
  · refine Or.inr ⟨fun hboth => hfits ?_, hfails⟩
    rw [Bool.and_eq_true] at hboth
    exact hboth.1

/-- A fault of the tokens ends the run. -/
theorem outcome_of_fault {fault : Fault} (hstate : m.state ≠ .done) (h : next m = .error fault)
    (hfault : m.fault = some fault) : m.Outcome happenings fits state stack lexemes :=
  Or.inr ⟨fun _ => by rw [hfault]; rfl, fails_of_next hstate h⟩

/-- A single event that takes a token. -/
theorem outcome_of_next (event : Event) (hrunning : m.state ≠ .done)
    (h : next m = .ok (event, m₁)) (hlength : m₁.tokens.length < m.tokens.length)
    (hstands : m₁.Stands m.fault state stack lexemes) :
    m.Outcome [event.happening] true state stack lexemes :=
  Or.inl ⟨rfl, m₁, reads_of_next hrunning h hlength, hstands⟩

end Outcome

/-! ## Nodes -/

variable {fault : Option Fault} {state : State} {stack : List State} {lexeme : Lexeme}
  {lexemes : List Lexeme} {content : Text} {plain : Bool}

/-- The next token is there, or else a fault. -/
theorem Stands.cases (h : m.Stands fault state stack (lexeme :: lexemes)) :
    (∃ start stop rest marks handles,
      m = ⟨⟨lexeme, start, stop⟩ :: rest, fault, state, stack, marks, handles⟩) ∨
    ∃ f marks handles, fault = some f ∧ m = ⟨[], some f, state, stack, marks, handles⟩ := by
  obtain ⟨tokens, fault', state', stack', marks, handles⟩ := m
  obtain ⟨rfl, rfl, rfl, hfeeds⟩ := h
  rcases hfeeds.cases with ⟨start, stop, rest, htokens⟩ | ⟨f, htokens, hfault⟩
  · dsimp only at htokens
    exact Or.inl ⟨start, stop, rest, marks, handles, by rw [htokens]⟩
  · dsimp only at htokens hfault
    exact Or.inr ⟨f, marks, handles, hfault, by rw [htokens, hfault]⟩

/-- A node of a single token. -/
theorem outcome_of_scalar
    (h : m.Stands fault .blockNode (state :: stack) (.scalar content plain :: lexemes)) :
    m.Outcome [.scalar ⟨none, none⟩ (scalarForm none plain) content] true state stack lexemes := by
  obtain ⟨start, stop, rest, marks, handles, rfl⟩ | ⟨f, marks, handles, rfl, rfl⟩ := h.cases
  · exact outcome_of_next ⟨_, start⟩ State.noConfusion rfl (Nat.lt_succ_self _)
      ⟨rfl, rfl, rfl, h.feeds.tail nofun rfl rfl⟩
  · exact outcome_of_fault State.noConfusion rfl rfl

/-- The mark that opens a sequence is a happening, and the automaton expects the first item. -/
theorem outcome_of_sequenceStart
    (h : m.Stands fault .blockNode stack (.flowSequenceStart :: lexemes)) :
    m.Outcome [.sequenceStart ⟨none, none⟩] true (.flowSequenceEntry true) stack lexemes := by
  obtain ⟨start, stop, rest, marks, handles, rfl⟩ | ⟨f, marks, handles, rfl, rfl⟩ := h.cases
  · exact outcome_of_next ⟨_, start⟩ State.noConfusion rfl (Nat.lt_succ_self _)
      ⟨rfl, rfl, rfl, h.feeds.tail nofun rfl rfl⟩
  · exact outcome_of_fault State.noConfusion rfl rfl

/-- The mark that opens a mapping is a happening, and the automaton expects the first key. -/
theorem outcome_of_mappingStart
    (h : m.Stands fault .blockNode stack (.flowMappingStart :: lexemes)) :
    m.Outcome [.mappingStart ⟨none, none⟩] true (.flowMappingKey true) stack lexemes := by
  obtain ⟨start, stop, rest, marks, handles, rfl⟩ | ⟨f, marks, handles, rfl, rfl⟩ := h.cases
  · exact outcome_of_next ⟨_, start⟩ State.noConfusion rfl (Nat.lt_succ_self _)
      ⟨rfl, rfl, rfl, h.feeds.tail nofun rfl rfl⟩
  · exact outcome_of_fault State.noConfusion rfl rfl

/-- The mark that closes a sequence is a happening, and the automaton is back where it came from, in front
of the first item as well as behind one. -/
theorem outcome_of_sequenceEnd {first : Bool}
    (h : m.Stands fault (.flowSequenceEntry first) (state :: stack) (.flowSequenceEnd :: lexemes)) :
    m.Outcome [.sequenceEnd] true state stack lexemes := by
  obtain ⟨start, stop, rest, marks, handles, rfl⟩ | ⟨f, marks, handles, rfl, rfl⟩ := h.cases
  · have hnext : next ⟨⟨.flowSequenceEnd, start, stop⟩ :: rest, fault, .flowSequenceEntry first,
        state :: stack, marks, handles⟩ =
        .ok (⟨.sequenceEnd, start⟩, ⟨rest, fault, state, stack, marks.tail, handles⟩) := by
      cases first
      · rfl
      · rfl
    exact outcome_of_next _ State.noConfusion hnext (Nat.lt_succ_self _)
      ⟨rfl, rfl, rfl, h.feeds.tail nofun rfl rfl⟩
  · refine outcome_of_fault State.noConfusion ?_ rfl
    cases first
    · rfl
    · rfl

/-- The mark that closes a mapping is a happening in the same way. -/
theorem outcome_of_mappingEnd {first : Bool}
    (h : m.Stands fault (.flowMappingKey first) (state :: stack) (.flowMappingEnd :: lexemes)) :
    m.Outcome [.mappingEnd] true state stack lexemes := by
  obtain ⟨start, stop, rest, marks, handles, rfl⟩ | ⟨f, marks, handles, rfl, rfl⟩ := h.cases
  · have hnext : next ⟨⟨.flowMappingEnd, start, stop⟩ :: rest, fault, .flowMappingKey first,
        state :: stack, marks, handles⟩ =
        .ok (⟨.mappingEnd, start⟩, ⟨rest, fault, state, stack, marks.tail, handles⟩) := by
      cases first
      · rfl
      · rfl
    exact outcome_of_next _ State.noConfusion hnext (Nat.lt_succ_self _)
      ⟨rfl, rfl, rfl, h.feeds.tail nofun rfl rfl⟩
  · refine outcome_of_fault State.noConfusion ?_ rfl
    cases first
    · rfl
    · rfl

/-! ## Where nodes begin -/

/-- What stands in front of an entry of a collection: a comma, unless the entry is the first one. -/
def separator (first : Bool) : List Lexeme :=
  if first then [] else [.flowEntry]

/-- The separator is taken before an item. -/
theorem exists_next_item {first : Bool}
    (h : m.Stands fault (.flowSequenceEntry first) stack (separator first ++ lexeme :: lexemes)) :
    ∃ tokens, next m = Machine.flowSequenceEntry { m with tokens := tokens } ∧
      Machine.Feeds { m with tokens := tokens } (lexeme :: lexemes) ∧
      tokens.length ≤ m.tokens.length := by
  cases first with
  | true =>
    refine ⟨m.tokens, ?_, h.feeds, Nat.le_refl _⟩
    obtain ⟨tokens, fault', state', stack', marks, handles⟩ := m
    obtain ⟨rfl, rfl, rfl, -⟩ := h
    rfl
  | false =>
    -- In front of a further item a comma is taken off.
    refine ⟨m.tokens.tail, ?_, h.feeds.tail (fun _ => List.cons_ne_nil _ _) rfl rfl,
      by rw [List.length_tail]; exact Nat.sub_le _ _⟩
    obtain ⟨start, stop, rest, marks, handles, rfl⟩ | ⟨f, marks, handles, rfl, rfl⟩ := h.cases
    · rfl
    · rfl

/-- The separator is taken before a key. -/
theorem exists_next_key {first : Bool}
    (h : m.Stands fault (.flowMappingKey first) stack (separator first ++ lexeme :: lexemes)) :
    ∃ tokens, next m = Machine.flowMappingKey { m with tokens := tokens } ∧
      Machine.Feeds { m with tokens := tokens } (lexeme :: lexemes) ∧
      tokens.length ≤ m.tokens.length := by
  cases first with
  | true =>
    refine ⟨m.tokens, ?_, h.feeds, Nat.le_refl _⟩
    obtain ⟨tokens, fault', state', stack', marks, handles⟩ := m
    obtain ⟨rfl, rfl, rfl, -⟩ := h
    rfl
  | false =>
    -- In front of a further key a comma is taken off.
    refine ⟨m.tokens.tail, ?_, h.feeds.tail (fun _ => List.cons_ne_nil _ _) rfl rfl,
      by rw [List.length_tail]; exact Nat.sub_le _ _⟩
    obtain ⟨start, stop, rest, marks, handles, rfl⟩ | ⟨f, marks, handles, rfl, rfl⟩ := h.cases
    · rfl
    · rfl

/-- A node in a collection is read like the node of a document, to go on in another state. -/
theorem node_eq_next (hstarts : lexeme.startsNode = true) (h : m.Feeds (lexeme :: lexemes)) :
    (m.push state).node false false =
      next { m with state := .blockNode, stack := state :: m.stack } := by
  obtain ⟨tokens, fault, state', stack, marks, handles⟩ := m
  rcases h.cases with ⟨start, stop, rest, htokens⟩ | ⟨f, htokens, hfault⟩
  · dsimp only at htokens
    subst htokens
    cases lexeme with
    | scalar content plain => rfl
    | flowSequenceStart => rfl
    | flowMappingStart => rfl
    | _ => cases hstarts
  · dsimp only at htokens hfault
    subst htokens hfault
    rfl

/-- An item begins. -/
theorem exists_actsLike_item {first : Bool} (hstarts : lexeme.startsNode = true)
    (h : m.Stands fault (.flowSequenceEntry first) stack (separator first ++ lexeme :: lexemes)) :
    ∃ m₀, m.ActsLike m₀ ∧
      m₀.Stands fault .blockNode (.flowSequenceEntry false :: stack) (lexeme :: lexemes) := by
  obtain ⟨tokens, hnext, hfeeds, hlength⟩ := exists_next_item h
  -- What begins a node is neither the end of the list nor the mark of a pair.
  have hentry : Machine.flowSequenceEntry { m with tokens := tokens } =
      (Machine.push (.flowSequenceEntry false) { m with tokens := tokens }).node false false := by
    rcases hfeeds.cases with ⟨start, stop, rest, htokens⟩ | ⟨f, htokens, hfault⟩
    · dsimp only at htokens
      subst htokens
      cases lexeme with
      | scalar content plain => rfl
      | flowSequenceStart => rfl
      | flowMappingStart => rfl
      | _ => cases hstarts
    · obtain ⟨tokens', fault', state', stack', marks, handles⟩ := m
      dsimp only at htokens hfault
      subst htokens hfault
      rfl
  refine ⟨{ m with
      tokens := tokens, state := .blockNode, stack := .flowSequenceEntry false :: m.stack },
    ⟨by rw [h.state]; exact State.noConfusion, State.noConfusion, ?_, hlength, rfl⟩,
    h.fault, rfl, by rw [← h.stack], hfeeds⟩
  rw [hnext, hentry, node_eq_next hstarts hfeeds]

/-- A key begins behind its mark. -/
theorem exists_actsLike_key {first : Bool}
    (h : m.Stands fault (.flowMappingKey first) stack
      (separator first ++ .key :: .scalar content plain :: lexemes)) :
    ∃ m₀, m.ActsLike m₀ ∧ m₀.Stands fault .blockNode (.flowMappingValue :: stack)
      (.scalar content plain :: lexemes) := by
  obtain ⟨tokens, hnext, hfeeds, hlength⟩ := exists_next_key h
  have htail : Machine.Feeds { m with tokens := tokens.tail } (.scalar content plain :: lexemes) :=
    hfeeds.tail (fun _ => List.cons_ne_nil _ _) rfl rfl
  -- The mark of the key is taken off, and no key is empty.
  have hkey : Machine.flowMappingKey { m with tokens := tokens } =
      (Machine.push .flowMappingValue { m with tokens := tokens.tail }).node false false := by
    obtain ⟨tokens', fault', state', stack', marks, handles⟩ := m
    rcases hfeeds.cases with ⟨start, stop, rest, htokens⟩ | ⟨f, htokens, hfault⟩
    · dsimp only at htokens
      subst htokens
      rcases htail.cases with ⟨start', stop', rest', hrest⟩ | ⟨f, hrest, hfault⟩
      · dsimp only [List.tail_cons] at hrest
        subst hrest
        rfl
      · dsimp only [List.tail_cons] at hrest hfault
        subst hrest hfault
        rfl
    · dsimp only at htokens hfault
      subst htokens hfault
      rfl
  refine ⟨{ m with
      tokens := tokens.tail, state := .blockNode, stack := .flowMappingValue :: m.stack },
    ⟨by rw [h.state]; exact State.noConfusion, State.noConfusion, ?_, ?_, rfl⟩,
    h.fault, rfl, by rw [← h.stack], htail⟩
  · rw [hnext, hkey, node_eq_next rfl htail]
  · dsimp only
    rw [List.length_tail]
    omega

/-- A value begins behind the colon. -/
theorem exists_actsLike_value (hstarts : lexeme.startsNode = true)
    (h : m.Stands fault .flowMappingValue stack (.value :: lexeme :: lexemes)) :
    ∃ m₀, m.ActsLike m₀ ∧
      m₀.Stands fault .blockNode (.flowMappingKey false :: stack) (lexeme :: lexemes) := by
  have htail : Machine.Feeds { m with tokens := m.tokens.tail } (lexeme :: lexemes) :=
    h.feeds.tail (fun _ => List.cons_ne_nil _ _) rfl rfl
  -- The mark of the value is taken off, and no value is empty.
  have hvalue : next m =
      (Machine.push (.flowMappingKey false) { m with tokens := m.tokens.tail }).node false false := by
    obtain ⟨start, stop, rest, marks, handles, rfl⟩ | ⟨f, marks, handles, rfl, rfl⟩ := h.cases
    · rcases htail.cases with ⟨start', stop', rest', hrest⟩ | ⟨f, hrest, hfault⟩
      · dsimp only [List.tail_cons] at hrest
        subst hrest
        cases lexeme with
        | scalar content plain => rfl
        | flowSequenceStart => rfl
        | flowMappingStart => rfl
        | _ => cases hstarts
      · dsimp only [List.tail_cons] at hrest hfault
        subst hrest hfault
        rfl
    · rfl
  refine ⟨{ m with
      tokens := m.tokens.tail, state := .blockNode, stack := .flowMappingKey false :: m.stack },
    ⟨by rw [h.state]; exact State.noConfusion, State.noConfusion, ?_, ?_, rfl⟩,
    h.fault, rfl, by rw [← h.stack], htail⟩
  · rw [hvalue, node_eq_next hstarts htail]
  · dsimp only
    rw [List.length_tail]
    omega

/-- No colon stands behind an entry without a value. -/
theorem fails_of_noValue (h : m.Stands fault .flowMappingNoValue stack (.value :: lexemes)) :
    m.Fails := by
  obtain ⟨start, stop, rest, marks, handles, rfl⟩ | ⟨f, marks, handles, rfl, rfl⟩ := h.cases
  · intro fuel hfuel
    -- The empty value takes no token; the colon is refused in the step behind it.
    cases fuel with
    | zero => exact absurd hfuel (Nat.not_lt_zero _)
    | succ fuel =>
      cases fuel with
      | zero => exact absurd (Nat.lt_of_succ_lt_succ hfuel) (Nat.not_lt_zero _)
      | succ fuel => rfl
  · exact fails_of_next State.noConfusion rfl

/-- A key without its mark is taken for an entry without a value, and its colon is refused. -/
theorem outcome_of_unmarkedKey {first : Bool} {happenings : List Happening}
    {stack' : List State} {lexemes' : List Lexeme}
    (h : m.Stands fault (.flowMappingKey first) stack
      (separator first ++ .scalar content plain :: .value :: lexemes)) :
    m.Outcome happenings false state stack' lexemes' := by
  obtain ⟨tokens, hnext, hfeeds, hlength⟩ := exists_next_key h
  -- A node that no mark announces is taken for a key without a value.
  have hkey : Machine.flowMappingKey { m with tokens := tokens } =
      (Machine.push .flowMappingNoValue { m with tokens := tokens }).node false false := by
    obtain ⟨tokens', fault', state', stack', marks, handles⟩ := m
    rcases hfeeds.cases with ⟨start, stop, rest, htokens⟩ | ⟨f, htokens, hfault⟩
    · dsimp only at htokens
      subst htokens
      rfl
    · dsimp only at htokens hfault
      subst htokens hfault
      rfl
  have hlike : m.ActsLike
      { m with tokens := tokens, state := .blockNode, stack := .flowMappingNoValue :: m.stack } :=
    ⟨by rw [h.state]; exact State.noConfusion, State.noConfusion,
      by rw [hnext, hkey, node_eq_next rfl hfeeds], hlength, rfl⟩
  refine Or.inr ⟨nofun, ?_⟩
  -- The mark of a value behind it is what the automaton does not expect.
  rcases hlike.outcome (outcome_of_scalar ⟨rfl, rfl, rfl, hfeeds⟩) with
    ⟨-, m', hreads, hstands⟩ | ⟨-, hfails⟩
  · exact hreads.fails (fails_of_noValue hstands)
  · exact hfails

end Grammar.Machine

/-! ## Documents -/

namespace Events

open Grammar (Machine)

/-- The automaton before the first event. -/
def start (t : Tokens) : Machine where
  tokens := t.items
  fault := t.fault
  state := .firstDocument
  stack := []
  marks := []
  handles := Grammar.defaultHandles

variable {m : Machine} {t : Tokens} {lexeme : Lexeme} {lexemes : List Lexeme}

/-- The document ends, and with it all. -/
theorem ofMachine_of_documentEnd {fuel : Nat} (h : m.Stands none .documentEnd [] [.streamEnd])
    (hfuel : 2 < fuel) : (ofMachine fuel m).fault = none ∧
      (ofMachine fuel m).items.map Event.happening = [.documentEnd, .streamEnd] := by
  obtain ⟨start, stop, rest, marks, handles, rfl⟩ | ⟨f, marks, handles, hf, -⟩ := h.cases
  · obtain ⟨missing, htokens, -⟩ := h.feeds
    have hrest : rest = [] := by
      cases rest with
      | nil => rfl
      | cons token rest => cases htokens
    subst hrest
    obtain ⟨fuel, rfl⟩ : ∃ n, fuel = n + 3 := ⟨fuel - 3, by omega⟩
    exact ⟨rfl, rfl⟩
  · cases hf

/-- A fault in front of the end is met. -/
theorem fails_of_documentEnd {f : Fault}
    (h : m.Stands (some f) .documentEnd [] [.streamEnd]) : m.Fails := by
  obtain ⟨start, stop, rest, marks, handles, rfl⟩ | ⟨f, marks, handles, -, rfl⟩ := h.cases
  · obtain ⟨missing, htokens, hmissing⟩ := h.feeds
    have hnone : missing = [] := by
      cases missing with
      | nil => rfl
      | cons l missing =>
        have hlength := congrArg List.length htokens
        rw [List.length_append, List.length_map] at hlength
        simp only [List.length_cons, List.length_nil] at hlength
        omega
    rw [hnone] at hmissing
    cases hmissing
  · exact Grammar.Machine.fails_of_next Grammar.State.noConfusion rfl

/-- The start of the document is no token. -/
theorem ofTokens_of_start {event : Event} (h : Grammar.next (start t) = .ok (event, m))
    (htokens : m.tokens.length ≤ t.items.length) : ∃ fuel, m.tokens.length + 2 < fuel ∧
      ofTokens t = (ofMachine fuel m).behind [event] := by
  refine ⟨8 * t.items.length + 15, by omega, ?_⟩
  show ofMachine (8 * t.items.length + 15 + 1) (start t) = _
  rw [ofMachine_succ, if_neg Grammar.State.noConfusion, h]

/-- What the events are of a document whose root is read with the given outcome. -/
theorem ofTokens_of_outcome {happenings : List Happening} {fits : Bool}
    (hstarts : lexeme.startsNode = true) (h : (start t).Feeds (lexeme :: lexemes ++ [.streamEnd]))
    (hroot : ∀ m : Machine,
      m.Stands t.fault .blockNode [.documentEnd] (lexeme :: lexemes ++ [.streamEnd]) →
      m.Outcome happenings fits .documentEnd [] [.streamEnd]) :
    (fits = true ∧ t.fault = none ∧ (ofTokens t).fault = none ∧
      (ofTokens t).items.map Event.happening =
        .documentStart :: happenings ++ [.documentEnd, .streamEnd]) ∨
    ((fits = true → t.fault.isSome = true) ∧ (ofTokens t).fault.isSome = true) := by
  obtain ⟨items, fault⟩ := t
  rcases h.cases with ⟨position, stop, rest, htokens⟩ | ⟨f, htokens, hfault⟩
  · dsimp only [start] at htokens
    subst htokens
    let m : Machine := { start ⟨⟨lexeme, position, stop⟩ :: rest, fault⟩ with
      state := .blockNode, stack := [.documentEnd] }
    -- What begins a node is no directive, so the document begins without one.
    have hnext : Grammar.next (start ⟨⟨lexeme, position, stop⟩ :: rest, fault⟩) =
        .ok (⟨.documentStart, position⟩, m) := by
      cases lexeme with
      | scalar content plain => rfl
      | flowSequenceStart => rfl
      | flowMappingStart => rfl
      | _ => cases hstarts
    obtain ⟨fuel, hfuel, heq⟩ := ofTokens_of_start hnext (Nat.le_refl _)
    rw [heq]
    rcases hroot m ⟨rfl, rfl, rfl, h⟩ with ⟨hfits, m', hreads, hstands⟩ | ⟨hfits, hfails⟩
    · cases fault with
      | some f =>
        exact Or.inr ⟨fun _ => rfl, hreads.fails (fails_of_documentEnd hstands) fuel hfuel⟩
      | none =>
        obtain ⟨out, hleads, rfl⟩ := hreads
        obtain ⟨fuel', hfuel', heq'⟩ := hleads fuel hfuel
        obtain ⟨hfault, hitems⟩ := ofMachine_of_documentEnd hstands (show 2 < fuel' by omega)
        refine Or.inl ⟨hfits, rfl, ?_, ?_⟩
        · rw [heq']
          exact hfault
        · rw [heq']
          simp only [behind, List.map_append, hitems]
          rfl
    · exact Or.inr ⟨hfits, hfails fuel hfuel⟩
  · -- Without any token there is nothing but the fault.
    dsimp only [start] at htokens hfault
    subst htokens hfault
    exact Or.inr ⟨fun _ => rfl, rfl⟩

end Events

end TermAudit.Yaml
