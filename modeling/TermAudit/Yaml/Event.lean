import TermAudit.Yaml.Token.Stream

/-!
# `TermAudit.Yaml.Event`: the structure that tokens spell

`Events.ofTokens` turns the tokens of a document into a sequence of properly nested events: the
starts and ends of documents and collections, scalars and aliases. The work is done by an
automaton with a stack, `Grammar.next`, which gives one event at a time. A state says which part
of the grammar comes next; the stack holds the states to come back to.

A node that is left out, as in `key:` without a value, becomes an empty scalar. As with tokens, a
fault ends the sequence and the events before it still count.
-/

set_option autoImplicit false

namespace TermAudit.Yaml

/-- What may be said about a node in front of it. -/
structure Properties where
  anchor : Option Text
  tag : Option Text
deriving DecidableEq

/-- How a scalar without a full tag gets one. -/
inductive ScalarForm where
  /-- Its text decides: a plain scalar, or the tag `!`. -/
  | byText
  /-- It is a string: a quoted or block scalar. -/
  | string
  /-- Its tag is given. -/
  | tagged
deriving DecidableEq

/-- What happens in a document. The happenings of a node come in the order in which a reader meets them: a
collection begins, then its parts happen, then it ends. -/
inductive Happening where
  | documentStart
  | documentEnd
  | streamEnd
  | alias (name : Text)
  | scalar (p : Properties) (form : ScalarForm) (content : Text)
  | sequenceStart (p : Properties)
  | sequenceEnd
  | mappingStart (p : Properties)
  | mappingEnd
deriving DecidableEq

/-- A happening at its place. -/
structure Event where
  happening : Happening
  position : Position
deriving DecidableEq

namespace Grammar

/-- What comes next in a document. The automaton has a stack of such states for the collections that are
open. -/
inductive State where
  /-- A document, which may lack its start marker. -/
  | firstDocument
  /-- A further document, or the end. -/
  | document
  /-- The content of a document behind its start marker. -/
  | documentContent
  | documentEnd
  /-- A node in block style. -/
  | blockNode
  | blockSequenceEntry
  | indentlessEntry
  | blockMappingKey
  | blockMappingValue
  /-- An entry of a flow sequence; the first has no comma in front. -/
  | flowSequenceEntry (first : Bool)
  /-- The parts of a mapping with one entry, written without braces in a flow sequence. -/
  | flowPairKey
  | flowPairValue
  | flowPairEnd
  /-- A key of a flow mapping; the first has no comma in front. -/
  | flowMappingKey (first : Bool)
  | flowMappingValue
  /-- The value that a key without a colon has not. -/
  | flowMappingNoValue
  | done
deriving DecidableEq

/-- A state of the automaton. Tokens are looked at one by one, and the fault behind them is met only when
they are used up. -/
structure Machine where
  /-- The tokens that are left. -/
  tokens : List Token
  /-- The fault behind them. -/
  fault : Option Fault
  state : State
  /-- The states to come back to, innermost first. -/
  stack : List State
  /-- Where the open collections begin, innermost first. Those without a token of their own are
  not among them. -/
  marks : List Position
  /-- The tag handles of the document. -/
  handles : List (Text × Text)

/-- The handles that need no directive. -/
def defaultHandles : List (Text × Text) :=
  [("!", "!"), ("!!", "tag:yaml.org,2002:")]

namespace Machine

/-- The next token. Behind the last one there is a fault, or else the document has ended before. -/
def peek (m : Machine) : Except Fault Token :=
  match m.tokens, m.fault with
  | token :: _, _ => pure token
  | [], some fault => throw fault
  | [], none => throw (.malformed ⟨.noContent Lexeme.streamEnd.called, none, none⟩)

/-- Takes the next token. -/
def take (m : Machine) : Except Fault (Token × Machine) := do
  let token ← m.peek
  return (token, { m with tokens := m.tokens.tail })

/-- Goes on in another state. -/
def goTo (state : State) (m : Machine) : Machine :=
  { m with state := state }

/-- Goes on in the innermost state of the stack. -/
def goBack (m : Machine) : Machine :=
  match m.stack with
  | [] => m.goTo .done
  | state :: stack => { m with state := state, stack := stack }

/-- Puts a state on the stack, to come back to. -/
def push (state : State) (m : Machine) : Machine :=
  { m with stack := state :: m.stack }

/-- Takes the token that begins a collection and goes on in a state inside of it. -/
def enter (state : State) (m : Machine) : Except Fault Machine := do
  let (token, m) ← m.take
  return { m with state := state, marks := token.start :: m.marks }

/-- Where the innermost open collection begins. -/
def mark (m : Machine) : Position :=
  m.marks.headD .start

/-- Gives an empty scalar and goes on. -/
def emptyScalar (position : Position) (m : Machine) : Event × Machine :=
  (⟨.scalar ⟨none, none⟩ .byText [], position⟩, m)

/-- Reads one document's directives. The flag tells whether a version was among them. -/
def takeDirectives : List Token → Bool → List (Text × Text) → Machine →
    Except Fault (Machine × List (Text × Text))
  | [], _, handles, m => pure (m, handles)
  | ⟨.directive d, position, _⟩ :: rest, versioned, handles, m => do
    let m := { m with tokens := rest }
    match d with
    | .version major _ =>
      if versioned then throw (.malformed (.plain position .repeatedVersion))
      if major != 1 then throw (.malformed (.plain position .versionTooNew))
      takeDirectives rest true handles m
    | .handle name address =>
      if (handles.lookup name).isSome then
        throw (.malformed (.plain position (.repeatedHandle name)))
      takeDirectives rest versioned (handles ++ [(name, address)]) m
    | .other => takeDirectives rest versioned handles m
  | _ :: _, _, handles, m => pure (m, handles)

/-- Drops the markers that end documents. -/
def dropDocumentEnds (m : Machine) : Machine :=
  { m with tokens := m.tokens.dropWhile (·.lexeme == .documentEnd) }

/-- A document with directives and a start marker, or the end of all. -/
def document (m : Machine) : Except Fault (Event × Machine) := do
  let m := m.dropDocumentEnds
  let first ← m.peek
  if first.lexeme == .streamEnd then
    return (⟨.streamEnd, first.start⟩, { m with tokens := m.tokens.tail, state := .done })
  let (m, handles) ← takeDirectives m.tokens false [] m
  let (token, m) ← m.take
  if token.lexeme != .documentStart then
    throw (.malformed (.plain token.start (.noDocumentStart token.lexeme.called)))
  let defaults := defaultHandles.filter fun (name, _) => (handles.lookup name).isNone
  return (⟨.documentStart, first.start⟩,
    { m with
      state := .documentContent
      stack := .documentEnd :: m.stack
      handles := handles ++ defaults })

/-- The first document, which may lack its start marker. -/
def firstDocument (m : Machine) : Except Fault (Event × Machine) := do
  let token ← m.peek
  match token.lexeme with
  | .directive _ | .documentStart | .streamEnd => m.document
  | _ =>
    return (⟨.documentStart, token.start⟩,
      { m with
        state := .blockNode
        stack := .documentEnd :: m.stack
        handles := defaultHandles })

/-- The tag in full that a written tag stands for; `position` is where it is written, and `start` where
its node begins. A handle that no directive has introduced is refused. -/
def resolveTag (start position : Position) (m : Machine) : WrittenTag → Except Fault Text
  | .verbatim tag => pure tag
  | .withHandle handle suffix =>
    match m.handles.lookup handle with
    | some address => pure (address ++ suffix)
    | none => throw (.malformed (.within .node start position (.undefinedHandle handle)))

/-- An anchor, if one is next. -/
def takeAnchor? (m : Machine) : Except Fault (Option Text × Machine) := do
  let token ← m.peek
  match token.lexeme with
  | .anchor name => return (some name, (← m.take).2)
  | _ => return (none, m)

/-- A tag and its place, if one is next. -/
def takeTag? (m : Machine) : Except Fault (Option (WrittenTag × Position) × Machine) := do
  let token ← m.peek
  match token.lexeme with
  | .tag tag => return (some (tag, token.start), (← m.take).2)
  | _ => return (none, m)

/-- An anchor and a tag in either order, each optional. -/
def takeProperties (m : Machine) : Except Fault (Properties × Machine) := do
  let start := (← m.peek).start
  let (anchor, m) ← m.takeAnchor?
  let (written, m) ← m.takeTag?
  let (anchor, m) ←
    match anchor, written with
    | none, some _ => m.takeAnchor?
    | _, _ => pure (anchor, m)
  match written with
  | none => return (⟨anchor, none⟩, m)
  | some (written, position) =>
    return (⟨anchor, some (← m.resolveTag start position written)⟩, m)

/-- How a scalar with the given tag gets its full one. -/
def scalarForm (tag : Option Text) (plain : Bool) : ScalarForm :=
  match tag with
  | none => if plain then .byText else .string
  | some t => if t = Text.ofString "!" then .byText else .tagged

/-- A node. `inBlock` allows block collections, `indentless` a block sequence that is not
indented. A node's place is that of its properties, or else its own. -/
def node (inBlock indentless : Bool) (m : Machine) : Except Fault (Event × Machine) := do
  let first ← m.peek
  match first.lexeme with
  | .alias name =>
    let (_, m) ← m.take
    return (⟨.alias name, first.start⟩, m.goBack)
  | _ =>
    let position := first.start
    let (p, m) ← m.takeProperties
    let token ← m.peek
    match token.lexeme, inBlock, indentless with
    | .blockEntry, _, true => return (⟨.sequenceStart p, position⟩, m.goTo .indentlessEntry)
    | .scalar content plain, _, _ =>
      let (_, m) ← m.take
      return (⟨.scalar p (scalarForm p.tag plain) content, position⟩, m.goBack)
    | .flowSequenceStart, _, _ =>
      return (⟨.sequenceStart p, position⟩, ← m.enter (.flowSequenceEntry true))
    | .flowMappingStart, _, _ =>
      return (⟨.mappingStart p, position⟩, ← m.enter (.flowMappingKey true))
    | .blockSequenceStart, true, _ =>
      return (⟨.sequenceStart p, position⟩, ← m.enter .blockSequenceEntry)
    | .blockMappingStart, true, _ =>
      return (⟨.mappingStart p, position⟩, ← m.enter .blockMappingKey)
    | _, _, _ =>
      if p.anchor.isSome || p.tag.isSome then
        return (⟨.scalar p (scalarForm p.tag true) [], position⟩, m.goBack)
      else
        let activity : Activity := if inBlock then .blockNode else .flowNode
        throw (.malformed (.within activity position token.start (.noContent token.lexeme.called)))

/-- Takes an indicator at the start of a part and reads the node behind it, to go on in `next`
afterwards; if one of `stops` follows instead, the node is empty. -/
def partBehind (stops : List Lexeme) (next : State) (inBlock indentless : Bool) (m : Machine) :
    Except Fault (Event × Machine) := do
  let (indicator, m) ← m.take
  let token ← m.peek
  if stops.contains token.lexeme then return (m.goTo next).emptyScalar indicator.stop
  else (m.push next).node inBlock indentless

/-- Takes the token that ends a collection. -/
def close (happening : Happening) (m : Machine) : Except Fault (Event × Machine) := do
  let (token, m) ← m.take
  return (⟨happening, token.start⟩, { m with marks := m.marks.tail }.goBack)

/-- Refuses a token in the innermost collection. -/
def refuse {α : Type} (activity : Activity) (token : Token) (problem : Text → Problem)
    (m : Machine) : Except Fault α :=
  throw (.malformed (.within activity m.mark token.start (problem token.lexeme.called)))

/-- An entry of a flow sequence, behind its comma, or the end of the sequence. -/
def flowSequenceEntry (m : Machine) : Except Fault (Event × Machine) := do
  let token ← m.peek
  match token.lexeme with
  | .flowSequenceEnd => m.close .sequenceEnd
  | .key => return (⟨.mappingStart ⟨none, none⟩, token.start⟩, m.goTo .flowPairKey)
  | _ => (m.push (.flowSequenceEntry false)).node false false

/-- A key of a flow mapping, behind its comma, or the end of the mapping. -/
def flowMappingKey (m : Machine) : Except Fault (Event × Machine) := do
  let token ← m.peek
  match token.lexeme with
  | .flowMappingEnd => m.close .mappingEnd
  | .key => m.partBehind [.value, .flowEntry, .flowMappingEnd] .flowMappingValue false false
  | _ => (m.push .flowMappingNoValue).node false false

/-- Steps over the comma in front of a further entry; `stop`, which is written `close`, needs
none. -/
def takeComma (activity : Activity) (stop : Lexeme) (close : Char) (m : Machine) :
    Except Fault Machine := do
  let token ← m.peek
  if token.lexeme == stop then return m
  else if token.lexeme == .flowEntry then return (← m.take).2
  else m.refuse activity token (.noCommaOr close)

/-- The value of an entry: behind a colon, or else empty. -/
def value (stops : List Lexeme) (next : State) (inBlock : Bool) (m : Machine) :
    Except Fault (Event × Machine) := do
  let token ← m.peek
  if token.lexeme == .value then m.partBehind stops next inBlock inBlock
  else return (m.goTo next).emptyScalar token.start

end Machine

/-- The next event. -/
def next (m : Machine) : Except Fault (Event × Machine) := do
  match m.state with
  | .firstDocument => m.firstDocument
  | .document => m.document
  | .documentContent =>
    let token ← m.peek
    match token.lexeme with
    | .directive _ | .documentStart | .documentEnd | .streamEnd =>
      return m.goBack.emptyScalar token.start
    | _ => m.node true false
  | .documentEnd =>
    let token ← m.peek
    let m := if token.lexeme == .documentEnd then { m with tokens := m.tokens.tail } else m
    return (⟨.documentEnd, token.start⟩, m.goTo .document)
  | .blockNode => m.node true false
  | .blockSequenceEntry =>
    let token ← m.peek
    match token.lexeme with
    | .blockEntry => m.partBehind [.blockEntry, .blockEnd] .blockSequenceEntry true false
    | .blockEnd => m.close .sequenceEnd
    | _ => m.refuse .blockSequence token .noBlockEnd
  | .indentlessEntry =>
    let token ← m.peek
    match token.lexeme with
    | .blockEntry =>
      m.partBehind [.blockEntry, .key, .value, .blockEnd] .indentlessEntry true false
    | _ => return (⟨.sequenceEnd, token.start⟩, m.goBack)
  | .blockMappingKey =>
    let token ← m.peek
    match token.lexeme with
    | .key => m.partBehind [.key, .value, .blockEnd] .blockMappingValue true true
    | .blockEnd => m.close .mappingEnd
    | _ => m.refuse .blockMapping token .noBlockEnd
  | .blockMappingValue => m.value [.key, .value, .blockEnd] .blockMappingKey true
  | .flowSequenceEntry first =>
    (if first then pure m else m.takeComma .flowSequence .flowSequenceEnd ']')
      >>= Machine.flowSequenceEntry
  | .flowPairKey =>
    m.partBehind [.value, .flowEntry, .flowSequenceEnd] .flowPairValue false false
  | .flowPairValue => m.value [.flowEntry, .flowSequenceEnd] .flowPairEnd false
  | .flowPairEnd =>
    return (⟨.mappingEnd, (← m.peek).start⟩, m.goTo (.flowSequenceEntry false))
  | .flowMappingKey first =>
    (if first then pure m else m.takeComma .flowMapping .flowMappingEnd '\x7d')
      >>= Machine.flowMappingKey
  | .flowMappingValue => m.value [.flowEntry, .flowMappingEnd] (.flowMappingKey false) false
  | .flowMappingNoValue =>
    return (m.goTo (.flowMappingKey false)).emptyScalar (← m.peek).start
  | .done => throw (.malformed ⟨.noContent Lexeme.streamEnd.called, none, none⟩)

end Grammar

/-- The events of a document, and the fault behind the last of them if there is one. -/
structure Events where
  items : List Event
  fault : Option Fault

namespace Events

/-- The events from a state of the automaton on. -/
def ofMachine : Nat → Grammar.Machine → Events
  | 0, _ => ⟨[], none⟩
  | fuel + 1, m =>
    if m.state = .done then ⟨[], none⟩
    else
      match Grammar.next m with
      | .error fault => ⟨[], some fault⟩
      | .ok (event, m) =>
        let more := ofMachine fuel m
        { more with items := event :: more.items }

/-- The events that tokens spell. Between two steps that take a token there are at most four that take
none, so the automaton is done before the fuel is. -/
def ofTokens (tokens : Tokens) : Events :=
  ofMachine (8 * (tokens.items.length + 2))
    { tokens := tokens.items
      fault := tokens.fault
      state := .firstDocument
      stack := []
      marks := []
      handles := Grammar.defaultHandles }

end Events

end TermAudit.Yaml
