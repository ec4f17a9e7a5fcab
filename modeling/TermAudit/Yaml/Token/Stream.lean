import TermAudit.Yaml.Token.Scalars

/-!
# `TermAudit.Yaml.Token.Stream`: all tokens of a document

`Tokens.ofChars` reads a document into its tokens. Two things are known only later than where they
belong. That a scalar or a collection is a mapping key is shown by the colon behind it, so a
possible key is remembered and its token put in front afterwards; a key has to fit into one line
and 1024 characters. And block collections begin and end where the indentation changes.

A token counts as read as soon as nothing behind it can put another one in front. If the
characters are at fault, the tokens up to there still count: a consumer may find a fault of its
own in them, which then comes first. So the result is a list of tokens together with the fault
that ends it, if there is one.
-/

set_option autoImplicit false

namespace TermAudit.Yaml

/-- A place where a mapping key may have begun. Only a colon tells that it has, so the token for the key
is put in later, in front of what has been read since. -/
structure PossibleKey where
  /-- How many tokens come before it. -/
  number : Nat
  /-- Whether nothing but a key can begin there. -/
  required : Bool
  position : Position

/-- How far a document has been read into tokens. Tokens are held back as long as one may still be put in
front of them. -/
structure Lexer where
  cursor : Cursor
  /-- How many flow collections are open; closing marks without opening ones count down. -/
  flowLevel : Int
  /-- The column of the innermost block collection, or -1 outside of all. -/
  indent : Int
  /-- The columns of the block collections around it. -/
  outerIndents : List Int
  /-- Whether a mapping key may begin here. -/
  keyAllowed : Bool
  /-- The possible keys by flow level, at most one for each. -/
  possibleKeys : List (Int × PossibleKey)
  /-- The tokens that are not given out yet. -/
  pending : List Token
  /-- How many tokens have been given out. -/
  taken : Nat
  /-- Whether the last token has been read. -/
  finished : Bool

namespace Lexer

open Source

/-- The beginning of a document. -/
def start (chars : List Char) : Lexer where
  cursor := .start chars
  flowLevel := 0
  indent := -1
  outerIndents := []
  keyAllowed := true
  possibleKeys := []
  pending := []
  taken := 0
  finished := false

/-- Whether the cursor is inside a flow collection. -/
def inFlow (s : Lexer) : Bool :=
  s.flowLevel != 0

/-- Appends a token that starts at `start` and ends where `k` begins, and continues there. -/
def emit (lexeme : Lexeme) (start : Position) (k : Cursor) (s : Lexer) : Lexer :=
  { s with pending := s.pending ++ [⟨lexeme, start, k.position⟩], cursor := k }

/-- Appends a token without characters. -/
def emitHere (lexeme : Lexeme) (s : Lexer) : Lexer :=
  s.emit lexeme s.cursor.position s.cursor

/-- Appends a token of `n` characters. -/
def emitMark (lexeme : Lexeme) (n : Nat) (s : Lexer) : Lexer :=
  s.emit lexeme s.cursor.position (s.cursor.advanceBy n)

/-- Puts a token without characters in front of the pending token with the given number. -/
def insert (lexeme : Lexeme) (key : PossibleKey) (s : Lexer) : Lexer :=
  let place := key.number - s.taken
  { s with
    pending := s.pending.take place ++ ⟨lexeme, key.position, key.position⟩ ::
      s.pending.drop place }

/-! ## Possible keys -/

/-- Whether a possible key cannot become one any more: it is on another line or too far back. This is how
a key that is long in one place can make a document unreadable. -/
def isStale (s : Lexer) (key : PossibleKey) : Bool :=
  key.position.line != s.cursor.position.line
    || s.cursor.position.index > key.position.index + 1024

/-- Refuses the document because a key has no colon. -/
def refuseKey {α : Type} (s : Lexer) (key : PossibleKey) : Except Fault α :=
  s.cursor.refuseIn .simpleKey key.position .keyWithoutColon

/-- Forgets the possible keys that are stale. One that was required, because of its indentation, is an
error then. -/
def forgetStale (s : Lexer) : Except Fault Lexer :=
  match s.possibleKeys.find? fun (_, key) => s.isStale key && key.required with
  | some (_, key) => s.refuseKey key
  | none => pure { s with possibleKeys := s.possibleKeys.filter fun (_, key) => !s.isStale key }

/-- Forgets the possible key of the innermost collection. -/
def forgetKey (s : Lexer) : Except Fault Lexer :=
  match s.possibleKeys.lookup s.flowLevel with
  | none => pure s
  | some key =>
    if key.required then s.refuseKey key
    else pure { s with possibleKeys := s.possibleKeys.filter (·.1 != s.flowLevel) }

/-- Remembers that a key may begin here. -/
def rememberKey (s : Lexer) : Except Fault Lexer :=
  if s.keyAllowed then do
    let s ← s.forgetKey
    let key : PossibleKey :=
      { number := s.taken + s.pending.length
        required := !s.inFlow && s.indent == s.cursor.column
        position := s.cursor.position }
    return { s with possibleKeys := (s.flowLevel, key) :: s.possibleKeys }
  else pure s

/-! ## Indentation -/

/-- Ends the block collections that are indented more than `column`. In a flow collection indentation is
of no account. -/
def unwind (column : Int) (s : Lexer) : Lexer :=
  if s.inFlow then s else go s.outerIndents s
where
  go : List Int → Lexer → Lexer
    | [], s => s
    | outer :: others, s =>
      if s.indent > column then
        go others { s.emitHere .blockEnd with indent := outer, outerIndents := others }
      else s

/-- Begins a block collection at `column`, unless one is open there or further right. The flag
tells whether it does. -/
def indentTo (column : Nat) (s : Lexer) : Bool × Lexer :=
  if s.indent < column then
    (true, { s with indent := column, outerIndents := s.indent :: s.outerIndents })
  else (false, s)

/-- Begins a block collection at the cursor, unless one is open there already. -/
def openBlock (lexeme : Lexeme) (s : Lexer) : Lexer :=
  match s.indentTo s.cursor.column with
  | (true, s) => s.emitHere lexeme
  | (false, s) => s

/-! ## Tokens -/

/-- Steps over spaces, comments and line breaks. Behind a line break in a block collection a key
may begin. -/
def skipToToken (s : Lexer) : Lexer :=
  let k := s.cursor
  let k := if k.position.index == 0 && k.peek == '\uFEFF' then k.advance else k
  go (k.rest.length + 1) { s with cursor := k }
where
  go : Nat → Lexer → Lexer
    | 0, s => s
    | fuel + 1, s =>
      let k := s.cursor.skipSpaces.skipComment
      match k.takeBreak? with
      | none => { s with cursor := k }
      | some (_, k) => go fuel { s with cursor := k, keyAllowed := s.keyAllowed || !s.inFlow }

/-- The end of the document. -/
def readEnd (s : Lexer) : Except Fault Lexer := do
  let s ← (s.unwind (-1)).forgetKey
  return { s.emitHere .streamEnd with keyAllowed := false, possibleKeys := [], finished := true }

/-- A directive. -/
def readDirective (s : Lexer) : Except Fault Lexer := do
  let s ← (s.unwind (-1)).forgetKey
  let (directive, k) ← s.cursor.takeDirective
  return { s.emit (.directive directive) s.cursor.position k with keyAllowed := false }

/-- A marker that begins or ends a document. -/
def readSeparator (lexeme : Lexeme) (s : Lexer) : Except Fault Lexer := do
  let s ← (s.unwind (-1)).forgetKey
  return { s.emitMark lexeme 3 with keyAllowed := false }

/-- An opening bracket or brace. -/
def readFlowStart (lexeme : Lexeme) (s : Lexer) : Except Fault Lexer := do
  let s ← s.rememberKey
  return { s.emitMark lexeme 1 with flowLevel := s.flowLevel + 1, keyAllowed := true }

/-- A closing bracket or brace. -/
def readFlowEnd (lexeme : Lexeme) (s : Lexer) : Except Fault Lexer := do
  let s ← s.forgetKey
  return { s.emitMark lexeme 1 with flowLevel := s.flowLevel - 1, keyAllowed := false }

/-- A comma. -/
def readFlowEntry (s : Lexer) : Except Fault Lexer := do
  let s ← s.forgetKey
  return { s.emitMark .flowEntry 1 with keyAllowed := true }

/-- A hyphen that begins an entry of a block sequence. -/
def readBlockEntry (s : Lexer) : Except Fault Lexer := do
  if !s.inFlow && !s.keyAllowed then s.cursor.refuse .entryNotAllowed
  let s := if s.inFlow then s else s.openBlock .blockSequenceStart
  let s ← s.forgetKey
  return { s.emitMark .blockEntry 1 with keyAllowed := true }

/-- A question mark that begins a key. -/
def readKey (s : Lexer) : Except Fault Lexer := do
  if !s.inFlow && !s.keyAllowed then s.cursor.refuse .keyNotAllowed
  let s := if s.inFlow then s else s.openBlock .blockMappingStart
  let s ← s.forgetKey
  return { s.emitMark .key 1 with keyAllowed := !s.inFlow }

/-- A colon. If a key may have begun in the innermost collection, it did, and its token comes
first; at a new indentation it also begins a mapping. -/
def readValue (s : Lexer) : Except Fault Lexer :=
  match s.possibleKeys.lookup s.flowLevel with
  | some key =>
    let s := { s with possibleKeys := s.possibleKeys.filter (·.1 != s.flowLevel) }
    let s := s.insert .key key
    let s :=
      if s.inFlow then s
      else
        match s.indentTo key.position.column with
        | (true, s) => s.insert .blockMappingStart key
        | (false, s) => s
    pure { s.emitMark .value 1 with keyAllowed := false }
  | none => do
    if !s.inFlow && !s.keyAllowed then s.cursor.refuse .valueNotAllowed
    let s := if s.inFlow then s else s.openBlock .blockMappingStart
    let s ← s.forgetKey
    return { s.emitMark .value 1 with keyAllowed := !s.inFlow }

/-- An alias, an anchor or a tag, which `take` reads. -/
def readMarker {α : Type} (take : Cursor → Except Fault (α × Cursor)) (lexeme : α → Lexeme)
    (s : Lexer) : Except Fault Lexer := do
  let s ← s.rememberKey
  let (content, k) ← take s.cursor
  return { s.emit (lexeme content) s.cursor.position k with keyAllowed := false }

/-- A block scalar. -/
def readBlockScalar (s : Lexer) : Except Fault Lexer := do
  let s ← s.forgetKey
  let (content, k) ← s.cursor.takeBlockScalar s.indent
  return { s.emit (.scalar content false) s.cursor.position k with keyAllowed := true }

/-- A quoted scalar. -/
def readQuoted (s : Lexer) : Except Fault Lexer := do
  let s ← s.rememberKey
  let opening := s.cursor
  let (content, k) ←
    opening.advance.takeQuoted opening.peek opening.position (opening.rest.length + 1)
  return { s.emit (.scalar content false) s.cursor.position k with keyAllowed := false }

/-- Refuses the document because no token starts here. -/
def refuseStray {α : Type} (s : Lexer) : Except Fault α :=
  throw (.malformed
    ⟨.strayCharacter s.cursor.peek, some s.cursor.position, some ⟨.nextToken, none⟩⟩)

/-- A plain scalar. -/
def readPlain (s : Lexer) : Except Fault Lexer := do
  let s ← s.rememberKey
  match s.cursor.takePlain? s.inFlow (s.indent + 1) (s.cursor.rest.length + 1) with
  | none => s.refuseStray
  | some scalar =>
    return { s with
      pending := s.pending ++
        [⟨.scalar (.ofChars scalar.content) true, s.cursor.position, scalar.stop⟩]
      cursor := scalar.after
      keyAllowed := scalar.crossesLine }

/-- Whether a plain scalar can begin here. An indicator can begin one only if a character that is
no gap follows. -/
def startsPlain (s : Lexer) : Bool :=
  let c := s.cursor.peek
  let isIndicator := "-?:,[]\x7b\x7d#&*!|>\x27\"%@\x60".toList.contains c
  (!isGap c && !isIndicator)
    || (!isGap (s.cursor.peekAt 1) && (c == '-' || (!s.inFlow && (c == '?' || c == ':'))))

/-- The reader of a flow collection's or a scalar's first character, for the characters that
decide it alone. -/
def readBySign? (s : Lexer) : Option (Except Fault Lexer) :=
  match s.cursor.peek with
  | '[' => some (s.readFlowStart .flowSequenceStart)
  | '\x7b' => some (s.readFlowStart .flowMappingStart)
  | ']' => some (s.readFlowEnd .flowSequenceEnd)
  | '\x7d' => some (s.readFlowEnd .flowMappingEnd)
  | ',' => some s.readFlowEntry
  | '*' => some (s.readMarker (Cursor.takeAnchor .alias) .alias)
  | '&' => some (s.readMarker (Cursor.takeAnchor .anchor) .anchor)
  | '!' => some (s.readMarker Cursor.takeTag .tag)
  | '"' => some s.readQuoted
  | '\x27' => some s.readQuoted
  | _ => none

/-- Reads what begins at the cursor, which is neither a space nor a comment nor a line break. -/
def readToken (s : Lexer) : Except Fault Lexer :=
  let k := s.cursor
  let c := k.peek
  let beforeGap := isGap (k.peekAt 1)
  if c == '\x00' then s.readEnd
  else if c == '%' && k.column == 0 then s.readDirective
  else if k.column == 0 && k.hasMarker '-' then s.readSeparator .documentStart
  else if k.column == 0 && k.hasMarker '.' then s.readSeparator .documentEnd
  else
    match s.readBySign? with
    | some result => result
    | none =>
      if c == '-' && beforeGap then s.readBlockEntry
      else if c == '?' && (s.inFlow || beforeGap) then s.readKey
      else if c == ':' && (s.inFlow || beforeGap) then s.readValue
      else if (c == '|' || c == '>') && !s.inFlow then s.readBlockScalar
      else if s.startsPlain then s.readPlain
      else s.refuseStray

/-- Reads on up to the next token. -/
def advance (s : Lexer) : Except Fault Lexer := do
  let s ← s.skipToToken.forgetStale
  (s.unwind s.cursor.column).readToken

/-- Whether the first pending token may still get another one in front of it, or there is none. -/
def mustAdvance (s : Lexer) : Except Fault (Bool × Lexer) :=
  if s.finished then pure (false, s)
  else if s.pending.isEmpty then pure (true, s)
  else do
    let s ← s.forgetStale
    return (s.possibleKeys.any fun (_, key) => key.number == s.taken, s)

end Lexer

/-- The tokens of a document, and the fault behind the last of them if there is one. -/
structure Tokens where
  items : List Token
  fault : Option Fault

namespace Tokens

/-- The tokens from a state of reading on. -/
def ofLexer : Nat → Lexer → Tokens
  | 0, _ => ⟨[], none⟩
  | fuel + 1, s =>
    match s.mustAdvance with
    | .error fault => ⟨[], some fault⟩
    | .ok (true, s) =>
      match s.advance with
      | .error fault => ⟨[], some fault⟩
      | .ok s => ofLexer fuel s
    | .ok (false, s) =>
      match s.pending with
      | [] => ⟨[], none⟩
      | token :: pending =>
        let more := ofLexer fuel { s with pending := pending, taken := s.taken + 1 }
        { more with items := token :: more.items }

/-- The tokens of a document. Reading on takes at least one character, or the end, and adds three
tokens at most besides the ends of block collections, of which each was opened before. So there
are fewer than eight steps for each character. -/
def ofChars (chars : List Char) : Tokens :=
  ofLexer (8 * (chars.length + 2)) (.start chars)

end Tokens

end TermAudit.Yaml
