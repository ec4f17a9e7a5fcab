import TermAudit.Yaml.Token.Markers

/-!
# `TermAudit.Yaml.Token.Scalars`: plain, quoted and block scalars

Each style has its own rule for what ends the scalar and for what becomes of the line breaks
inside it. Common to all is folding: a single line feed between two lines of text becomes a space,
and each further line break stands for itself.
-/

set_option autoImplicit false

namespace TermAudit.Yaml.Cursor

open Source

/-- Consecutive line breaks with spaces around them, up to a separator. The flag tells whether a
separator was met. -/
def takePlainBreaks : Nat → Cursor → List Char × Cursor × Bool
  | 0, k => ([], k, false)
  | fuel + 1, k =>
    let k := k.skipSpaces
    match k.takeBreak? with
    | none => ([], k, false)
    | some (b, k) =>
      if k.atSeparator then ([], k, true)
      else
        let (more, k, met) := takePlainBreaks fuel k
        (b :: more, k, met)

/-- What a first line break and those after it stand for. -/
def folded (first : Char) (others : List Char) : List Char :=
  if first != '\n' then first :: others
  else if others.isEmpty then [' ']
  else others

/-! ## Plain scalars -/

/-- What stands between two pieces of a plain scalar. -/
structure PlainGap where
  /-- The characters it contributes; none if the scalar ends here. -/
  content : List Char
  /-- Where the next piece begins. -/
  after : Cursor
  /-- Whether there is a line break in it. -/
  crossesLine : Bool

/-- The gap at this place. -/
def takePlainGap (k : Cursor) : PlainGap :=
  let (spaces, k) := k.span (· == ' ')
  match k.takeBreak? with
  | none => ⟨spaces, k, false⟩
  | some (b, k) =>
    if k.atSeparator then ⟨[], k, true⟩
    else
      let (breaks, k, met) := takePlainBreaks (k.rest.length + 1) k
      ⟨if met then [] else folded b breaks, k, true⟩

/-- A piece of a plain scalar: it ends at a gap, at a colon before a gap, and inside a flow
collection also at the characters that structure it. -/
def takePlainPiece (inFlow : Bool) (k : Cursor) : List Char × Cursor :=
  let isFlowMark (c : Char) : Bool := [',', '[', ']', '{', '}'].contains c
  spanFrom
    (fun c next =>
      !(isGap c || (c == ':' && (isGap next || (inFlow && isFlowMark next)))
        || (inFlow && (c == '?' || isFlowMark c))))
    k.rest k.position

/-- A plain scalar as far as it was read. -/
structure PlainScalar where
  content : List Char
  /-- The place behind its last character. -/
  stop : Position
  /-- The place where the next token may begin. -/
  after : Cursor
  /-- Whether the line ended before that place. -/
  crossesLine : Bool

/-- Pieces and the gaps between them, until a piece is empty, a comment begins, or a block
scalar's line is indented less than its mapping or sequence requires. -/
def takePlain? (inFlow : Bool) (indent : Int) : Nat → Cursor → Option PlainScalar
  | 0, _ => none
  | fuel + 1, k =>
    if k.peek == '#' then none
    else
      match k.takePlainPiece inFlow with
      | ([], _) => none
      | (piece, behind) =>
        let gap := behind.takePlainGap
        let here : PlainScalar := ⟨piece, behind.position, gap.after, gap.crossesLine⟩
        if gap.content.isEmpty || (!inFlow && gap.after.column < indent) then some here
        else
          match takePlain? inFlow indent fuel gap.after with
          | none => some here
          | some more => some { more with content := piece ++ gap.content ++ more.content }

/-! ## Quoted scalars -/

/-- The line breaks of a quoted scalar that begins at `start`, with spaces and tabs around
them. -/
def takeQuotedBreaks (start : Position) : Nat → Cursor → Except Fault (List Char × Cursor)
  | 0, k => pure ([], k)
  | fuel + 1, k => do
    if k.atSeparator then k.refuseIn .quotedScalar start .separatorInQuote
    let k := k.skip fun c => c == ' ' || c == '\t'
    match k.takeBreak? with
    | none => return ([], k)
    | some (b, k) =>
      let (more, k) ← takeQuotedBreaks start fuel k
      return (b :: more, k)

/-- Spaces, tabs and line breaks between two words of a quoted scalar. -/
def takeQuotedGap (start : Position) (k : Cursor) : Except Fault (List Char × Cursor) := do
  let (blanks, k) := k.span fun c => c == ' ' || c == '\t'
  if k.peek == '\x00' then k.refuseIn .quotedScalar start .endInQuote
  match k.takeBreak? with
  | none => return (blanks, k)
  | some (b, k) =>
    let (breaks, k) ← takeQuotedBreaks start (k.rest.length + 1) k
    return (folded b breaks, k)

/-- The escapes of one character. -/
def escapes : List (Char × Nat) :=
  [('0', 0x00), ('a', 0x07), ('b', 0x08), ('t', 0x09), ('\t', 0x09), ('n', 0x0A), ('v', 0x0B),
   ('f', 0x0C), ('r', 0x0D), ('e', 0x1B), (' ', 0x20), ('"', 0x22), ('\\', 0x5C), ('/', 0x2F),
   ('N', 0x85), ('_', 0xA0), ('L', 0x2028), ('P', 0x2029)]

/-- The escapes by number, and how many hexadecimal digits each has. -/
def numberEscapes : List (Char × Nat) :=
  [('x', 2), ('u', 4), ('U', 8)]

/-- The number of `n` hexadecimal digits, read on from `acc`, or the character that is none. -/
def hexNumber : Nat → List Char → Nat → Except Char Nat
  | 0, _, acc => .ok acc
  | _ + 1, [], _ => .error '\x00'
  | n + 1, c :: rest, acc =>
    match hexValue? c with
    | some d => hexNumber n rest (16 * acc + d)
    | none => .error c

/-- An escape by the number of a code point, behind its letter. Any code point can be denoted,
surrogates too, but no number past the last one. -/
def takeNumberEscape (start : Position) (digits : Nat) (k : Cursor) :
    Except Fault (CodePoint × Cursor) :=
  match hexNumber digits k.rest 0 with
  | .error c => k.refuseIn .doubleQuotedScalar start (.unexpected (.hexDigits digits) c)
  | .ok n =>
    match CodePoint.ofNat? n with
    | some c => pure (c, k.advanceBy digits)
    | none => throw (if n < Nat.pow 2 31 then .unreadable .codePoint else .tooLarge)

/-- An escape behind its backslash. An escaped line break stands for the further breaks after
it. -/
def takeEscape (start : Position) (k : Cursor) : Except Fault (Text × Cursor) := do
  match escapes.lookup k.peek, numberEscapes.lookup k.peek, k.takeBreak? with
  | some n, _, _ => return ([CodePoint.ofNat n], k.advance)
  | none, some digits, _ =>
    let (c, k) ← k.advance.takeNumberEscape start digits
    return ([c], k)
  | none, none, some (_, k) =>
    let (breaks, k) ← takeQuotedBreaks start (k.rest.length + 1) k
    return (.ofChars breaks, k)
  | none, none, none => k.refuseIn .doubleQuotedScalar start (.unknownEscape k.peek)

/-- The characters that end a run of ordinary ones in a quoted scalar. -/
def endsQuotedRun (c : Char) : Bool :=
  c == '\x27' || c == '"' || c == '\\' || isGap c

/-- The rest of a quoted scalar behind its opening mark `quote` at `start`, up to the closing one.
A mark of the other kind stands for itself. Between double marks a backslash begins an escape,
between single ones two of them stand for one. -/
def takeQuoted (quote : Char) (start : Position) : Nat → Cursor → Except Fault (Text × Cursor)
  | 0, k => k.refuseIn .quotedScalar start .endInQuote
  | fuel + 1, k => do
    let (run, k) := k.span fun c => !endsQuotedRun c
    let c := k.peek
    let (part, k, closed) ←
      if c == quote then
        if quote == '\x27' && k.peekAt 1 == '\x27' then
          pure ([CodePoint.ofChar c], k.advanceBy 2, false)
        else pure (([] : Text), k.advance, true)
      else if isGap c then do
        let (gap, k) ← k.takeQuotedGap start
        pure (Text.ofChars gap, k, false)
      else if quote == '"' && c == '\\' then do
        let (part, k) ← k.advance.takeEscape start
        pure (part, k, false)
      else pure ([CodePoint.ofChar c], k.advance, false)
    if closed then return (.ofChars run, k)
    let (more, k) ← takeQuoted quote start fuel k
    return (Text.ofChars run ++ part ++ more, k)

/-! ## Block scalars -/

/-- What becomes of the line breaks at the end of a block scalar. -/
inductive Chomping where
  /-- All are dropped. -/
  | strip
  /-- One is kept. -/
  | clip
  /-- All are kept. -/
  | keep
deriving DecidableEq

/-- A sign in the header of a block scalar. -/
def takeChomping (k : Cursor) : Chomping × Cursor :=
  match k.peek with
  | '+' => (.keep, k.advance)
  | '-' => (.strip, k.advance)
  | _ => (.clip, k)

/-- A digit in the header of a block scalar: the indentation relative to what it is part of. -/
def takeIncrement (start : Position) (k : Cursor) : Except Fault (Option Nat × Cursor) :=
  if k.peek.isDigit then
    if k.peek == '0' then k.refuseIn .blockScalar start .zeroIndentation
    else pure (some (k.peek.toNat - '0'.toNat), k.advance)
  else pure (none, k)

/-- The header of a block scalar: a sign and a digit in either order, each optional. -/
def takeBlockHeader (start : Position) (k : Cursor) :
    Except Fault (Chomping × Option Nat × Cursor) := do
  let (chomping, increment, k) ←
    if k.peek.isDigit then do
      let (increment, k) ← k.takeIncrement start
      let (chomping, k) := k.takeChomping
      pure (chomping, increment, k)
    else do
      let (chomping, after) := k.takeChomping
      if chomping == .clip then pure (chomping, none, k)
      else
        let (increment, k) ← after.takeIncrement start
        pure (chomping, increment, k)
  if endsWord k.peek then return (chomping, increment, ← k.finishLine .blockScalar start)
  else k.refuseChar .blockScalar start .blockIndicator

/-- Steps over spaces up to the column `indent`. -/
def skipIndent (indent : Nat) : Nat → Cursor → Cursor
  | 0, k => k
  | fuel + 1, k =>
    if k.column < indent && k.peek == ' ' then skipIndent indent fuel k.advance else k

/-- Line breaks between lines that hold nothing but indentation. -/
def takeBlockBreaks (indent : Nat) : Nat → Cursor → List Char × Cursor
  | 0, k => ([], k)
  | fuel + 1, k =>
    let k := k.skipIndent indent indent
    match k.takeBreak? with
    | none => ([], k)
    | some (b, k) =>
      let (more, k) := takeBlockBreaks indent fuel k
      (b :: more, k)

/-- The lines of spaces at the start of a block scalar without an indentation in its header: their
line breaks, and the greatest column that they reach. -/
def takeLeadingLines : Nat → Cursor → List Char × Nat × Cursor
  | 0, k => ([], 0, k)
  | fuel + 1, k =>
    let k := k.skipSpaces
    match k.takeBreak? with
    | none => ([], k.column, k)
    | some (b, after) =>
      let (more, widest, end') := takeLeadingLines fuel after
      (b :: more, max k.column widest, end')

/-- The lines of a block scalar, the first of which begins here behind the line breaks `breaks`;
`chomping` says what becomes of the last line breaks. -/
def takeBlockLines (folds : Bool) (chomping : Chomping) (indent : Nat) :
    Nat → List Char → Cursor → List Char × Cursor
  | 0, _, k => ([], k)
  | fuel + 1, breaks, k =>
    let isBlank (c : Char) : Bool := c == ' ' || c == '\t'
    let (line, behind) := k.span fun c => !endsLine c
    let (first, after) :=
      match behind.takeBreak? with
      | some (b, after) => ([b], after)
      | none => ([], behind)
    let (others, after) := takeBlockBreaks indent (after.rest.length + 1) after
    if after.column == indent && after.peek != '\x00' then
      let joint :=
        if folds && first == ['\n'] && !isBlank k.peek && !isBlank after.peek then
          if others.isEmpty then [' '] else []
        else first
      let (more, after) := takeBlockLines folds chomping indent fuel others after
      (breaks ++ line ++ joint ++ more, after)
    else
      let tail :=
        match chomping with
        | .strip => []
        | .clip => first
        | .keep => first ++ others
      (breaks ++ line ++ tail, after)

/-- A block scalar, from its indicator on, inside a collection indented by `indent`. -/
def takeBlockScalar (indent : Int) (k : Cursor) : Except Fault (Text × Cursor) := do
  let folds := k.peek == '>'
  let (chomping, increment, k) ← k.advance.takeBlockHeader k.position
  let least := max 1 (indent + 1).toNat
  let fuel := k.rest.length + 1
  let (indent, breaks, k) :=
    match increment with
    | some n =>
      let indent := least + n - 1
      let (breaks, k) := takeBlockBreaks indent fuel k
      (indent, breaks, k)
    | none =>
      let (breaks, widest, k) := takeLeadingLines fuel k
      (max least widest, breaks, k)
  if k.column == indent && k.peek != '\x00' then
    let (content, k) := takeBlockLines folds chomping indent fuel breaks k
    return (.ofChars content, k)
  else return (if chomping == .keep then .ofChars breaks else [], k)

end TermAudit.Yaml.Cursor
