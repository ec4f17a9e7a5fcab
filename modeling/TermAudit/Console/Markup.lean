import TermAudit.Console.Emoji
import TermAudit.Console.Literal
import TermAudit.Console.Style
import TermAudit.Console.Styled

/-!
# `TermAudit.Console.Markup`: style tags in lines for the console

Lines for the console and cells of tables are written with style tags: `[red]` opens a style,
`[/red]` closes it and `[/]` closes the last one. A tag begins with `[` and a small letter, `#`, `/`
or `@`, and reaches to the next `]` with no `[` between; an odd number of backslashes before it
makes it plain text. A backslash before any other `[` is dropped. What stands behind `=` in a tag is
its parameter; for a tag that begins with `@` it calls a handler with a literal.

`Markup.read` gives what is left to read, and the styles that are looked up when it is drawn. In
plain text, names of emoji become emoji, and some control characters are not shown.
-/

set_option autoImplicit false

namespace TermAudit.Markup

/-- Why markup cannot be shown. -/
inductive MarkupError where
  /-- A tag closes a style that is not open. -/
  | notOpen
  /-- The argument of a handler is no literal. -/
  | notLiteral
  /-- A part of a color is no number. -/
  | unreadableNumber
deriving DecidableEq

/-- A piece of a line: plain text, or what stands in the brackets of a tag, whether or not there is a
style of this name. -/
inductive Piece where
  | plain (t : Text)
  | tag (content : Text)
deriving DecidableEq

/-- Whether a tag can begin with the code point. Brackets around anything else are plain text. -/
def startsTag (c : CodePoint) : Bool :=
  (0x61 ≤ c.val && c.val ≤ 0x7A) || c = '#' || c = '/' || c = '@'

/-- The pieces of a tag and of the backslashes before it: each two of them stand for one, and one
that is left makes the tag plain. -/
def tagPieces (slashes : Nat) (content : Text) : List Piece :=
  [.plain (List.replicate (slashes / 2) (CodePoint.ofChar '\\')),
   if slashes % 2 = 1 then .plain (("[" : Text) ++ content ++ ("]" : Text)) else .tag content]

/-- Cuts the rest of a line into pieces. Before it stands plain text, last code point first, and
perhaps `[` and a start of a tag, last code point first. -/
def piecesFrom (before : Text) : Option Text → Text → List Piece
  | none, [] => [.plain before.reverse]
  | some content, [] => [.plain (before.reverse ++ CodePoint.ofChar '[' :: content.reverse)]
  | none, c :: rest =>
    if c = '[' then piecesFrom before (some []) rest else piecesFrom (c :: before) none rest
  | some content, c :: rest =>
    if c = '[' then piecesFrom (content ++ CodePoint.ofChar '[' :: before) (some []) rest
    else if content.isEmpty && !startsTag c then
      piecesFrom (c :: CodePoint.ofChar '[' :: before) none rest
    else if c = ']' then
      let slashes := before.takeWhile fun d => decide (d = CodePoint.ofChar '\\')
      .plain (before.drop slashes.length).reverse :: tagPieces slashes.length content.reverse
        ++ piecesFrom [] none rest
    else piecesFrom before (some (c :: content)) rest

/-- Cuts a line into pieces. -/
def pieces (t : Text) : List Piece :=
  piecesFrom [] none t

/-- Drops the backslashes right before `[`. -/
def withoutEscapes : Text → Text
  | [] => []
  | c :: rest =>
    if c = '\\' ∧ rest.head? = some (CodePoint.ofChar '[') then withoutEscapes rest
    else c :: withoutEscapes rest

/-- Whether the console shows the code point: it drops some control characters. -/
def isShown (c : CodePoint) : Bool :=
  !(c.val == 0x07 || c.val == 0x08 || c.val == 0x0B || c.val == 0x0C || c.val == 0x0D)

/-- Plain text as it is shown: names between colons become emoji, and some control characters are dropped.
So a text without any tags can be shown as another one, too. -/
def shownText (t : Text) : Text :=
  (Emoji.replaced (withoutEscapes t)).filter isShown

/-- An opening tag: the normal form of its name, and its parameter. -/
structure Tag where
  name : Text
  parameter : Option Text
deriving DecidableEq

/-- The definition of the style that a tag stands for. -/
def Tag.definition (t : Tag) : Text :=
  match t.parameter with
  | some p => t.name ++ (" " : Text) ++ p
  | none => t.name

/-- The argument of the handler in a parameter. Behind the name of a handler it stands in
parentheses, and a name alone means that there is none. -/
def handlerArgument (parameter : Text) : Text :=
  let call := parameter.strip
  let isNamePart (c : CodePoint) : Bool := c.isWordPart || c == CodePoint.ofChar '.'
  match call.dropWhile isNamePart with
  | [] => "()"
  | c :: rest =>
    let isCall : Bool :=
      c = '(' && rest.getLast? = some (CodePoint.ofChar ')')
        && !rest.contains (CodePoint.ofChar '\n')
    if isCall then c :: rest else call

/-- Whether a tag can be closed: the argument of its handler, if it has one, has to be a literal. -/
def Tag.isClosable (t : Tag) : Bool :=
  match t.parameter with
  | none | some [] => true
  | some p => !t.name.beginsWith "@" || Literal.accepts (handlerArgument p)

/-- The name that stands for all names of one style. -/
def normalName (name : Text) : Except MarkupError Text :=
  (Style.normalForm name).mapError fun _ => .unreadableNumber

/-- The state of reading a line: what is left to read, last code point first, the open tags, last
first, with the length of what stands before them, and the styles that are closed. -/
structure State where
  before : Text
  length : Nat
  opened : List (Tag × Nat)
  spans : List Span

namespace State

/-- Adds text to a line. -/
def addText (s : State) (t : Text) : State :=
  { s with before := t.reverse ++ s.before, length := s.length + t.length }

/-- The style of a tag that opens behind so many code points and is not closed before here. -/
def span (s : State) (tag : Tag) (start : Nat) : Span :=
  ⟨start, s.length, some tag.definition⟩

/-- Closes a tag that is taken out of the open ones. -/
def closeTag (s : State) (tag : Tag) (start : Nat) (opened : List (Tag × Nat)) :
    Except MarkupError State :=
  if !tag.isClosable then .error .notLiteral
  else
    let definition := if tag.name.beginsWith "@" then none else some tag.definition
    .ok { s with opened, spans := ⟨start, s.length, definition⟩ :: s.spans }

/-- Closes the last open tag with the name; without a name, the last one. -/
def close (s : State) (name : Text) : Except MarkupError State :=
  if name.isEmpty then
    match s.opened with
    | [] => .error .notOpen
    | (tag, start) :: opened => s.closeTag tag start opened
  else do
    let name ← normalName name
    match s.opened.find? fun (tag, _) => tag.name = name with
    | none => .error .notOpen
    | some (tag, start) => s.closeTag tag start (s.opened.erase (tag, start))

/-- Opens a tag. -/
def openTag (s : State) (name : Text) (parameter : Option Text) : Except MarkupError State := do
  return { s with opened := (⟨← normalName name, parameter⟩, s.length) :: s.opened }

/-- Adds a piece to a line. -/
def add (s : State) : Piece → Except MarkupError State
  | .plain t => .ok (s.addText (shownText t))
  | .tag content =>
    let (name, parameter) := content.splitFirst '='
    match name with
    | c :: closed => if c = '/' then s.close (Text.strip closed) else s.openTag name parameter
    | [] => s.openTag name parameter

/-- The line at its end, where all tags close. -/
def styled (s : State) : Styled :=
  ⟨s.before.reverse, s.opened.map (fun (tag, start) => s.span tag start) ++ s.spans⟩

end State

/-- Takes the tags out of a line. This can fail, since a tag can close a style that is not open, or hold
an argument that is no literal. -/
def read (t : Text) : Except MarkupError Styled := do
  let s ← (pieces t).foldlM State.add ⟨[], 0, [], []⟩
  return s.styled

/-- Judges the styles of a line that is drawn. -/
def checkStyles (line : Styled) : Except MarkupError Unit :=
  let isBad (span : Span) : Bool :=
    span.definition.any fun d => (Style.normalForm d).toOption.isNone
  if line.spans.any isBad then .error .unreadableNumber else .ok ()

end TermAudit.Markup
