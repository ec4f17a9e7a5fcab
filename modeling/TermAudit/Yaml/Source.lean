import TermAudit.Text.Basic

/-!
# `TermAudit.Yaml.Source`: the characters of a document and the places in it

A document is read from left to right by a `Cursor`: the characters that are left, and the
`Position` of the first of them. Past the last character a cursor shows the character NUL, which
no document holds (`Source.chars` refuses it), so every loop over characters may treat the end
like one more character.
-/

set_option autoImplicit false

namespace TermAudit.Yaml

/-- A place in a document, counted from zero: the number of characters, of lines, and of
characters in the line before it. -/
structure Position where
  index : Nat
  line : Nat
  column : Nat
deriving DecidableEq

namespace Source

/-- The code points that a document may hold: tab, line breaks, and everything printable that is no
surrogate. Other texts are refused before any token is read. -/
def allows (c : CodePoint) : Bool :=
  let n := c.val
  n == 0x09 || n == 0x0A || n == 0x0D || (0x20 ≤ n && n ≤ 0x7E) || n == 0x85
    || (0xA0 ≤ n && n ≤ 0xD7FF) || (0xE000 ≤ n && n ≤ 0xFFFD) || 0x10000 ≤ n

/-- A line break. There are more of them than a line feed, and the separators beyond ASCII are among
them. -/
def isBreak (c : Char) : Bool :=
  c == '\n' || c == '\r' || c == '\x85' || c == '\u2028' || c == '\u2029'

/-- The end of a line: a line break or the end of the document. -/
def endsLine (c : Char) : Bool :=
  c == '\x00' || isBreak c

/-- The end of a word: a space or the end of a line. -/
def endsWord (c : Char) : Bool :=
  c == ' ' || endsLine c

/-- A gap: a space, a tab or the end of a line. -/
def isGap (c : Char) : Bool :=
  c == '\t' || endsWord c

/-- An ASCII letter or digit, a hyphen or an underscore: what names are made of. -/
def isNameChar (c : Char) : Bool :=
  c.isAlphanum || c == '-' || c == '_'

/-- The value of a hexadecimal digit. -/
def hexValue? (c : Char) : Option Nat :=
  (CodePoint.ofChar c).val |> fun n =>
    if 0x30 ≤ n && n ≤ 0x39 then some (n - 0x30)
    else if 0x41 ≤ n && n ≤ 0x46 then some (n - 0x41 + 10)
    else if 0x61 ≤ n && n ≤ 0x66 then some (n - 0x61 + 10)
    else none

end Source

namespace Position

/-- The beginning of a document. -/
def start : Position := ⟨0, 0, 0⟩

/-- The place behind the character `c` when `next` is the one after it. A line break begins a new
line, but a carriage return leaves that to a line feed right after it. A byte order mark takes no
column. -/
def after (p : Position) (c : Char) (next : Option Char) : Position :=
  if Source.isBreak c && !(c == '\r' && next == some '\n') then ⟨p.index + 1, p.line + 1, 0⟩
  else if c == '\uFEFF' then ⟨p.index + 1, p.line, p.column⟩
  else ⟨p.index + 1, p.line, p.column + 1⟩

end Position

/-- What is left of a document, and where it begins. Everything that reads a document moves a cursor
forward. -/
structure Cursor where
  rest : List Char
  position : Position

namespace Cursor

/-- The beginning of a document. -/
def start (chars : List Char) : Cursor := ⟨chars, .start⟩

/-- The next character; NUL at the end. A document holds no NUL itself, so this tells the end. -/
def peek (k : Cursor) : Char :=
  k.rest.headD '\x00'

/-- The character `n` places after the next one; NUL past the end. -/
def peekAt (k : Cursor) (n : Nat) : Char :=
  k.rest.getD n '\x00'

/-- The column of the next character. -/
def column (k : Cursor) : Nat :=
  k.position.column

/-- Steps over one character. -/
def advance (k : Cursor) : Cursor :=
  match k.rest with
  | [] => k
  | c :: rest => ⟨rest, k.position.after c rest.head?⟩

/-- Steps over `n` characters. -/
def advanceBy : Nat → Cursor → Cursor
  | 0, k => k
  | n + 1, k => advanceBy n k.advance

/-- The longest start of `rest` in which every character satisfies `p`, given the one after it,
and the cursor behind it. -/
def spanFrom (p : Char → Char → Bool) : List Char → Position → List Char × Cursor
  | [], here => ([], ⟨[], here⟩)
  | c :: rest, here =>
    if p c (rest.headD '\x00') then
      let (taken, k) := spanFrom p rest (here.after c rest.head?)
      (c :: taken, k)
    else ([], ⟨c :: rest, here⟩)

/-- Takes characters as long as each satisfies `p`. -/
def span (p : Char → Bool) (k : Cursor) : List Char × Cursor :=
  spanFrom (fun c _ => p c) k.rest k.position

/-- Steps over characters as long as each satisfies `p`. -/
def skip (p : Char → Bool) (k : Cursor) : Cursor :=
  (k.span p).2

/-- Steps over spaces. -/
def skipSpaces (k : Cursor) : Cursor :=
  k.skip (· == ' ')

/-- Steps over a comment, if one begins here. -/
def skipComment (k : Cursor) : Cursor :=
  if k.peek == '#' then k.skip fun c => !Source.endsLine c else k

/-- Steps over one line break, if one is here, and gives what it stands for: a line separator or a
paragraph separator for itself, any other line break for a line feed. -/
def takeBreak? (k : Cursor) : Option (Char × Cursor) :=
  match k.peek with
  | '\r' => some ('\n', if k.peekAt 1 == '\n' then k.advanceBy 2 else k.advance)
  | '\n' => some ('\n', k.advance)
  | '\x85' => some ('\n', k.advance)
  | '\u2028' => some ('\u2028', k.advance)
  | '\u2029' => some ('\u2029', k.advance)
  | _ => none

/-- Whether three times `c` stands here, followed by a gap. At the start of a line this ends what is
open. -/
def hasMarker (c : Char) (k : Cursor) : Bool :=
  k.peek == c && k.peekAt 1 == c && k.peekAt 2 == c && Source.isGap (k.peekAt 3)

/-- Whether a marker stands here that begins or ends a document. -/
def atSeparator (k : Cursor) : Bool :=
  k.hasMarker '-' || k.hasMarker '.'

end Cursor

end TermAudit.Yaml
