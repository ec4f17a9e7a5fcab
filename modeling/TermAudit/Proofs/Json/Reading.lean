import TermAudit.Proofs.Json.Syntax
import TermAudit.Yaml.Token.Scalars

/-!
# `TermAudit.Proofs.Json.Reading`: JSON texts as a reader of YAML sees them

Not every JSON text is a document of YAML 1.1, and some are documents with other data. Where the two
languages differ is a matter of tokens alone:

* `Document.Readable` says which JSON texts are documents: all characters are printable, no tab is
  white space, no line inside of a string begins with a document marker, and every key stands on one
  line with its colon, which is at most 1024 characters behind the start of the key;
* `JsonString.reading` is the text that a string is read as: line breaks in it are folded, and
  surrogates stay what they are;
* `Number.reading` is the scalar that a number is read as: with an exponent it is a number only if it
  has a point and its exponent a sign, and else a text.

`Tree.reading` is the data that follows.
-/

set_option autoImplicit false

namespace TermAudit.JsonText

open Yaml (Source.isBreak Source.isGap)

/-! ## Strings -/

namespace StringPart

/-- Whether the part is a space that stands for itself. A space that is written as an escape is no white
space to be folded. -/
def isSpace : StringPart → Bool
  | .plain c _ => c == ' '
  | _ => false

/-- What a line break that stands for itself is read as: a line separator or a paragraph separator as
itself, a next line as a line feed. Line feeds and carriage returns cannot stand for themselves in a
string of JSON. -/
def break? : StringPart → Option Char
  | .plain c _ =>
    if c = '\x85' then some '\n'
    else if c = '\u2028' ∨ c = '\u2029' then some c
    else none
  | _ => none

/-- Whether the part is a gap that stands for itself, which is a space, a tab or a line break. -/
def isGap : StringPart → Bool
  | .plain c _ => Source.isGap c
  | _ => false

/-- Whether the part is the character and stands for itself. -/
def isPlain (c : Char) : StringPart → Bool
  | .plain c' _ => c' == c
  | _ => false

end StringPart

namespace JsonString

/-- Whether the string begins with a line break, perhaps behind spaces. Such spaces are dropped, as they
are the end of a line. -/
def startsLine (s : JsonString) : Bool :=
  ((s.dropWhile StringPart.isSpace).head?.bind StringPart.break?).isSome

/-- What a string is read as from a place on. Behind line breaks their first and the others are given, the
last of them first. They are folded when the next character that is no space comes, or at the end of the
string. -/
def readingFrom : Option (Char × List Char) → JsonString → Text
  | none, [] => []
  | some (first, others), [] => .ofChars (Yaml.Cursor.folded first others.reverse)
  | none, p :: rest =>
    if p.isSpace then
      if startsLine rest then readingFrom none rest else p.codePoint :: readingFrom none rest
    else
      match p.break? with
      | some b => readingFrom (some (b, [])) rest
      | none => p.codePoint :: readingFrom none rest
  | some (first, others), p :: rest =>
    if p.isSpace then readingFrom (some (first, others)) rest
    else
      match p.break? with
      | some b => readingFrom (some (first, b :: others)) rest
      | none =>
        .ofChars (Yaml.Cursor.folded first others.reverse) ++ p.codePoint :: readingFrom none rest

/-- What a string is read as. It differs from what the string stands for in two ways: line breaks are
folded, and surrogate pairs stay apart. -/
def reading (s : JsonString) : Text :=
  readingFrom none s

/-- Whether the string begins with a marker that begins or ends a document. The marker has to be followed
by a gap, so three hyphens in front of a word are none. -/
def startsWithMarker : JsonString → Bool
  | a :: b :: c :: d :: _ =>
    ((a.isPlain '-' && b.isPlain '-' && c.isPlain '-')
      || (a.isPlain '.' && b.isPlain '.' && c.isPlain '.')) && d.isGap
  | _ => false

/-- Whether no line of the string behind its first begins with a marker. The first line begins with the
quotation mark. -/
def isScannable : JsonString → Bool
  | [] => true
  | p :: rest => !(p.break?.isSome && startsWithMarker rest) && isScannable rest

/-- Whether the string can be a key: it stands on one line with the colon behind it, which is at most 1024
characters behind its start. This is asked of the text as it is written, so escapes count with all of
their characters. -/
def fitsKey (key : JsonString) (behind : Gap) : Bool :=
  let start := chars key ++ gapChars behind
  start.length ≤ 1024 && !start.any Source.isBreak

end JsonString

/-! ## Numbers -/

namespace Number

/-- Whether the number is read as a number: an exponent has to follow a point and to have a sign. Numbers
such as `1e5` are texts in YAML 1.1. -/
def isNumeric (n : Number) : Bool :=
  match n.exponent with
  | none => true
  | some e => n.fraction.isSome && e.minus.isSome

/-- What a number is read as: the number that it stands for, or the text of its characters. -/
def reading (n : Number) : Scalar :=
  if n.isNumeric then n.value else .text (.ofChars n.chars)

/-- Whether the number is not an integer of too many digits. Such an integer cannot be read, and reading
it ends with an error that no reader expects. -/
def isWritable (n : Number) : Bool :=
  !n.isInteger || n.whole.all.length ≤ maxDecimalDigits

end Number

/-! ## Trees -/

/-- Whether there is no tab in white space. Line breaks and spaces are the white space of both languages,
and tabs that of JSON alone. -/
def isTabless (g : Gap) : Bool :=
  !g.contains .tab

mutual

/-- Whether white space has no tabs and strings have no markers. These are the two things that end the
tokens of a text with a fault. What is wrong with keys shows later, in the parser. -/
def Tree.isScannable : Tree → Bool
  | .null | .bool _ | .number _ => true
  | .string s => JsonString.isScannable s
  | .emptyArray inside | .emptyObject inside => isTabless inside
  | .array items => items.isScannable
  | .object members => members.isScannable

/-- The same for items. -/
def Items.isScannable : Items → Bool
  | .last before item after => isTabless before && item.isScannable && isTabless after
  | .more before item after rest =>
    isTabless before && item.isScannable && isTabless after && rest.isScannable

/-- The same for members. -/
def Members.isScannable : Members → Bool
  | .last before key behindKey behindColon item after =>
    isTabless before && JsonString.isScannable key && isTabless behindKey
      && isTabless behindColon && item.isScannable && isTabless after
  | .more before key behindKey behindColon item after rest =>
    isTabless before && JsonString.isScannable key && isTabless behindKey
      && isTabless behindColon && item.isScannable && isTabless after && rest.isScannable

end

mutual

/-- Whether all keys fit. A key that does not is no error of the scanner, but the value behind its colon
has no place in an object then. -/
def Tree.keysFit : Tree → Bool
  | .array items => items.keysFit
  | .object members => members.keysFit
  | _ => true

/-- The same for items. -/
def Items.keysFit : Items → Bool
  | .last _ item _ => item.keysFit
  | .more _ item _ rest => item.keysFit && rest.keysFit

/-- The same for members. -/
def Members.keysFit : Members → Bool
  | .last _ key behindKey _ item _ => JsonString.fitsKey key behindKey && item.keysFit
  | .more _ key behindKey _ item _ rest =>
    JsonString.fitsKey key behindKey && item.keysFit && rest.keysFit

end

mutual

/-- Whether all integers can be read. It is a condition on making the values, and not on the form of the
text. -/
def Tree.isWritable : Tree → Bool
  | .number n => n.isWritable
  | .array items => items.isWritable
  | .object members => members.isWritable
  | _ => true

/-- The same for items. -/
def Items.isWritable : Items → Bool
  | .last _ item _ => item.isWritable
  | .more _ item _ rest => item.isWritable && rest.isWritable

/-- The same for members. -/
def Members.isWritable : Members → Bool
  | .last _ _ _ _ item _ => item.isWritable
  | .more _ _ _ _ item _ rest => item.isWritable && rest.isWritable

end

/-- What a value is read as. It has the shape of the value that it stands for, and differs in strings and
numbers alone. -/
def Tree.reading (t : Tree) : Value :=
  t.data JsonString.reading Number.reading

/-- Whether a reader of YAML accepts the document. The conditions are of the text alone, and each one is
used: characters by the source, white space and markers by the scanner, keys by the parser. -/
structure Document.Readable (d : Document) : Prop where
  printable : ∀ c ∈ d.chars, Yaml.Source.allows (.ofChar c) = true
  before : isTabless d.before = true
  after : isTabless d.after = true
  scannable : d.root.isScannable = true
  keysFit : d.root.keysFit = true

end TermAudit.JsonText
