import TermAudit.Value

/-!
# `TermAudit.Proofs.Json.Syntax`: JSON texts and the data they stand for

A JSON text is the spelling of a syntax tree. A `JsonText.Tree` keeps all that the grammar of JSON
leaves open: the white space between tokens, how each character of a string is written, and the
digits of a number. So the JSON texts are exactly the texts `Document.chars` of a `Document`.

What a text stands for is plain data (`Document.value`): a string is a text, in which two escapes of
a surrogate pair stand for one code point; a number without fraction and exponent is an integer, and
any other number the nearest floating-point number. `Tree.data` leaves open how strings and numbers
are read, so that the same tree can be read in another way.
-/

set_option autoImplicit false

namespace TermAudit.JsonText

/-! ## White space -/

/-- A character of white space. -/
inductive Blank where
  | space
  | tab
  | lineFeed
  | carriageReturn
deriving DecidableEq

/-- The character itself. -/
def Blank.char : Blank → Char
  | .space => ' '
  | .tab => '\t'
  | .lineFeed => '\n'
  | .carriageReturn => '\r'

/-- White space between two tokens. -/
abbrev Gap := List Blank

/-- The characters of white space. -/
def gapChars (g : Gap) : List Char :=
  g.map Blank.char

/-! ## Strings -/

/-- An escape of a single character. A slash need not be escaped, but it can be. -/
inductive ShortEscape where
  | quote
  | backslash
  | slash
  | backspace
  | formFeed
  | lineFeed
  | carriageReturn
  | tab
deriving DecidableEq

/-- What follows the backslash. -/
def ShortEscape.letter : ShortEscape → Char
  | .quote => '"'
  | .backslash => '\\'
  | .slash => '/'
  | .backspace => 'b'
  | .formFeed => 'f'
  | .lineFeed => 'n'
  | .carriageReturn => 'r'
  | .tab => 't'

/-- The number of the code point that the escape stands for. -/
def ShortEscape.number : ShortEscape → Nat
  | .quote => 0x22
  | .backslash => 0x5C
  | .slash => 0x2F
  | .backspace => 0x08
  | .formFeed => 0x0C
  | .lineFeed => 0x0A
  | .carriageReturn => 0x0D
  | .tab => 0x09

/-- A hexadecimal digit, in a capital or a small letter if it is one. For the other digits the flag makes
no difference, so a text can have several trees. -/
structure HexDigit where
  value : Fin 16
  capital : Bool
deriving DecidableEq

/-- The digit as a character. -/
def HexDigit.char (d : HexDigit) : Char :=
  Char.ofNat (if d.value.val < 10 then 0x30 + d.value.val
    else if d.capital then 0x37 + d.value.val else 0x57 + d.value.val)

/-- Whether a character may stand for itself in a string. Control characters below the space may not, nor
may what ends a string or begins an escape. -/
def isPlainChar (c : Char) : Bool :=
  0x20 ≤ c.toNat && c != '"' && c != '\\'

/-- A code point, or half of one, as it is written in a string. A unit can be a surrogate, also one
without its partner, which the grammar does not rule out. -/
inductive StringPart where
  | plain (c : Char) (h : isPlainChar c = true)
  | short (e : ShortEscape)
  /-- The escape of a UTF-16 unit by its four digits. -/
  | unit (a b c d : HexDigit)
deriving DecidableEq

namespace StringPart

/-- The characters of a part. -/
def chars : StringPart → List Char
  | .plain c _ => [c]
  | .short e => ['\\', e.letter]
  | .unit a b c d => ['\\', 'u', a.char, b.char, c.char, d.char]

/-- The code point that a part stands for alone. Surrogate pairs are put together afterwards, when the
parts of the string are known. -/
def codePoint : StringPart → CodePoint
  | .plain c _ => .ofChar c
  | .short e => .ofNat e.number
  | .unit a b c d =>
    .ofNat (((a.value.val * 16 + b.value.val) * 16 + c.value.val) * 16 + d.value.val)

end StringPart

/-- A string between its quotation marks. -/
abbrev JsonString := List StringPart

namespace JsonString

/-- The characters of a string between its quotation marks. -/
def inner (s : JsonString) : List Char :=
  s.flatMap StringPart.chars

/-- The characters of a string. -/
def chars (s : JsonString) : List Char :=
  '"' :: inner s ++ ['"']

/-- Whether the code point is the first of a surrogate pair. -/
def isHighSurrogate (c : CodePoint) : Bool :=
  0xD800 ≤ c.val && c.val ≤ 0xDBFF

/-- Whether the code point is the second of a surrogate pair. -/
def isLowSurrogate (c : CodePoint) : Bool :=
  0xDC00 ≤ c.val && c.val ≤ 0xDFFF

/-- Replaces surrogate pairs by what they stand for. Surrogates without a partner stay as they are, and
the text is gone through from the left. -/
def paired : Text → Text
  | [] => []
  | [c] => [c]
  | high :: low :: rest =>
    if isHighSurrogate high && isLowSurrogate low then
      .ofNat (0x10000 + (high.val - 0xD800) * 0x400 + (low.val - 0xDC00)) :: paired rest
    else high :: paired (low :: rest)

/-- The text that a string stands for. -/
def value (s : JsonString) : Text :=
  paired (s.map StringPart.codePoint)

end JsonString

/-! ## Numbers -/

/-- A decimal digit as a character. -/
def digitChar (d : Fin 10) : Char :=
  Char.ofNat (0x30 + d.val)

/-- At least one digit. -/
structure Digits where
  first : Fin 10
  rest : List (Fin 10)
deriving DecidableEq

namespace Digits

/-- All digits, most significant first. -/
def all (d : Digits) : List (Fin 10) :=
  d.first :: d.rest

/-- The characters of digits. -/
def chars (d : Digits) : List Char :=
  d.all.map digitChar

end Digits

/-- The number that digits denote, most significant first. Zeros at the start do not change it. -/
def decimalValue (ds : List (Fin 10)) : Nat :=
  ds.foldl (fun (n : Nat) d => n * 10 + d.val) 0

/-- An exponent: a capital or small `e`, perhaps a sign, and digits. -/
structure Exponent where
  capital : Bool
  /-- The sign, if it is written: whether it is a minus. -/
  minus : Option Bool
  digits : Digits
deriving DecidableEq

namespace Exponent

/-- The characters of a sign. -/
def signChars : Option Bool → List Char
  | none => []
  | some true => ['-']
  | some false => ['+']

/-- The characters of an exponent. -/
def chars (e : Exponent) : List Char :=
  (if e.capital then 'E' else 'e') :: signChars e.minus ++ e.digits.chars

/-- The power of ten that an exponent stands for. -/
def value (e : Exponent) : Int :=
  if e.minus = some true then -(decimalValue e.digits.all : Int) else decimalValue e.digits.all

end Exponent

/-- A number. A zero at its start stands alone, so there are no zeros in front of other digits. -/
structure Number where
  negative : Bool
  whole : Digits
  fraction : Option Digits
  exponent : Option Exponent
  noLeadingZero : whole.first = 0 → whole.rest = []
deriving DecidableEq

namespace Number

/-- The characters of a fraction. -/
def fractionChars : Option Digits → List Char
  | none => []
  | some d => '.' :: d.chars

/-- The characters of an exponent that may be left out. -/
def exponentChars : Option Exponent → List Char
  | none => []
  | some e => e.chars

/-- The characters of a number. -/
def chars (n : Number) : List Char :=
  (if n.negative then ['-'] else []) ++ n.whole.chars ++ fractionChars n.fraction
    ++ exponentChars n.exponent

/-- The digits behind the point. -/
def fractionDigits (n : Number) : List (Fin 10) :=
  match n.fraction with
  | none => []
  | some d => d.all

/-- Whether the number has neither a fraction nor an exponent. -/
def isInteger (n : Number) : Bool :=
  n.fraction.isNone && n.exponent.isNone

/-- The decimal that the number is without its sign: all of its digits as one whole number, and the power
of ten that the point and the exponent make together. -/
def decimal (n : Number) : Decimal :=
  ⟨decimalValue (n.whole.all ++ n.fractionDigits),
    (match n.exponent with
      | none => 0
      | some e => e.value) - n.fractionDigits.length⟩

/-- The integer that the digits before the point denote. -/
def integer (n : Number) : Int :=
  if n.negative then -(decimalValue n.whole.all : Int) else decimalValue n.whole.all

/-- The floating-point number nearest to the number. The sign is applied afterwards, so that a negative
zero is one. -/
def nearest (n : Number) : Binary64 :=
  if n.negative then (Binary64.ofDecimal false n.decimal).neg
  else Binary64.ofDecimal false n.decimal

/-- What the number stands for. A number with a point or an exponent is a floating-point number, also if
it is whole. -/
def value (n : Number) : Scalar :=
  if n.isInteger then .int n.integer else .float n.nearest

end Number

/-! ## Trees -/

mutual

/-- A JSON value as it is written. Empty arrays and objects are cases of their own, since there is white
space in them that belongs to no item. -/
inductive Tree where
  | null
  | bool (b : Bool)
  | number (n : Number)
  | string (s : JsonString)
  | emptyArray (inside : Gap)
  | array (items : Items)
  | emptyObject (inside : Gap)
  | object (members : Members)

/-- The items of an array with the white space around each. There is at least one. -/
inductive Items where
  | last (before : Gap) (item : Tree) (after : Gap)
  | more (before : Gap) (item : Tree) (after : Gap) (rest : Items)

/-- The members of an object with the white space around each key and each value. There is at least one,
and keys may come again. -/
inductive Members where
  | last (before : Gap) (key : JsonString) (behindKey behindColon : Gap) (item : Tree) (after : Gap)
  | more (before : Gap) (key : JsonString) (behindKey behindColon : Gap) (item : Tree) (after : Gap)
    (rest : Members)

end

mutual

/-- The characters of a value. -/
def Tree.chars : Tree → List Char
  | .null => "null".toList
  | .bool true => "true".toList
  | .bool false => "false".toList
  | .number n => n.chars
  | .string s => JsonString.chars s
  | .emptyArray inside => '[' :: gapChars inside ++ [']']
  | .array items => '[' :: items.chars ++ [']']
  | .emptyObject inside => '\x7b' :: gapChars inside ++ ['\x7d']
  | .object members => '\x7b' :: members.chars ++ ['\x7d']

/-- The characters of items. -/
def Items.chars : Items → List Char
  | .last before item after => gapChars before ++ item.chars ++ gapChars after
  | .more before item after rest =>
    gapChars before ++ item.chars ++ gapChars after ++ ',' :: rest.chars

/-- The characters of members. -/
def Members.chars : Members → List Char
  | .last before key behindKey behindColon item after =>
    gapChars before ++ JsonString.chars key ++ gapChars behindKey ++ ':' :: gapChars behindColon
      ++ item.chars ++ gapChars after
  | .more before key behindKey behindColon item after rest =>
    gapChars before ++ JsonString.chars key ++ gapChars behindKey ++ ':' :: gapChars behindColon
      ++ item.chars ++ gapChars after ++ ',' :: rest.chars

end

section Data

variable (string : JsonString → Text) (number : Number → Scalar)

mutual

/-- The data that a value is, given how strings and numbers are read. What a text stands for and what it
is read as are two cases of it, so they can be compared part by part. -/
def Tree.data : Tree → Value
  | .null => .scalar .null
  | .bool b => .scalar (.bool b)
  | .number n => .scalar (number n)
  | .string s => .scalar (.text (string s))
  | .emptyArray _ => .list []
  | .array items => .list items.data
  | .emptyObject _ => .mapping []
  | .object members => .mapping members.data

/-- The data of items. -/
def Items.data : Items → List Value
  | .last _ item _ => [item.data]
  | .more _ item _ rest => item.data :: rest.data

/-- The data of members. A key that comes again gives a second entry, so texts with such keys are left out
where data are compared. -/
def Members.data : Members → List (Scalar × Value)
  | .last _ key _ _ item _ => [(.text (string key), item.data)]
  | .more _ key _ _ item _ rest => (.text (string key), item.data) :: rest.data

end

end Data

/-- What a value stands for. -/
def Tree.value (t : Tree) : Value :=
  t.data JsonString.value Number.value

/-- The keys of members. -/
def Members.keys : Members → List JsonString
  | .last _ key _ _ _ _ => [key]
  | .more _ key _ _ _ _ rest => key :: rest.keys

mutual

/-- Whether no object has a key twice. Keys are compared by what they stand for, as two spellings can be
the same key. -/
def Tree.keysDiffer : Tree → Bool
  | .array items => items.keysDiffer
  | .object members => decide (members.keys.map JsonString.value).Nodup && members.keysDiffer
  | _ => true

/-- The same for items. -/
def Items.keysDiffer : Items → Bool
  | .last _ item _ => item.keysDiffer
  | .more _ item _ rest => item.keysDiffer && rest.keysDiffer

/-- The same for members. -/
def Members.keysDiffer : Members → Bool
  | .last _ _ _ _ item _ => item.keysDiffer
  | .more _ _ _ _ item _ rest => item.keysDiffer && rest.keysDiffer

end

/-- A value with white space around it. Every JSON text is the spelling of a document, and a document has
one text. -/
structure Document where
  before : Gap
  root : Tree
  after : Gap

namespace Document

/-- The characters of a document. -/
def chars (d : Document) : List Char :=
  gapChars d.before ++ d.root.chars ++ gapChars d.after

/-- The text of a document. -/
def text (d : Document) : Text :=
  .ofChars d.chars

/-- What a document stands for. -/
def value (d : Document) : Value :=
  d.root.value

end Document

end TermAudit.JsonText
