import TermAudit.Text.Case
import TermAudit.Time.Written

/-!
# `TermAudit.Yaml.Tag`: what kind of value a node stands for

A `Tag` says how the value of a node is made. It is written in front of the node, or else the kind
of the node decides; for a plain scalar that is its text: `Tag.ofPlain` recognises the forms of
YAML 1.1 for truth values, numbers, times and the rest. A form also counts if a single line feed
follows it.
-/

set_option autoImplicit false

namespace TermAudit

/-- A text as characters; a surrogate, which no form of a scalar holds, becomes U+FFFD. -/
def Text.characters (t : Text) : List Char :=
  t.map fun c => c.toChar?.getD '\uFFFD'

namespace Yaml

/-- How the value of a node is made. A tag without a meaning is kept with its name, and refused when a
value is to be made. -/
inductive Tag where
  | null
  | bool
  | int
  | float
  | binary
  | timestamp
  | omap
  | pairs
  | set
  | str
  | seq
  | map
  /-- The key `<<`, whose value is merged into the mapping. -/
  | merge
  /-- The key `=`, whose value stands for the mapping. -/
  | value
  /-- A tag without meaning here. -/
  | unknown (name : Text)
deriving DecidableEq

namespace Tag

/-- The tags with a meaning, by the last part of their names. -/
def standard : List (String × Tag) :=
  [("null", .null), ("bool", .bool), ("int", .int), ("float", .float), ("binary", .binary),
   ("timestamp", .timestamp), ("omap", .omap), ("pairs", .pairs), ("set", .set), ("str", .str),
   ("seq", .seq), ("map", .map), ("merge", .merge), ("value", .value)]

/-- What the names of tags with a meaning begin with. -/
def standardStart : Text := "tag:yaml.org,2002:"

/-- The tag with a name in full. -/
def ofName (name : Text) : Tag :=
  match name.dropStart? standardStart with
  | none => .unknown name
  | some short =>
    match standard.find? fun (word, _) => Text.ofString word = short with
    | some (_, tag) => tag
    | none => .unknown name

/-- The name of a tag in full. -/
def name (tag : Tag) : Text :=
  match tag with
  | .unknown name => name
  | _ =>
    match standard.find? fun (_, t) => t == tag with
    | some (word, _) => standardStart ++ Text.ofString word
    | none => standardStart

/-! ## The forms of plain scalars -/

/-- Whether the text is one of the words. -/
def isOneOf (words : List String) (cs : List Char) : Bool :=
  words.any fun word => word.toList == cs

/-- Drops a sign from the start. -/
def dropSign : List Char → List Char
  | '+' :: rest => rest
  | '-' :: rest => rest
  | cs => cs

/-- A decimal digit or an underscore. -/
def isSpacedDigit (c : Char) : Bool :=
  c.isDigit || c == '_'

/-- A truth value. -/
def isBool (cs : List Char) : Bool :=
  isOneOf ["yes", "Yes", "YES", "no", "No", "NO", "true", "True", "TRUE", "false", "False",
    "FALSE", "on", "On", "ON", "off", "Off", "OFF"] cs

/-- Nothing, or an exponent with its sign. -/
def isExponent : List Char → Bool
  | [] => true
  | mark :: sign :: digits =>
    (mark == 'e' || mark == 'E') && (sign == '+' || sign == '-') && !digits.isEmpty
      && digits.all Char.isDigit
  | _ => false

/-- One or more parts of a number in base sixty behind its first, each behind a colon and below
sixty, followed by a rest that `ends` accepts. -/
def areSixties (ends : List Char → Bool) : Nat → List Char → Bool
  | 0, _ => false
  | fuel + 1, ':' :: cs =>
    let next (rest : List Char) : Bool := ends rest || areSixties ends fuel rest
    match cs with
    | a :: b :: rest =>
      if a.isDigit && b.isDigit then a ≤ '5' && next rest else a.isDigit && next (b :: rest)
    | [a] => a.isDigit && next []
    | [] => false
  | _ + 1, _ => false

/-- A number with a point or in base sixty with a point, an infinity, or none at all. A number with an
exponent needs both the point and the sign of the exponent. -/
def isFloat (cs : List Char) : Bool :=
  let unsigned := dropSign cs
  let afterWhole := unsigned.dropWhile isSpacedDigit
  let isPointed : List Char → Bool
    | '.' :: rest => isExponent (rest.dropWhile isSpacedDigit)
    | _ => false
  let isLastPart : List Char → Bool
    | '.' :: rest => rest.all isSpacedDigit
    | _ => false
  let startsWithDigit (cs : List Char) : Bool := (cs.headD ' ').isDigit
  (startsWithDigit unsigned && (isPointed afterWhole || areSixties isLastPart cs.length afterWhole))
    || (match cs with
        | '.' :: rest => startsWithDigit rest && isExponent (rest.dropWhile isSpacedDigit)
        | _ => false)
    || isOneOf [".inf", ".Inf", ".INF"] unsigned
    || isOneOf [".nan", ".NaN", ".NAN"] cs

/-- An integer in base 2, 8, 10, 16 or 60. Underscores may stand among the digits, and a sign in front. -/
def isInt (cs : List Char) : Bool :=
  let areAll (p : Char → Bool) (cs : List Char) : Bool := !cs.isEmpty && cs.all p
  match dropSign cs with
  | ['0'] => true
  | '0' :: 'b' :: rest => areAll (fun c => c == '0' || c == '1' || c == '_') rest
  | '0' :: 'x' :: rest =>
    areAll (fun c => isSpacedDigit c || ('a' ≤ c && c ≤ 'f') || ('A' ≤ c && c ≤ 'F')) rest
  | '0' :: rest => areAll (fun c => ('0' ≤ c && c ≤ '7') || c == '_') rest
  | c :: rest =>
    c.isDigit &&
      let after := rest.dropWhile isSpacedDigit
      after.isEmpty || areSixties List.isEmpty after.length after
  | [] => false

/-- A day with all its digits, or a day and a time of day. The calendar is not asked here, so a day that
does not exist has the form as well. -/
def isTimestamp (cs : List Char) : Bool :=
  match WrittenTime.ofChars? cs with
  | some w => w.clock.isSome || w.isFull
  | none => false

/-- A text without one line feed at its end. -/
def dropFinalBreak (cs : List Char) : List Char :=
  if cs.getLast? == some '\n' then cs.dropLast else cs

/-- The forms of scalars, in the order in which they are tried. -/
def forms : List ((List Char → Bool) × Tag) :=
  [(isBool, .bool), (isFloat, .float), (isInt, .int), (isOneOf ["<<"], .merge),
   (isOneOf ["~", "null", "Null", "NULL"], .null), (isTimestamp, .timestamp),
   (isOneOf ["="], .value), (isOneOf ["!", "&", "*"], .unknown "tag:yaml.org,2002:yaml")]

/-- The tag of a scalar whose text decides. The forms are tried in a fixed order, and a text of no form is
a string. -/
def ofPlain (content : Text) : Tag :=
  if content.isEmpty then .null
  else
    let cs := dropFinalBreak content.characters
    match forms.find? fun (hasForm, _) => hasForm cs with
    | some (_, tag) => tag
    | none => .str

end Tag

end Yaml

end TermAudit
