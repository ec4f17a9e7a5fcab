import TermAudit.Text.Base64
import TermAudit.Value
import TermAudit.Yaml.Merge

/-!
# `TermAudit.Yaml.Scalars`: the values of scalar nodes

`Graph.scalar?` makes the value of a node whose tag asks for a scalar. The text of such a node is
its own, or, if it is a mapping with a key `=`, the text of that key's value.

The readers of numbers accept more than the forms that make a plain scalar a number: a written tag
can ask for a number whatever the text is.
-/

set_option autoImplicit false

namespace TermAudit.Yaml

/-! ## Numbers out of texts -/

/-- Refuses what cannot be read. -/
def readable {α : Type} (what : Unreadable) : Option α → Except Fault α
  | some a => pure a
  | none => throw (.unreadable what)

/-- The integer of a text in a base. -/
def readIntIn (base : Nat) (t : Text) : Except Fault Int :=
  readable (.integer base t) (t.toInt? base)

/-- The floating-point number of a text in decimal. -/
def readFloatPart (origin : Nat) (t : Text) : Except Fault Binary64 :=
  readable (.float t) (t.toBinary64? origin)

/-- Drops underscores and takes a sign off: whether it is a minus, and the rest. -/
def takeNumberSign (t : Text) : Except Fault (Bool × Text) :=
  match t.filter fun c => decide (c ≠ CodePoint.ofChar '_') with
  | [] => throw .emptyNumber
  | digits => pure (Text.takeSign digits)

/-- The value of digits in base sixty, the last one first; `unit` is what the first one counts. The digits
need not be below sixty. -/
def sixties (unit : Int) : List Int → Int
  | [] => 0
  | d :: rest => d * unit + sixties (unit * 60) rest

/-- The integer of a text without sign: in base 2 behind `0b`, 16 behind `0x` and 8 behind another zero,
in base 60 if it has colons, and else in base 10. A text that has the tag in writing need not look like an
integer, so this can fail. -/
def readMagnitude (t : Text) : Except Fault Int :=
  match t with
  | [] => throw .emptyNumber
  | c :: _ =>
    if t = Text.ofString "0" then pure 0
    else if t.beginsWith "0b" then readIntIn 2 (t.drop 2)
    else if t.beginsWith "0x" then readIntIn 16 (t.drop 2)
    else if c = '0' then readIntIn 8 t
    else if CodePoint.ofChar ':' ∈ t then do
      let digits ← (t.splitAll ':').mapM (readIntIn 10)
      return sixties 1 digits.reverse
    else readIntIn 10 t

/-- The integer of a text. -/
def readInt (t : Text) : Except Fault Int := do
  let (negative, digits) ← takeNumberSign t
  let n ← readMagnitude digits
  return if negative then -n else n

/-- The sum of floating-point digits in base sixty, the last one first, onto `sum`. The units have
to be floating-point numbers too. -/
def sumSixties (unit : Int) (sum : Binary64) : List Binary64 → Except Fault Binary64
  | [] => pure sum
  | d :: rest =>
    match Binary64.ofInt unit with
    | .infinity _ => throw .tooLarge
    | u => sumSixties (unit * 60) (sum.add (d.mul u)) rest

/-- The floating-point number of a text; `origin` marks the result of a computation that is not a
number, while all texts `.nan` stand for the same one. -/
def readFloat (origin : Nat) (t : Text) : Except Fault Binary64 := do
  let (negative, digits) ← takeNumberSign t.lower
  let signed (x : Binary64) : Binary64 := if negative then x.neg else x
  if digits = Text.ofString ".inf" then return .infinity negative
  else if digits = Text.ofString ".nan" then return .nan 0
  else if CodePoint.ofChar ':' ∈ digits then
    let parts ← (digits.splitAll ':').mapM (readFloatPart origin)
    match ← sumSixties 1 .zero parts.reverse with
    | .nan _ => return .nan origin
    | sum => return signed sum
  else return signed (← readFloatPart origin digits)

/-- The words for truth values. -/
def truthWords : List (String × Bool) :=
  [("yes", true), ("no", false), ("true", true), ("false", false), ("on", true), ("off", false)]

/-- The truth value of a word in any case. A word that is none has no value, and its fault is one that a
model document leaves to its caller. -/
def readBool (t : Text) : Except Fault Bool :=
  match truthWords.find? fun (word, _) => Text.ofString word = t.lower with
  | some (_, b) => pure b
  | none => throw .unknownWord

/-- The day, or day and time, of a text. -/
def readTime (t : Text) : Except Fault Scalar :=
  match WrittenTime.ofChars? (Tag.dropFinalBreak t.characters) with
  | none => throw .formlessTime
  | some w =>
    match w.clock with
    | none => .date <$> readable .time w.date?
    | some clock => .timestamp <$> readable .time (w.timestamp? clock)

namespace Graph

/-- The text of a node: its own, or that of the value of its key `=`. Mappings with such a key can
lead from one to the next, at most through all nodes unless they lead back. -/
def text? (g : Graph) : Nat → NodeId → Except Fault Text
  | 0, _ => throw .endless
  | fuel + 1, id =>
    match (g.node id).content with
    | .scalar text => pure text
    | .sequence _ => g.refuse id (.wrongKind .scalar .sequence)
    | .mapping entries =>
      match entries.find? fun (key, _) => (g.node key).tag == .value with
      | some (_, value) => g.text? fuel value
      | none => g.refuse id (.wrongKind .scalar .mapping)

/-- Whether the node is a scalar itself. A node can have the text of another one behind a key `=`. -/
def isScalar (g : Graph) (id : NodeId) : Bool :=
  match (g.node id).content with
  | .scalar _ => true
  | _ => false

/-- The value of a node whose tag asks for a scalar; nothing if it asks for something else. -/
def scalar? (g : Graph) (id : NodeId) : Option (Except Fault Scalar) :=
  let text := g.text? (g.size + 1) id
  match (g.node id).tag with
  | .null => some (text.map fun _ => .null)
  | .bool => some (text >>= fun t => .bool <$> readBool t)
  | .int => some (text >>= fun t => .int <$> readInt t)
  | .float => some (text >>= fun t => .float <$> readFloat (id + 1) t)
  | .str => some (.text <$> text)
  | .binary =>
    some do
      let t ← text
      if !t.all CodePoint.isAscii then g.refuse id .notAscii
      match Base64.decode? t.characters with
      | some octets => return .octets octets
      | none => g.refuse id .notBase64
  | .timestamp =>
    some do
      let t ← text
      if g.isScalar id then readTime t else throw .timeNotText
  | _ => none

end Graph

end TermAudit.Yaml
