import TermAudit.Number.Reading
import TermAudit.Number.Style
import TermAudit.OrderedMap
import TermAudit.Text.Quoted
import TermAudit.Time.Calendar

/-!
# `TermAudit.Value`: plain data

The value of a trait, the metadata of a model and a configuration are plain data. A `Scalar` is a
value without parts. Only scalars can be keys of a mapping or elements of a set, and two of them
are the same key if they are equal as numbers, moments or texts (`Scalar.sameKey`): `1`, `1.0` and
`true` are one key. A scalar has two written forms: `shown` is the one that tells kinds apart, as
messages quote it, and `plainText` the bare one.
-/

set_option autoImplicit false

namespace TermAudit

/-- A value without parts: what the standard tags of a document can denote. Numbers of different kinds are
different scalars even where they count as the same key of a mapping (`Scalar.sameKey`). -/
inductive Scalar where
  | null
  | bool (b : Bool)
  | int (n : Int)
  | float (x : Binary64)
  | text (t : Text)
  | octets (bytes : List UInt8)
  | date (d : Date)
  | timestamp (t : Timestamp)
deriving DecidableEq

/-- Plain data, as trait values, metadata and configurations have it. Mappings and sets are kept as lists,
in the order in which their keys and elements came, since whatever walks through them sees this order. -/
inductive Value where
  | scalar (s : Scalar)
  | list (items : List Value)
  /-- Items in a row of fixed length. Documents make tuples of a key and a value, as the entries of ordered
  mappings and of lists of pairs. -/
  | tuple (items : List Value)
  /-- A set, in the order in which its elements came. -/
  | set (elements : List Scalar)
  /-- A mapping, in the order in which its keys came. -/
  | mapping (entries : List (Scalar × Value))

namespace Scalar

/-- The integer that a truth value counts as where it is compared with numbers. -/
def ofBool (b : Bool) : Int :=
  if b then 1 else 0

/-- Whether two scalars are the same key of a mapping. Truth values, integers and floating-point numbers
are the same key if they are the same number, so that `1`, `1.0` and `true` exclude each other. Scalars of
other kinds are compared within their kind. -/
def sameKey : Scalar → Scalar → Bool
  | .null, .null => true
  | .bool a, .bool b => a == b
  | .bool a, .int b => ofBool a == b
  | .int a, .bool b => a == ofBool b
  | .int a, .int b => a == b
  | .float x, .float y => x.sameNumber y
  | .float x, .int n => x.isInt n
  | .int n, .float x => x.isInt n
  | .float x, .bool b => x.isInt (ofBool b)
  | .bool b, .float x => x.isInt (ofBool b)
  | .text s, .text t => s == t
  | .octets a, .octets b => a == b
  | .date a, .date b => a == b
  | .timestamp s, .timestamp t => s.sameMoment t
  | _, _ => false

/-- Whether the scalar is an integer with more digits than can be written. Such an integer can be a value
and a key. Only writing it fails. -/
def isOverlong : Scalar → Bool
  | .int n => TermAudit.isOverlong n
  | _ => false

/-- The written form that tells kinds apart, with quotation marks around texts. Errors show keys in this
form. -/
def shown : Scalar → Text
  | .null => "None"
  | .bool true => "True"
  | .bool false => "False"
  | .int n => Text.ofInt n
  | .float x => x.shown
  | .text t => t.quoted
  | .octets bytes => quotedOctets bytes
  | .date d => d.shown
  | .timestamp t => t.shown

/-- The bare written form, which a key has as a step of a path: texts are written without quotation marks,
and days and times as documents write them. -/
def plainText : Scalar → Text
  | .text t => t
  | .date d => d.iso
  | .timestamp t => t.isoWith " "
  | s => s.shown

end Scalar

namespace Value

/-- The text, if the value is one. -/
def text? : Value → Option Text
  | .scalar (.text t) => some t
  | _ => none

/-- Puts an entry into the entries of a mapping. A key that is there keeps its place and its spelling, and
only its value is replaced. -/
def putEntry (entries : List (Scalar × Value)) (k : Scalar) (v : Value) : List (Scalar × Value) :=
  Entries.put Scalar.sameKey k v entries

end Value

end TermAudit
