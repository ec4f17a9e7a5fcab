import TermAudit.Text.Basic

/-!
# `TermAudit.Json`: printing JSON

`Json.printed` writes a value over several lines, each level indented by two spaces, in ASCII: every
other code point is an escape, and one past U+FFFF two of them.
-/

set_option autoImplicit false

namespace TermAudit

/-- A JSON value, as far as reports and tables need them. Objects have their members in order. -/
inductive Json where
  | null
  | bool (b : Bool)
  | int (n : Int)
  | text (t : Text)
  | array (items : List Json)
  | object (members : List (Text × Json))

namespace Json

/-- The number of a UTF-16 unit as an escape. -/
def unitEscape (n : Nat) : Text :=
  ("\\u" : Text) ++ Text.hex 4 n

/-- A code point in a string. The output is ASCII, so all code points beyond it are escaped, those past
the basic plane as two surrogates. -/
def escaped (c : CodePoint) : Text :=
  if c = '"' then "\\\""
  else if c = '\\' then "\\\\"
  else if c = '\n' then "\\n"
  else if c = '\r' then "\\r"
  else if c = '\t' then "\\t"
  else if c.val = 0x08 then "\\b"
  else if c.val = 0x0C then "\\f"
  else if 0x20 ≤ c.val ∧ c.val ≤ 0x7E then [c]
  else if c.val < 0x10000 then unitEscape c.val
  else
    let n := c.val - 0x10000
    unitEscape (0xD800 + n / 0x400) ++ unitEscape (0xDC00 + n % 0x400)

/-- A string. -/
def string (t : Text) : Text :=
  ("\"" : Text) ++ t.flatMap escaped ++ ("\"" : Text)

/-- A new line at a depth. -/
def newline (depth : Nat) : Text :=
  CodePoint.ofChar '\n' :: List.replicate (2 * depth) (CodePoint.ofChar ' ')

mutual

/-- A value at a depth: every item and member has a line of its own, indented by two spaces for each
level, and empty arrays and objects stay on one line. -/
def printedAt (depth : Nat) : Json → Text
  | .null => "null"
  | .bool true => "true"
  | .bool false => "false"
  | .int n => Text.ofInt n
  | .text t => string t
  | .array [] => "[]"
  | .array (item :: rest) =>
    ("[" : Text) ++ newline (depth + 1) ++ printedAt (depth + 1) item
      ++ printedItems (depth + 1) rest ++ newline depth ++ ("]" : Text)
  | .object [] => "\x7b\x7d"
  | .object ((key, value) :: rest) =>
    ("\x7b" : Text) ++ newline (depth + 1) ++ string key ++ (": " : Text)
      ++ printedAt (depth + 1) value ++ printedMembers (depth + 1) rest ++ newline depth
      ++ ("\x7d" : Text)

/-- Further items of an array. -/
def printedItems (depth : Nat) : List Json → Text
  | [] => []
  | item :: rest =>
    ("," : Text) ++ newline depth ++ printedAt depth item ++ printedItems depth rest

/-- Further members of an object. -/
def printedMembers (depth : Nat) : List (Text × Json) → Text
  | [] => []
  | (key, value) :: rest =>
    ("," : Text) ++ newline depth ++ string key ++ (": " : Text) ++ printedAt depth value
      ++ printedMembers depth rest

end

/-- A value in writing. -/
def printed (j : Json) : Text :=
  j.printedAt 0

end Json

end TermAudit
