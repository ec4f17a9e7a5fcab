import TermAudit.Text.Basic
import TermAudit.Text.Printable

/-!
# `TermAudit.Text.Quoted`: a text between quotation marks, as messages show it

A text is shown between apostrophes, or between double quotation marks if it holds an apostrophe
and no double quotation mark. Inside, the mark in use and the backslash follow a backslash, line
feed, carriage return and tab have their letters, and any other code point that is not printable
is written by its number in two, four or eight hexadecimal digits. `quotedOctets` shows
octets by the same rules, behind a `b`.
-/

set_option autoImplicit false

namespace TermAudit

/-- The number of a code point as an escape. -/
def CodePoint.numberEscape (c : CodePoint) : Text :=
  if c.val < 0x100 then ("\\x" : Text) ++ Text.hex 2 c.val
  else if c.val < 0x10000 then ("\\u" : Text) ++ Text.hex 4 c.val
  else ("\\U" : Text) ++ Text.hex 8 c.val

/-- A code point as it stands between the marks `mark`, where `shown` tells which code points may
stand for themselves. -/
def CodePoint.escaped (shown : CodePoint → Bool) (mark c : CodePoint) : Text :=
  if c = mark ∨ c = '\\' then [CodePoint.ofChar '\\', c]
  else if c = '\n' then "\\n"
  else if c = '\r' then "\\r"
  else if c = '\t' then "\\t"
  else if shown c then [c]
  else c.numberEscape

namespace Text

/-- The quotation mark that a text calls for: the simple one, unless the text has it and not the other. -/
def quotationMark (t : Text) : CodePoint :=
  if CodePoint.ofChar '\'' ∈ t ∧ CodePoint.ofChar '"' ∉ t then '"' else '\''

/-- A text between quotation marks, with escapes where `shown` fails. -/
def quotedBy (shown : CodePoint → Bool) (t : Text) : Text :=
  let mark := t.quotationMark
  mark :: t.flatMap (CodePoint.escaped shown mark) ++ [mark]

/-- A text between quotation marks. Code points that cannot be printed are written as escapes, so that a
message shows them. -/
def quoted (t : Text) : Text :=
  t.quotedBy CodePoint.isPrintable

end Text

/-- Octets between quotation marks: those of printable ASCII stand for themselves. -/
def quotedOctets (octets : List UInt8) : Text :=
  CodePoint.ofChar 'b' ::
    Text.quotedBy (fun c => 0x20 ≤ c.val && c.val < 0x7F) (octets.map (CodePoint.ofNat ·.toNat))

end TermAudit
