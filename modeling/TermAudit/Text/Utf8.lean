import TermAudit.Text.Basic

/-!
# `TermAudit.Text.Utf8`: texts as octets

`Text.ofUtf8?` reads octets by the table of well-formed sequences of the Unicode standard: no
overlong form, no surrogate, nothing above U+10FFFF. `Text.withPlainBreaks` reads the three line
endings of files as one.
-/

set_option autoImplicit false

namespace TermAudit

namespace Utf8

/-- Whether the octet continues a sequence. -/
def isTail (b : UInt8) : Bool :=
  0x80 ≤ b && b ≤ 0xBF

/-- Whether the second octet of a sequence may follow the first. This leaves out overlong forms,
surrogates and numbers past the last code point. -/
def secondFits (first second : UInt8) : Bool :=
  if first == 0xE0 then 0xA0 ≤ second && second ≤ 0xBF
  else if first == 0xED then 0x80 ≤ second && second ≤ 0x9F
  else if first == 0xF0 then 0x90 ≤ second && second ≤ 0xBF
  else if first == 0xF4 then 0x80 ≤ second && second ≤ 0x8F
  else isTail second

/-- The low six bits of a continuation octet. -/
def tailBits (b : UInt8) : Nat :=
  b.toNat % 64

/-- Reads well-formed octets, and gives nothing if some sequence is ill-formed. There is no replacement
for octets that cannot be read. -/
def decode? : List UInt8 → Option Text
  | [] => some []
  | a :: rest =>
    if a < 0x80 then (decode? rest).map (CodePoint.ofNat a.toNat :: ·)
    else if 0xC2 ≤ a && a ≤ 0xDF then
      match rest with
      | b :: rest =>
        if isTail b then
          (decode? rest).map (CodePoint.ofNat (a.toNat % 32 * 64 + tailBits b) :: ·)
        else none
      | _ => none
    else if 0xE0 ≤ a && a ≤ 0xEF then
      match rest with
      | b :: c :: rest =>
        if secondFits a b && isTail c then
          (decode? rest).map
            (CodePoint.ofNat ((a.toNat % 16 * 64 + tailBits b) * 64 + tailBits c) :: ·)
        else none
      | _ => none
    else if 0xF0 ≤ a && a ≤ 0xF4 then
      match rest with
      | b :: c :: d :: rest =>
        if secondFits a b && isTail c && isTail d then
          (decode? rest).map
            (CodePoint.ofNat
              (((a.toNat % 8 * 64 + tailBits b) * 64 + tailBits c) * 64 + tailBits d) :: ·)
        else none
      | _ => none
    else none

end Utf8

namespace Text

/-- The text of well-formed octets. -/
def ofUtf8? (octets : List UInt8) : Option Text :=
  Utf8.decode? octets

/-- Reads a carriage return, alone or before a line feed, as a line feed. Files are read this way, so
positions in them do not depend on how their lines end. -/
def withPlainBreaks : Text → Text
  | [] => []
  | c :: rest =>
    if c = '\r' then
      match rest with
      | d :: after =>
        if d = '\n' then CodePoint.ofChar '\n' :: withPlainBreaks after
        else CodePoint.ofChar '\n' :: withPlainBreaks (d :: after)
      | [] => [CodePoint.ofChar '\n']
    else c :: withPlainBreaks rest

end Text

end TermAudit
