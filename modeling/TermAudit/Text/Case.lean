import TermAudit.Text.Case.Lower
import TermAudit.Text.Case.Sigma
import TermAudit.Text.Case.Upper

/-!
# `TermAudit.Text.Case`: changing the case of a text

`Text.lower` is the full lowercase mapping. It differs from mapping each code point by
`CodePoint.lower` in two places: `İ` becomes `i` and a combining dot, and a capital sigma that
ends a word becomes `ς`. `Text.capitalize` and `Text.uncapitalize` change the first code point
alone.
-/

set_option autoImplicit false

namespace TermAudit

namespace CodePoint

/-- The full lowercase form of a code point that stands alone. There is a single one that becomes two code
points. -/
def lowerFull (c : CodePoint) : Text :=
  if c = 'İ' then [ofChar 'i', ofNat 0x0307] else [c.lower]

end CodePoint

namespace Text

/-- Lowercases the rest of a text, given what stands before it, nearest first. -/
def lowerAfter (before : Text) : Text → Text
  | [] => []
  | c :: rest =>
    let here :=
      if c = 'Σ' then [if sigmaIsFinal before rest then CodePoint.ofChar 'ς' else 'σ']
      else c.lowerFull
    here ++ lowerAfter (c :: before) rest

/-- The full lowercase form of a text. A capital sigma has another form at the end of a word, so a text is
not lowercased code point by code point. -/
def lower (t : Text) : Text :=
  lowerAfter [] t

/-- Puts the first code point in uppercase, which can be several. All others stay as they are. -/
def capitalize : Text → Text
  | [] => []
  | c :: rest => c.upper ++ rest

/-- Puts the first code point in lowercase. All others stay as they are. -/
def uncapitalize : Text → Text
  | [] => []
  | c :: rest => c.lowerFull ++ rest

/-- Whether the first code point is an uppercase letter. -/
def startsUpper : Text → Bool
  | [] => false
  | c :: _ => c.isUpper

end Text

end TermAudit
