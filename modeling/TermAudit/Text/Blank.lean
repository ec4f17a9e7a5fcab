import TermAudit.Text.Basic
import TermAudit.Text.Stride

/-!
# `TermAudit.Text.Blank`: white space around a text

The white space here is that of Unicode, together with the four information separators U+001C to
U+001F. `Text.strip` removes it from both ends, and `Text.words` cuts a text at it.
-/

set_option autoImplicit false

namespace TermAudit

/-- The code points that count as white space. -/
def CodePoint.blankStrides : List Stride :=
  [⟨0x0009, 0x000D, 1⟩, ⟨0x001C, 0x0020, 1⟩, ⟨0x0085, 0x0085, 1⟩, ⟨0x00A0, 0x00A0, 1⟩,
   ⟨0x1680, 0x1680, 1⟩, ⟨0x2000, 0x200A, 1⟩, ⟨0x2028, 0x2029, 1⟩, ⟨0x202F, 0x202F, 1⟩,
   ⟨0x205F, 0x205F, 1⟩, ⟨0x3000, 0x3000, 1⟩]

/-- Whether the code point is white space. -/
def CodePoint.isBlank (c : CodePoint) : Bool :=
  blankStrides.any (·.contains c.val)

namespace Text

/-- The text without the longest start and the longest end whose code points all satisfy `p`. -/
def stripBy (p : CodePoint → Bool) (t : Text) : Text :=
  ((t.dropWhile p).reverse.dropWhile p).reverse

/-- The text without the white space around it. -/
def strip (t : Text) : Text :=
  t.stripBy CodePoint.isBlank

/-- The words of a text, given the start of one, last code point first. -/
def wordsFrom (start : Text) : Text → List Text
  | [] => if start.isEmpty then [] else [start.reverse]
  | c :: rest =>
    if c.isBlank then
      if start.isEmpty then wordsFrom [] rest else start.reverse :: wordsFrom [] rest
    else wordsFrom (c :: start) rest

/-- The longest pieces of a text without white space. -/
def words (t : Text) : List Text :=
  wordsFrom [] t

end Text

end TermAudit
