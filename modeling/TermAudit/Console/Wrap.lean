import TermAudit.Console.Styled
import TermAudit.Console.Width
import TermAudit.Text.Blank

/-!
# `TermAudit.Console.Wrap`: texts in lines of a width

`Styled.wrapped` cuts a text into lines that take a number of cells at most. A line ends at a line
break of the text, or between two words where the next word does not fit; the blanks behind a word
belong to it. A word that fits on no line is folded over several, or stands alone and gives way to
an ellipsis. Tabs reach to the next column that eight divides.
-/

set_option autoImplicit false

namespace TermAudit

/-- What becomes of text that does not fit on a line. -/
inductive Overflow where
  /-- It goes on on the next line. -/
  | fold
  /-- It is left out, and an ellipsis says so. -/
  | ellipsis
deriving DecidableEq

/-- Where the text of a line stands. -/
inductive Alignment where
  /-- At the start of a line that ends with it. -/
  | plain
  /-- At the start of a line that spaces fill up. -/
  | left
  /-- In the middle, without the blanks behind it. -/
  | center
deriving DecidableEq

namespace Text

/-- The columns between two stops for tabs. -/
def tabSize : Nat := 8

/-- The spaces that reach from the end of a text to the next stop for tabs, if the text begins at
one. -/
def spacesToStop (t : Text) : Text :=
  spaces ((tabSize - t.cells % tabSize) % tabSize)

/-- The text without the white space at its end. -/
def stripEnd (t : Text) : Text :=
  (t.reverse.dropWhile CodePoint.isBlank).reverse

/-- The words with the blanks behind them, and the first one also with the blanks before it, where
`before` is what has been seen of a word, last code point first. Blanks alone are no word. -/
def spacedWordsFrom (before : Text) : Text → List Text
  | [] => if before.all CodePoint.isBlank then [] else [before.reverse]
  | c :: rest =>
    if !c.isBlank && before.head?.any CodePoint.isBlank && !before.all CodePoint.isBlank then
      before.reverse :: spacedWordsFrom [c] rest
    else spacedWordsFrom (c :: before) rest

/-- The words with the blanks around them. -/
def spacedWords (t : Text) : List Text :=
  spacedWordsFrom [] t

/-- A line that grows: its text, last code point first, and the cells that it takes. -/
structure OpenLine where
  before : Text
  cells : Nat

/-- The line that holds a text. -/
def OpenLine.ofText (t : Text) : OpenLine :=
  ⟨t.reverse, t.cells⟩

/-- Adds a text to a line. -/
def OpenLine.append (line : OpenLine) (t : Text) : OpenLine :=
  ⟨t.reverse ++ line.before, line.cells + t.cells⟩

/-- Folds clusters over lines that take a number of cells at most and come, last first, before
others. -/
def foldOver (width : Nat) (line : OpenLine) (lines : List OpenLine) : List Cluster → List OpenLine
  | [] => .ofText line.before.reverse :: lines
  | c :: rest =>
    if width < line.cells + c.cells then foldOver width ⟨c.before, c.cells⟩ (line :: lines) rest
    else foldOver width ⟨c.before ++ line.before, line.cells + c.cells⟩ lines rest

/-- Adds a word to lines, last line first. -/
def placeWord (overflow : Overflow) (width : Nat) (lines : List OpenLine) (word : Text) :
    List OpenLine :=
  let needed := word.stripEnd.cells
  match lines with
  | line :: others =>
    if line.cells + needed ≤ width then line.append word :: others else startLine needed
  | [] => startLine needed
where
  /-- Puts the word on a line of its own. -/
  startLine (needed : Nat) : List OpenLine :=
    if width < needed ∧ overflow = .fold then foldOver width ⟨[], 0⟩ lines word.clusters
    else .ofText word :: lines

/-- Drops blanks at the end of a text that has more code points than a width. -/
def withoutExcessBlanks (width : Nat) (t : Text) : Text :=
  let blanks := t.length - t.stripEnd.length
  t.take (t.length - min blanks (t.length - width))

/-- What can be shown of a line. -/
def fitted (overflow : Overflow) (width : Nat) (t : Text) : Text :=
  if t.cells ≤ width then t
  else
    match overflow with
    | .fold => t.cropped width
    | .ellipsis => t.cropped (width - 1) ++ ("…" : Text)

/-- The lines of a text without line breaks and tabs, before any of them is fitted. -/
def brokenLines (overflow : Overflow) (width : Nat) (t : Text) : List Text :=
  match t.spacedWords with
  | [] => [t]
  | words => (words.foldl (placeWord overflow width) []).reverse.map fun l => l.before.reverse

/-- Whether a line ends at the code point. -/
def isLineEnd (c : CodePoint) : Bool :=
  (0x0A ≤ c.val && c.val ≤ 0x0D) || (0x1C ≤ c.val && c.val ≤ 0x1E) || c.val == 0x85
    || c.val == 0x2028 || c.val == 0x2029

/-- The greatest number of cells of a line, where `before` is what has been seen of the line, last
code point first, and `widest` the greatest number so far. -/
def widestFrom (before : Text) (widest : Nat) : Text → Nat
  | [] => max (cells before.reverse) widest
  | c :: rest =>
    if isLineEnd c then widestFrom [] (max (cells before.reverse) widest) rest
    else widestFrom (c :: before) widest rest

/-- The number of cells that the widest line of a text takes. Any code point that can end a line
counts as one that does. -/
def widestLine (t : Text) : Nat :=
  widestFrom [] 0 t

end Text

namespace Styled

/-- A piece of a text up to a tab, with spaces in place of the tab. -/
def tabFilled (s : Styled) : Styled :=
  let filled : Styled := ⟨s.text.dropLast ++ Text.spaces 1, s.spans⟩
  filled.extended filled.text.spacesToStop

/-- Puts spaces in place of the tabs of a line. -/
def withoutTabs (s : Styled) : Styled :=
  match s.text.splitAll '\t' with
  | [] | [_] => s
  | parts =>
    let ended := parts.dropLast.map fun t => t ++ ("\t" : Text)
    let pieces := s.piecesFrom 0 0 (ended ++ [parts.getLastD []])
    joined (pieces.dropLast.map tabFilled ++ [pieces.getLastD ⟨[], []⟩])

/-- What is shown of a line on so many cells. -/
def fitted (overflow : Overflow) (alignment : Alignment) (width : Nat) (s : Styled) : Styled :=
  let s := s.shortened (s.text.withoutExcessBlanks width)
  match alignment with
  | .plain => s.shortened (s.text.fitted overflow width)
  | .left =>
    if s.text.cells < width then ⟨s.text ++ Text.spaces (width - s.text.cells), s.spans⟩
    else s.shortened (s.text.fitted overflow width)
  | .center =>
    let s := s.shortened s.text.stripEnd
    s.shortened (s.text.fitted overflow width)

/-- A line in lines that take a number of cells at most. -/
def wrappedLine (overflow : Overflow) (alignment : Alignment) (width : Nat) (s : Styled) :
    List Styled :=
  let s := s.withoutTabs
  (s.cut 0 (s.text.brokenLines overflow width)).map (fitted overflow alignment width)

/-- A text in lines that take a number of cells at most. -/
def wrapped (overflow : Overflow) (alignment : Alignment) (width : Nat) (s : Styled) :
    List Styled :=
  s.lines.flatMap (wrappedLine overflow alignment width)

end Styled

end TermAudit
