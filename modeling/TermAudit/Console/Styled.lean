import TermAudit.Text.Basic

/-!
# `TermAudit.Console.Styled`: texts with styles

A `Styled` text has styles over stretches of it. Cutting a text cuts its stretches: each piece keeps
what lies over some of it (`Styled.cut`), and a shorter text keeps what begins inside
(`Styled.shortened`). `Styled.joined` puts pieces together again, and `Styled.segments` are the
parts of a text in which the styles stay the same.
-/

set_option autoImplicit false

namespace TermAudit

/-- A style over the code points from `start` on and before `stop`. A handler has no definition. -/
structure Span where
  start : Nat
  stop : Nat
  definition : Option Text
deriving DecidableEq

/-- The part of a style that lies over a stretch of `length` code points behind `start` others,
unless it is empty. -/
def Span.within (s : Span) (start length : Nat) : Option Span :=
  let part : Span := ⟨s.start - start, min (s.stop - start) length, s.definition⟩
  if part.start < part.stop then some part else none

/-- The style behind so many code points more. -/
def Span.moved (s : Span) (count : Nat) : Span :=
  ⟨s.start + count, s.stop + count, s.definition⟩

/-- A text with styles. -/
structure Styled where
  text : Text
  spans : List Span
deriving DecidableEq

namespace Styled

/-- Pieces of a text from `start` on that stand `gap` code points apart. -/
def piecesFrom (s : Styled) (gap start : Nat) : List Text → List Styled
  | [] => []
  | t :: rest =>
    ⟨t, s.spans.filterMap fun span => span.within start t.length⟩
      :: piecesFrom s gap (start + t.length + gap) rest

/-- Cuts a text into pieces that stand `gap` code points apart. A text that is not cut keeps all
its styles, also those over nothing. -/
def cut (s : Styled) (gap : Nat) (pieces : List Text) : List Styled :=
  if pieces.length ≤ 1 then [s] else s.piecesFrom gap 0 pieces

/-- The lines of a text. -/
def lines (s : Styled) : List Styled :=
  s.cut 1 (s.text.splitAll '\n')

/-- Puts a text in the place of one that is not shorter. Only if it is indeed shorter the styles
change: those that begin behind its end are gone. -/
def shortened (s : Styled) (t : Text) : Styled :=
  if t.length < s.text.length then
    ⟨t, (s.spans.filter fun span => span.start < t.length).map fun span =>
      ⟨span.start, min span.stop t.length, span.definition⟩⟩
  else ⟨t, s.spans⟩

/-- A text and another one behind it. -/
def append (s t : Styled) : Styled :=
  ⟨s.text ++ t.text, s.spans ++ t.spans.map fun span => span.moved s.text.length⟩

/-- Pieces one behind the other. -/
def joined : List Styled → Styled
  | [] => ⟨[], []⟩
  | s :: rest => s.append (joined rest)

/-- Adds a text at the end, over which the styles go on that reach to the end. -/
def extended (s : Styled) (t : Text) : Styled :=
  ⟨s.text ++ t, s.spans.map fun span =>
    if s.text.length ≤ span.stop then ⟨span.start, span.stop + t.length, span.definition⟩
    else span⟩

/-- Cuts a text that begins behind `start` code points at places that come in order. -/
def segmentsFrom (start : Nat) (t : Text) : List Nat → List Text
  | [] => [t]
  | place :: rest => t.take (place - start) :: segmentsFrom place (t.drop (place - start)) rest

/-- The stretches of a text between the places where a style begins or ends. -/
def segments (s : Styled) : List Text :=
  segmentsFrom 0 s.text ((s.spans.flatMap fun span => [span.start, span.stop]).mergeSort)

end Styled

end TermAudit
