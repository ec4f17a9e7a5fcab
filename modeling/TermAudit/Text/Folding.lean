import TermAudit.Text.Case.Lower
import TermAudit.Text.Basic

/-!
# `TermAudit.Text.Folding`: equality of texts up to case

Two code points are the same letter up to case if their simple lowercase forms are equal or belong
to one of the classes of lowercase letters that share an uppercase form, such as `s` and `ſ`. Each
class is represented by its first member, so `CodePoint.fold` decides this equivalence
(`sameLetter_iff`) and lifts to texts code point by code point. No code point folds to more
than one, so texts that are equal up to case have the same length (`SameLetters.length_eq`).
-/

set_option autoImplicit false

namespace TermAudit

namespace CodePoint

/-- Lowercase letters with a common uppercase form. -/
def letterClasses : List (List Nat) :=
  [[0x0069, 0x0131], [0x0073, 0x017F], [0x00B5, 0x03BC], [0x0345, 0x03B9, 0x1FBE],
   [0x0390, 0x1FD3], [0x03B0, 0x1FE3], [0x03B2, 0x03D0], [0x03B5, 0x03F5], [0x03B8, 0x03D1],
   [0x03BA, 0x03F0], [0x03C0, 0x03D6], [0x03C1, 0x03F1], [0x03C2, 0x03C3], [0x03C6, 0x03D5],
   [0x0432, 0x1C80], [0x0434, 0x1C81], [0x043E, 0x1C82], [0x0441, 0x1C83],
   [0x0442, 0x1C84, 0x1C85], [0x044A, 0x1C86], [0x0463, 0x1C87], [0x1C88, 0xA64B],
   [0x1E61, 0x1E9B], [0xFB05, 0xFB06]]

/-- The first member of the class of a lowercase letter. -/
def classHead (n : Nat) : Nat :=
  match letterClasses.find? (·.contains n) with
  | some (head :: _) => head
  | _ => n

/-- The representative of a code point up to case. -/
def fold (c : CodePoint) : CodePoint :=
  ofNat (classHead c.lower.val)

/-- Equality of two code points up to case. -/
def sameLetter (a b : CodePoint) : Bool :=
  a.fold == b.fold

/-- Two code points are equal up to case if they have the same representative. -/
theorem sameLetter_iff {a b : CodePoint} : sameLetter a b = true ↔ a.fold = b.fold := by
  simp [sameLetter]

end CodePoint

namespace Text

/-- Each code point replaced by its representative. -/
def fold (t : Text) : Text :=
  t.map CodePoint.fold

/-- Equality of two texts up to case, code point by code point. -/
def SameLetters (s t : Text) : Prop :=
  s.fold = t.fold

/-- Equality up to case can be computed. -/
instance (s t : Text) : Decidable (SameLetters s t) :=
  inferInstanceAs (Decidable (_ = _))

/-- Texts that are equal up to case have the same length. -/
theorem SameLetters.length_eq {s t : Text} (h : SameLetters s t) : s.length = t.length := by
  simpa [fold] using congrArg List.length h

/-- Whether the representatives of the text begin with `form`. -/
def foldBeginsWith (form : Text) (t : Text) : Bool :=
  match form, t with
  | [], _ => true
  | _ :: _, [] => false
  | f :: form, c :: rest => c.fold == f && foldBeginsWith form rest

/-- The first slice of the text whose representatives are `form`. -/
def findForm (form : Text) : Text → Option Text
  | [] => if form.isEmpty then some [] else none
  | c :: rest =>
    if foldBeginsWith form (c :: rest) then some ((c :: rest).take form.length)
    else findForm form rest

/-- The first slice of the text that equals `pattern` up to case, as it is written there. -/
def findLetters (pattern t : Text) : Option Text :=
  findForm pattern.fold t

/-- The representatives of a text begin with those of `pattern` exactly if a start of the text
equals `pattern` up to case. -/
theorem foldBeginsWith_fold_iff {pattern t : Text} :
    foldBeginsWith pattern.fold t = true ↔ SameLetters pattern (t.take pattern.length) := by
  induction pattern generalizing t with
  | nil => simp [fold, foldBeginsWith, SameLetters]
  | cons p pattern ih =>
    cases t with
    | nil => simp [fold, foldBeginsWith, SameLetters]
    | cons c rest =>
      have ih := ih (t := rest)
      simp only [fold, SameLetters] at ih
      simp only [fold, foldBeginsWith, SameLetters, List.map_cons, List.length_cons,
        List.take_succ_cons, Bool.and_eq_true, beq_iff_eq, ih, List.cons.injEq]
      exact and_congr_left' eq_comm

end Text

end TermAudit
