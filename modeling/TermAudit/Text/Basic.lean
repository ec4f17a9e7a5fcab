import TermAudit.Text.CodePoint

/-!
# `TermAudit.Text.Basic`: texts and the ways to cut and join them

A `Text` is a list of code points. String literals coerce to it, so a message is written as a
concatenation of literals and parts. `splitFirst` cuts at the first occurrence of a separator,
`splitAll` at every occurrence, and `joinWith` is the way back from `splitAll`
(`joinWith_splitAll`).
-/

set_option autoImplicit false

namespace TermAudit

/-- A sequence of Unicode code points. Surrogates can be among them, since escapes in documents can denote
them, so that a string would not do. -/
abbrev Text := List CodePoint

namespace Text

/-- The code points of a list of characters. -/
def ofChars (cs : List Char) : Text :=
  cs.map CodePoint.ofChar

/-- The code points of a string. -/
def ofString (s : String) : Text :=
  ofChars s.toList

/-- A string is a text. -/
instance : Coe String Text := ⟨ofString⟩

/-- Texts are compared code point by code point, as lists are. -/
instance : LawfulBEq Text := inferInstance

/-- Cuts at the first `sep`: what stands before it, and what stands after it if it occurs. -/
def splitFirst (sep : CodePoint) : Text → Text × Option Text
  | [] => ([], none)
  | c :: rest =>
    if c = sep then ([], some rest)
    else
      let (before, after) := splitFirst sep rest
      (c :: before, after)

/-- Cuts at every `sep`. The pieces are one more than the separators, so an empty text has one empty
piece. -/
def splitAll (sep : CodePoint) : Text → List Text
  | [] => [[]]
  | c :: rest =>
    if c = sep then [] :: splitAll sep rest
    else
      match splitAll sep rest with
      | [] => [[c]]
      | piece :: pieces => (c :: piece) :: pieces

/-- Puts `sep` between consecutive pieces. -/
def joinWith (sep : Text) : List Text → Text
  | [] => []
  | [piece] => piece
  | piece :: pieces => piece ++ sep ++ joinWith sep pieces

/-- Whether the text begins with `start`. -/
def beginsWith (t start : Text) : Bool :=
  start.isPrefixOf t

/-- What remains after `start`, if the text begins with it. -/
def dropStart? (t start : Text) : Option Text :=
  if t.beginsWith start then some (t.drop start.length) else none

/-- Lexicographic order by code point: whether `a` comes no later than `b`. -/
def le : Text → Text → Bool
  | [], _ => true
  | _ :: _, [] => false
  | a :: as, b :: bs => a.val < b.val || (a.val == b.val && le as bs)

/-- The texts in lexicographic order. -/
def sorted (ts : List Text) : List Text :=
  ts.mergeSort le

/-- The decimal digits of a number, most significant first. -/
def ofNat (n : Nat) : Text :=
  ofChars (Nat.toDigits 10 n)

/-- An integer in decimal, with a sign only if it is negative. -/
def ofInt : Int → Text
  | .ofNat n => ofNat n
  | .negSucc n => CodePoint.ofChar '-' :: ofNat (n + 1)

/-- A number in lowercase hexadecimal, filled with zeros on the left up to `width` digits. -/
def hex (width n : Nat) : Text :=
  let digits := Nat.toDigits 16 n
  ofChars (List.replicate (width - digits.length) '0' ++ digits)

/-- Numbers are told apart by their decimal digits. -/
theorem ofNat_inj {m n : Nat} : ofNat m = ofNat n ↔ m = n := by
  refine ⟨fun h => ?_, fun h => h ▸ rfl⟩
  have hdigits : Nat.toDigits 10 m = Nat.toDigits 10 n :=
    (List.map_inj_right fun _ _ => CodePoint.ofChar_inj.mp).mp h
  calc
    m = Nat.ofDigitChars 10 (Nat.toDigits 10 m) 0 := Nat.ofDigitChars_ten_toDigits.symm
    _ = Nat.ofDigitChars 10 (Nat.toDigits 10 n) 0 := by rw [hdigits]
    _ = n := Nat.ofDigitChars_ten_toDigits

/-- A number is written in digits alone. -/
theorem isDigit_of_mem_ofNat {c : CodePoint} {n : Nat} (h : c ∈ ofNat n) :
    0x30 ≤ c.val ∧ c.val ≤ 0x39 := by
  obtain ⟨x, hx, rfl⟩ := List.mem_map.mp h
  exact Char.isDigit_iff_toNat.mp (Nat.isDigit_of_mem_toDigits (by decide) (by decide) hx)

/-- An integer is written in digits, with a sign if it is negative. -/
theorem mem_ofInt {c : CodePoint} {i : Int} (h : c ∈ ofInt i) :
    c = CodePoint.ofChar '-' ∨ 0x30 ≤ c.val ∧ c.val ≤ 0x39 := by
  cases i with
  | ofNat n => exact Or.inr (isDigit_of_mem_ofNat h)
  | negSucc n => exact (List.mem_cons.mp h).imp id isDigit_of_mem_ofNat

/-- A text has one part at least, even if it is empty. -/
theorem splitAll_ne_nil (sep : CodePoint) (t : Text) : splitAll sep t ≠ [] := by
  cases t with
  | nil => simp [splitAll]
  | cons c rest =>
    simp only [splitAll]
    split
    · simp
    · split <;> simp

/-- Joining the pieces with the separator gives the text back. -/
theorem joinWith_splitAll (sep : CodePoint) (t : Text) :
    joinWith [sep] (splitAll sep t) = t := by
  induction t with
  | nil => rfl
  | cons c rest ih =>
    have hne := splitAll_ne_nil sep rest
    simp only [splitAll]
    split
    · rename_i h
      cases hs : splitAll sep rest with
      | nil => exact absurd hs hne
      | cons piece pieces => rw [hs] at ih; simp [joinWith, ih, h]
    · cases hs : splitAll sep rest with
      | nil => exact absurd hs hne
      | cons piece pieces =>
        rw [hs] at ih
        cases pieces with
        | nil => simp_all [joinWith]
        | cons p ps => simpa [joinWith] using ih

/-- A text without the separator is one part. -/
theorem splitAll_of_notMem {sep : CodePoint} {t : Text} (h : sep ∉ t) : splitAll sep t = [t] := by
  induction t with
  | nil => rfl
  | cons c rest ih =>
    rw [List.mem_cons, not_or] at h
    rw [splitAll, if_neg (Ne.symm h.1), ih h.2]

/-- The first separator ends the first part. -/
theorem splitAll_append {sep : CodePoint} {piece : Text} (h : sep ∉ piece) (rest : Text) :
    splitAll sep (piece ++ sep :: rest) = piece :: splitAll sep rest := by
  induction piece with
  | nil => exact if_pos rfl
  | cons c piece ih =>
    rw [List.mem_cons, not_or] at h
    rw [List.cons_append, splitAll, if_neg (Ne.symm h.1), ih h.2]

/-- No piece has the separator. -/
theorem notMem_of_mem_splitAll {sep : CodePoint} {t piece : Text} (h : piece ∈ splitAll sep t) :
    sep ∉ piece := by
  induction t generalizing piece with
  | nil => simp_all [splitAll]
  | cons c rest ih =>
    unfold splitAll at h
    split at h
    · rcases List.mem_cons.mp h with rfl | h
      · exact List.not_mem_nil
      · exact ih h
    · rename_i hc
      split at h
      · rw [List.mem_singleton.mp h, List.mem_singleton]
        exact Ne.symm hc
      · rename_i first others hsplit
        rw [hsplit] at ih
        rcases List.mem_cons.mp h with rfl | h
        · rw [List.mem_cons, not_or]
          exact ⟨Ne.symm hc, ih List.mem_cons_self⟩
        · exact ih (List.mem_cons_of_mem _ h)

/-- Pieces without the separator are those of the joined text. -/
theorem splitAll_joinWith {sep : CodePoint} {pieces : List Text} (hne : pieces ≠ [])
    (h : ∀ piece ∈ pieces, sep ∉ piece) : splitAll sep (joinWith [sep] pieces) = pieces := by
  induction pieces with
  | nil => exact absurd rfl hne
  | cons piece pieces ih =>
    obtain ⟨hpiece, hpieces⟩ := List.forall_mem_cons.mp h
    cases pieces with
    | nil => exact splitAll_of_notMem hpiece
    | cons next pieces =>
      have hjoined : joinWith [sep] (piece :: next :: pieces) =
          piece ++ sep :: joinWith [sep] (next :: pieces) := by simp [joinWith]
      rw [hjoined, splitAll_append hpiece, ih (List.cons_ne_nil _ _) hpieces]

/-- A text without the separator is its own first part. -/
theorem splitFirst_of_notMem {sep : CodePoint} {t : Text} (h : sep ∉ t) :
    splitFirst sep t = (t, none) := by
  induction t with
  | nil => rfl
  | cons c rest ih =>
    simp only [List.mem_cons, not_or] at h
    simp [splitFirst, Ne.symm h.1, ih h.2]

/-- The first separator ends the first part. -/
theorem splitFirst_append {sep : CodePoint} {before : Text} (after : Text) (h : sep ∉ before) :
    splitFirst sep (before ++ sep :: after) = (before, some after) := by
  induction before with
  | nil => simp [splitFirst]
  | cons c rest ih =>
    simp only [List.mem_cons, not_or] at h
    simp [splitFirst, Ne.symm h.1, ih h.2]

end Text

end TermAudit
