import Mathlib.Data.Nat.Find
import TermAudit.Proofs.Text.Folding
import TermAudit.Terms.Search

/-!
# `TermAudit.Proofs.Terms.Occurrence`: what the search for a term finds

`findTerm` runs along the representatives of the code points of a text. Here the search is read
back as a statement about the text itself:

* `Text.OccursAt pattern text start slice`: `slice` stands in `text` behind `start` code points
  and equals `pattern` up to case;
* `Text.FirstOccurrence pattern text slice`: `slice` is the one that stands furthest to the left;
* `findTerm_eq_some_iff`: a non-empty term is found exactly where it first occurs;
* `findTerm_isSome_iff`: a non-empty term is found exactly if it occurs at all.

A search depends on the representatives of its pattern alone (`findTerm_congr`), and what it
finds is as long as the pattern (`FirstOccurrence.length_eq`).

`IsLiteralSearch` puts together what one expects of a search for a literal term up to case, with
slices cut out by their places and code points compared one by one, and `isLiteralSearch_findTerm`
says that `findTerm` is one.
-/

set_option autoImplicit false

namespace TermAudit

namespace Text

/-- `slice` stands in `text` behind `start` code points and equals `pattern` up to case. The slice is
kept, since a diagnostic shows what was found as it is written there. -/
def OccursAt (pattern text : Text) (start : Nat) (slice : Text) : Prop :=
  ∃ before after, text = before ++ slice ++ after ∧ before.length = start ∧
    SameLetters pattern slice

/-- Some slice of `text` equals `pattern` up to case. The empty pattern occurs in every text, and is never
looked for. -/
def Occurs (pattern text : Text) : Prop :=
  ∃ start slice, OccursAt pattern text start slice

/-- `slice` is the leftmost slice of `text` that equals `pattern` up to case. All such slices are as long
as the pattern, so the place decides which one it is. -/
def FirstOccurrence (pattern text slice : Text) : Prop :=
  ∃ start, OccursAt pattern text start slice ∧
    ∀ start' slice', OccursAt pattern text start' slice' → start ≤ start'

/-- Where a pattern occurs first it occurs. -/
theorem FirstOccurrence.occurs {pattern text slice : Text}
    (h : FirstOccurrence pattern text slice) : Occurs pattern text := by
  obtain ⟨start, hat, -⟩ := h
  exact ⟨start, slice, hat⟩

/-- What is found has the length of the pattern, since no code point is longer or shorter than another up to
case. -/
theorem OccursAt.length_eq {pattern text slice : Text} {start : Nat}
    (h : OccursAt pattern text start slice) : slice.length = pattern.length := by
  obtain ⟨-, -, -, -, hsame⟩ := h
  exact hsame.length_eq.symm

/-- So has what is found first. -/
theorem FirstOccurrence.length_eq {pattern text slice : Text}
    (h : FirstOccurrence pattern text slice) : slice.length = pattern.length := by
  obtain ⟨start, hat, -⟩ := h
  exact hat.length_eq

/-- Nothing longer than the text occurs in it. -/
theorem Occurs.length_le {pattern text : Text} (h : Occurs pattern text) :
    pattern.length ≤ text.length := by
  obtain ⟨start, slice, hat⟩ := h
  rw [← hat.length_eq]
  obtain ⟨before, after, rfl, -, -⟩ := hat
  simp only [List.length_append]
  omega

/-- A text occurs wherever it stands as it is. -/
theorem occurs_append (before pattern after : Text) :
    Occurs pattern (before ++ pattern ++ after) :=
  ⟨before.length, pattern, before, after, rfl, rfl, rfl⟩

/-- A slice at the start of a text, in terms of the test that the search makes. -/
theorem occursAt_zero_iff {pattern text slice : Text} :
    OccursAt pattern text 0 slice ↔
      foldBeginsWith pattern.fold text = true ∧ slice = text.take pattern.length := by
  rw [foldBeginsWith_fold_iff]
  constructor
  · intro h
    have hlength := h.length_eq
    obtain ⟨before, after, rfl, hbefore, hsame⟩ := h
    rw [List.length_eq_zero_iff] at hbefore
    subst hbefore
    have htake : ([] ++ slice ++ after).take pattern.length = slice := by
      rw [List.nil_append, ← hlength, List.take_left]
    exact ⟨by rw [htake]; exact hsame, htake.symm⟩
  · rintro ⟨hsame, rfl⟩
    exact ⟨[], text.drop pattern.length, by simp, rfl, hsame⟩

/-- A slice further on in a text is one of the text behind its first code point. -/
theorem occursAt_succ_iff {pattern rest slice : Text} {c : CodePoint} {start : Nat} :
    OccursAt pattern (c :: rest) (start + 1) slice ↔ OccursAt pattern rest start slice := by
  constructor
  · rintro ⟨before, after, htext, hlength, hsame⟩
    cases before with
    | nil => simp at hlength
    | cons b before =>
      simp only [List.cons_append, List.cons.injEq] at htext
      exact ⟨before, after, htext.2, by simpa using hlength, hsame⟩
  · rintro ⟨before, after, rfl, hlength, hsame⟩
    exact ⟨c :: before, after, by simp, by simp [hlength], hsame⟩

/-- Nothing but the empty text occurs in the empty text. -/
theorem occursAt_nil_iff {pattern slice : Text} {start : Nat} :
    OccursAt pattern [] start slice ↔ pattern = [] ∧ slice = [] ∧ start = 0 := by
  constructor
  · intro h
    have hlength := h.length_eq
    obtain ⟨before, after, htext, hstart, -⟩ := h
    simp only [List.nil_eq, List.append_eq_nil_iff] at htext
    obtain ⟨⟨rfl, rfl⟩, rfl⟩ := htext
    exact ⟨List.length_eq_zero_iff.mp hlength.symm, rfl, hstart.symm⟩
  · rintro ⟨rfl, rfl, rfl⟩
    exact ⟨[], [], rfl, rfl, rfl⟩

/-- The search gives the leftmost slice. Induction on the text: what does not stand at its start
stands in the rest. -/
theorem findLetters_eq_some_iff {pattern text slice : Text} :
    findLetters pattern text = some slice ↔ FirstOccurrence pattern text slice := by
  unfold findLetters
  induction text with
  | nil =>
    simp only [findForm, FirstOccurrence, occursAt_nil_iff]
    by_cases hp : pattern = []
    · subst hp
      simp [fold, eq_comm]
    · simp [fold, hp]
  | cons c rest ih =>
    rw [findForm]
    have hfold : pattern.fold.length = pattern.length := by simp [fold]
    -- An occurrence at the start is the first one, whatever comes behind it.
    by_cases hhere : foldBeginsWith pattern.fold (c :: rest) = true
    · rw [if_pos hhere, hfold]
      constructor
      · rintro h
        cases h
        exact ⟨0, occursAt_zero_iff.mpr ⟨hhere, rfl⟩, fun _ _ _ => Nat.zero_le _⟩
      · rintro ⟨start, hat, hfirst⟩
        have hstart : start = 0 :=
          Nat.le_zero.mp (hfirst 0 _ (occursAt_zero_iff.mpr ⟨hhere, rfl⟩))
        subst hstart
        rw [(occursAt_zero_iff.mp hat).2]
    · rw [if_neg hhere, ih]
      -- No slice stands at the start, so the starts in the text are those in the rest plus one.
      have hnot : ∀ slice', ¬ OccursAt pattern (c :: rest) 0 slice' :=
        fun slice' h => hhere (occursAt_zero_iff.mp h).1
      constructor
      · rintro ⟨start, hat, hfirst⟩
        refine ⟨start + 1, occursAt_succ_iff.mpr hat, ?_⟩
        intro start' slice' hat'
        cases start' with
        | zero => exact absurd hat' (hnot slice')
        | succ start' =>
          exact Nat.succ_le_succ (hfirst start' slice' (occursAt_succ_iff.mp hat'))
      · rintro ⟨start, hat, hfirst⟩
        cases start with
        | zero => exact absurd hat (hnot slice)
        | succ start =>
          refine ⟨start, occursAt_succ_iff.mp hat, ?_⟩
          intro start' slice' hat'
          exact Nat.le_of_succ_le_succ (hfirst _ slice' (occursAt_succ_iff.mpr hat'))

/-- What occurs in a text has a leftmost occurrence there. -/
theorem Occurs.exists_first {pattern text : Text} (h : Occurs pattern text) :
    ∃ slice, FirstOccurrence pattern text slice := by
  classical
  have hstart : ∃ start, ∃ slice, OccursAt pattern text start slice := h
  obtain ⟨slice, hat⟩ := Nat.find_spec hstart
  exact ⟨slice, Nat.find hstart, hat, fun start' slice' h' => Nat.find_min' hstart ⟨slice', h'⟩⟩

/-- The search finds something exactly if the pattern occurs. -/
theorem findLetters_isSome_iff {pattern text : Text} :
    (findLetters pattern text).isSome = true ↔ Occurs pattern text := by
  rw [Option.isSome_iff_exists]
  constructor
  · rintro ⟨slice, h⟩
    exact (findLetters_eq_some_iff.mp h).occurs
  · intro h
    obtain ⟨slice, hfirst⟩ := h.exists_first
    exact ⟨slice, findLetters_eq_some_iff.mpr hfirst⟩

/-- Whether a pattern occurs can be computed, by searching for it. -/
instance (pattern text : Text) : Decidable (Occurs pattern text) :=
  decidable_of_iff _ findLetters_isSome_iff

end Text

open Text

/-- A non-empty term is found where it first occurs. What is found is the slice of the text, in the
letters of the text. -/
theorem findTerm_eq_some_iff {text term slice : Text} :
    findTerm text term = some slice ↔ term ≠ [] ∧ FirstOccurrence term text slice := by
  unfold findTerm
  cases term with
  | nil => simp
  | cons c term =>
    rw [if_neg (by simp), findLetters_eq_some_iff]
    simp

/-- A non-empty term is found exactly if it occurs. The search overlooks nothing, since it tries every
place from the left. -/
theorem findTerm_isSome_iff {text term : Text} :
    (findTerm text term).isSome = true ↔ term ≠ [] ∧ Occurs term text := by
  unfold findTerm
  cases term with
  | nil => simp
  | cons c term =>
    rw [if_neg (by simp), findLetters_isSome_iff]
    simp

/-- A term is not found exactly if it is empty or does not occur. The empty term would occur everywhere. -/
theorem findTerm_eq_none_iff {text term : Text} :
    findTerm text term = none ↔ ¬ (term ≠ [] ∧ Occurs term text) := by
  rw [← Option.not_isSome_iff_eq_none, findTerm_isSome_iff]

/-- The search looks at nothing but the representatives of the term. So terms that are equal up to case
are found in the same places. -/
theorem findTerm_congr {term term' : Text} (h : SameLetters term term') (text : Text) :
    findTerm text term = findTerm text term' := by
  have hnil : term.isEmpty = term'.isEmpty := by
    rw [Bool.eq_iff_iff, List.isEmpty_iff_length_eq_zero, List.isEmpty_iff_length_eq_zero,
      h.length_eq]
  unfold findTerm findLetters
  rw [hnil, show term.fold = term'.fold from h]

namespace Text

/-- The slice of `text` behind `start` code points that is as long as `pattern`. Where the text ends
before, it is shorter, and then it cannot match. -/
def sliceAt (pattern text : Text) (start : Nat) : Text :=
  (text.drop start).take pattern.length

/-- The text has a whole slice behind `start` code points whose code points are those of `pattern`, up to
case. No code point of the pattern has a meaning of its own in this. -/
def MatchesAt (pattern text : Text) (start : Nat) : Prop :=
  List.Forall₂ CodePoint.Alike pattern (sliceAt pattern text start)

/-- What occurs at a place is the slice there. -/
theorem occursAt_iff {pattern text slice : Text} {start : Nat} (hpattern : pattern ≠ []) :
    OccursAt pattern text start slice ↔
      MatchesAt pattern text start ∧ slice = sliceAt pattern text start := by
  unfold MatchesAt
  rw [← sameLetters_iff_forall₂]
  constructor
  · intro h
    have hlength := h.length_eq
    obtain ⟨before, after, rfl, rfl, hsame⟩ := h
    have hslice : sliceAt pattern (before ++ slice ++ after) before.length = slice := by
      unfold sliceAt
      rw [List.append_assoc, List.drop_left, ← hlength, List.take_left]
    rw [hslice]
    exact ⟨hsame, rfl⟩
  · rintro ⟨hsame, rfl⟩
    have hlength := hsame.length_eq
    have hpositive := List.length_pos_iff.mpr hpattern
    unfold sliceAt at hlength ⊢
    rw [List.length_take, List.length_drop] at hlength
    -- The slice is as long as the pattern, so the text does not end before it does.
    refine ⟨text.take start, (text.drop start).drop pattern.length, ?_, ?_, hsame⟩
    · rw [List.append_assoc, List.take_append_drop, List.take_append_drop]
    · rw [List.length_take]
      omega

/-- What occurs in a text occurs in every longer text around it. -/
theorem Occurs.append {pattern text : Text} (h : Occurs pattern text) (before after : Text) :
    Occurs pattern (before ++ text ++ after) := by
  obtain ⟨start, slice, before', after', rfl, -, hsame⟩ := h
  exact ⟨_, slice, before ++ before', after' ++ after, by simp only [List.append_assoc], rfl, hsame⟩

/-- A slice that equals the pattern up to case is its own first occurrence. -/
theorem SameLetters.firstOccurrence {pattern slice : Text} (h : SameLetters pattern slice) :
    FirstOccurrence pattern slice slice :=
  ⟨0, ⟨[], [], by simp, rfl, h⟩, fun _ _ _ => Nat.zero_le _⟩

/-- Texts that are equal up to case have the same metacharacters at the same places. -/
theorem SameLetters.getElem?_of_metacharacter {s t : Text} (h : SameLetters s t) {i : Nat}
    {c : CodePoint} (hc : c ∈ CodePoint.metacharacters) (hi : s[i]? = some c) : t[i]? = some c := by
  rw [sameLetters_iff_forall₂, List.forall₂_iff_get] at h
  obtain ⟨hlength, halike⟩ := h
  obtain ⟨hlt, rfl⟩ := List.getElem?_eq_some_iff.mp hi
  have hlt' : i < t.length := hlength ▸ hlt
  rw [List.getElem?_eq_getElem hlt']
  exact congrArg some (CodePoint.eq_of_alike_metacharacter hc (halike i hlt hlt'))

end Text

/-- What one expects of a search for the first place in a text where a literal term stands up to case. -/
structure IsLiteralSearch (find : Text → Text → Option Text) : Prop where
  /-- Something is found exactly if the term is not empty and the text has a slice that matches. -/
  found_iff (text term : Text) :
    (∃ slice, find text term = some slice) ↔ term ≠ [] ∧ ∃ start, MatchesAt term text start
  /-- What is found is the slice that matches furthest to the left, as it is written there. -/
  leftmost (text term slice : Text) : find text term = some slice →
    ∃ start, MatchesAt term text start ∧ slice = sliceAt term text start ∧
      ∀ start' < start, ¬ MatchesAt term text start'
  /-- Metacharacters of the term stand for themselves. -/
  metacharacter (text term slice : Text) (i : Nat) (c : CodePoint) : find text term = some slice →
    c ∈ CodePoint.metacharacters → term[i]? = some c → slice[i]? = some c
  /-- What is found contains the term, and nothing else. -/
  self (text term slice : Text) : find text term = some slice → find slice term = some slice
  /-- A text around one in which the term is found contains it, too. -/
  around (before text after term : Text) : (∃ slice, find text term = some slice) →
    ∃ slice, find (before ++ text ++ after) term = some slice
  /-- Terms that are alike, code point by code point, are found in the same way. -/
  congr (term term' : Text) : List.Forall₂ CodePoint.Alike term term' →
    ∀ text, find text term = find text term'

/-- A term is found exactly if it is not empty and occurs. -/
theorem exists_findTerm_iff {text term : Text} :
    (∃ slice, findTerm text term = some slice) ↔ term ≠ [] ∧ Occurs term text := by
  rw [← Option.isSome_iff_exists, findTerm_isSome_iff]

/-- The search for a term is a search for a literal up to case, and being alike up to case is an equivalence
of code points. Nothing in a term has a meaning of its own, such as a point for any code point: what is
found has the length of the term and is alike to it, and nothing before it is. -/
theorem isLiteralSearch_findTerm : Equivalence CodePoint.Alike ∧ IsLiteralSearch findTerm := by
  refine ⟨CodePoint.alike_equivalence, ?_, ?_, ?_, ?_, ?_, ?_⟩
  · -- Something is found where the term matches.
    intro text term
    rw [exists_findTerm_iff]
    refine and_congr_right fun hterm => exists_congr fun start => ?_
    constructor
    · rintro ⟨slice, hat⟩
      exact ((occursAt_iff hterm).mp hat).1
    · exact fun hmatches => ⟨_, (occursAt_iff hterm).mpr ⟨hmatches, rfl⟩⟩
  · -- It is the slice at the first such place, which is as long as the term.
    intro text term slice hfind
    obtain ⟨hterm, start, hat, hfirst⟩ := findTerm_eq_some_iff.mp hfind
    obtain ⟨hmatches, hslice⟩ := (occursAt_iff hterm).mp hat
    refine ⟨start, hmatches, hslice, fun start' hlt hmatches' => ?_⟩
    have hle := hfirst start' _ ((occursAt_iff hterm).mpr ⟨hmatches', rfl⟩)
    omega
  · -- Metacharacters are alike to nothing else.
    intro text term slice i c hfind hc hi
    obtain ⟨-, -, ⟨-, -, -, -, hsame⟩, -⟩ := findTerm_eq_some_iff.mp hfind
    exact hsame.getElem?_of_metacharacter hc hi
  · -- The slice matches as a text of its own, from its beginning.
    intro text term slice hfind
    obtain ⟨hterm, -, ⟨-, -, -, -, hsame⟩, -⟩ := findTerm_eq_some_iff.mp hfind
    exact findTerm_eq_some_iff.mpr ⟨hterm, hsame.firstOccurrence⟩
  · -- A place in a text is one in every text around it.
    intro before text after term hfound
    obtain ⟨hterm, hoccurs⟩ := exists_findTerm_iff.mp hfound
    exact exists_findTerm_iff.mpr ⟨hterm, hoccurs.append before after⟩
  · -- Only likeness to the term is asked for, and this is an equivalence.
    intro term term' halike text
    exact findTerm_congr (sameLetters_iff_forall₂.mpr halike) text

end TermAudit
