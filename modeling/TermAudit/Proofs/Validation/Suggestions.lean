import Mathlib.Data.List.Forall2
import TermAudit.Proofs.Text.Capital
import TermAudit.Proofs.Validation.Messages

/-!
# `TermAudit.Proofs.Validation.Suggestions`: suggestions as they are configured and as they are offered

A message offers the suggestions in the case of what was found, as an enumeration of texts between
apostrophes. The suggestions may have commas, blanks and the word `and` in them, as the enumeration has
between them. Cut at every apostrophe, though, an enumeration has the suggestions in every second place,
so `Suggestions.readBack` finds them if none has an apostrophe itself.

* `Suggestions.readBack_enumerated`: an enumeration can be read back;
* `Suggestions.matchCase_matchCase`: the change of case is made once;
* `Suggestions.matchCase_readable`: each suggestion is offered with another first letter at most, and
  the sentence that offers them can be read back.
-/

set_option autoImplicit false

namespace TermAudit

namespace Text

/-- What stands in front of the first separator belongs to the first piece. -/
theorem splitAll_append_of_notMem {sep : CodePoint} {start : Text} (h : sep ∉ start) (t : Text) :
    splitAll sep (start ++ t) = (splitAll sep t).modifyHead (start ++ ·) := by
  induction start with
  | nil =>
    show splitAll sep t = (splitAll sep t).modifyHead id
    rw [List.modifyHead_id, id]
  | cons c start ih =>
    rw [List.mem_cons, not_or] at h
    rw [List.cons_append, splitAll, if_neg (Ne.symm h.1), ih h.2]
    cases hpieces : splitAll sep t with
    | nil => exact absurd hpieces (splitAll_ne_nil sep t)
    | cons piece pieces => rfl

end Text

namespace Suggestions

/-! ## Reading back -/

/-- The second element and every second one behind it. Of a text that is cut at apostrophes these are the
parts between two of them. -/
def everySecond {α : Type} : List α → List α
  | _ :: x :: rest => x :: everySecond rest
  | _ => []

/-- The first element is none of the second ones, so it can be changed. -/
theorem everySecond_modifyHead {α : Type} (f : α → α) (xs : List α) :
    everySecond (xs.modifyHead f) = everySecond xs := by
  cases xs with
  | nil => rfl
  | cons x rest => cases rest <;> rfl

/-- The texts between apostrophes, as a reader of the message would pick them out. -/
def readBack (t : Text) : List Text :=
  everySecond (Text.splitAll apostrophe t)

/-- Words without an apostrophe are passed over. -/
theorem readBack_append_of_notMem {words : Text} (h : apostrophe ∉ words) (t : Text) :
    readBack (words ++ t) = readBack t := by
  unfold readBack
  rw [Text.splitAll_append_of_notMem h, everySecond_modifyHead]

/-- Nothing is read back from words without an apostrophe. -/
theorem readBack_of_notMem {words : Text} (h : apostrophe ∉ words) : readBack words = [] := by
  unfold readBack
  rw [Text.splitAll_of_notMem h]
  rfl

/-- A text between apostrophes is read back, if it has none itself. -/
theorem readBack_marked_append {u : Text} (h : apostrophe ∉ u) (t : Text) :
    readBack (marked u ++ t) = u :: readBack t := by
  have hmarked : marked u ++ t = [] ++ apostrophe :: (u ++ apostrophe :: t) := by
    simp [marked, apostrophe, Text.ofString, Text.ofChars]
  unfold readBack
  rw [hmarked, Text.splitAll_append List.not_mem_nil, Text.splitAll_append h]
  rfl

/-- Words behind an enumeration do not disturb its reading. -/
theorem readBack_enumerated_append {ts : List Text} (h : ∀ t ∈ ts, apostrophe ∉ t) {words : Text}
    (hwords : apostrophe ∉ words) : readBack (enumerated ts ++ words) = ts := by
  induction ts using enumerated.induct with
  | case1 => exact readBack_of_notMem hwords
  | case2 t =>
    have ht := h t List.mem_cons_self
    rw [enumerated, readBack_marked_append ht, readBack_of_notMem hwords]
  | case3 t u =>
    have ht := h t List.mem_cons_self
    have hu := h u (List.mem_cons_of_mem _ List.mem_cons_self)
    rw [enumerated, List.append_assoc, List.append_assoc, readBack_marked_append ht,
      readBack_append_of_notMem (by decide), readBack_marked_append hu, readBack_of_notMem hwords]
  | case4 t rest hne hne' ih =>
    obtain ⟨ht, hrest⟩ := List.forall_mem_cons.mp h
    rw [enumerated, List.append_assoc, List.append_assoc, readBack_marked_append ht,
      readBack_append_of_notMem (by decide), ih hrest]
    · exact hne
    · exact hne'

/-- An enumeration of texts without apostrophes can be read back. Cut at apostrophes, the texts are every
second part, whatever words they have in them. -/
theorem readBack_enumerated {ts : List Text} (h : ∀ t ∈ ts, apostrophe ∉ t) :
    readBack (enumerated ts) = ts := by
  have hread := readBack_enumerated_append h (List.not_mem_nil (a := apostrophe))
  rwa [List.append_nil] at hread

/-- So can the sentence that offers suggestions. -/
theorem readBack_sentence {suggestions : List Text} {matched : Text}
    (h : ∀ t ∈ matchCase suggestions matched, apostrophe ∉ t) :
    readBack (sentence suggestions matched) = matchCase suggestions matched := by
  cases suggestions with
  | nil => rfl
  | cons t rest =>
    unfold sentence
    rw [if_neg (by simp), List.append_assoc, readBack_append_of_notMem (by decide +kernel),
      readBack_enumerated_append h (by decide)]

/-! ## The case of what was found -/

/-- The form that the first code point of a suggestion gets: an uppercase letter at the beginning of what
was found asks for its uppercase form, anything else for its lowercase form. Only the first code point is
looked at on both sides. -/
def firstForm (matched : Text) (c : CodePoint) : Text :=
  if matched.startsUpper then c.upper else Text.lower [c]

/-- The case of what was found is put on the first code point of each suggestion, and nothing else is
changed. -/
theorem firstReplaced_matchCase (suggestions : List Text) (matched : Text) :
    List.Forall₂ (Text.FirstReplaced (firstForm matched)) suggestions
      (matchCase suggestions matched) := by
  unfold matchCase
  rw [List.forall₂_map_right_iff]
  refine List.forall₂_same.mpr fun t _ => ?_
  by_cases hupper : matched.startsUpper = true
  · have hform : firstForm matched = CodePoint.upper := funext fun _ => if_pos hupper
    rw [hform, if_pos hupper]
    exact t.firstReplaced_capitalize
  · have hform : firstForm matched = CodePoint.lowerFull := funext fun c =>
      (if_neg hupper).trans c.lower_singleton
    rw [hform, if_neg hupper]
    exact t.firstReplaced_uncapitalize

/-- The change of case is made once. The first code point of a form stays as it is when it is changed
again. -/
theorem matchCase_matchCase (suggestions : List Text) (matched : Text) :
    matchCase (matchCase suggestions matched) matched = matchCase suggestions matched := by
  unfold matchCase
  rw [List.map_map]
  refine List.map_congr_left fun t _ => ?_
  by_cases hupper : matched.startsUpper = true
  · rw [if_pos hupper]
    exact t.capitalize_capitalize
  · rw [if_neg hupper]
    exact t.uncapitalize_uncapitalize

/-- No suggestion gets an apostrophe. -/
theorem apostrophe_notMem_matchCase {suggestions : List Text} {matched : Text}
    (h : ∀ t ∈ suggestions, apostrophe ∉ t) : ∀ t ∈ matchCase suggestions matched, apostrophe ∉ t := by
  intro t ht hmem
  unfold matchCase at ht
  obtain ⟨s, hs, rfl⟩ := List.mem_map.mp ht
  refine h s hs ?_
  by_cases hupper : matched.startsUpper = true
  · rw [if_pos hupper] at hmem
    exact Text.mem_of_mem_capitalize (by decide) hmem
  · rw [if_neg hupper] at hmem
    exact Text.mem_of_mem_uncapitalize (by decide) hmem

/-- Suggestions are offered one by one, each with another form of its first code point at most, and
to make the change again changes nothing. An enumeration of texts without apostrophes has no other
reading, and where the suggestions have none the sentence says which ones are offered. -/
theorem matchCase_readable :
    (∀ (suggestions : List Text) (matched : Text),
      List.Forall₂ (Text.FirstReplaced (firstForm matched)) suggestions
          (matchCase suggestions matched) ∧
        matchCase (matchCase suggestions matched) matched = matchCase suggestions matched) ∧
    (∀ xs ys : List Text, (∀ t ∈ xs, apostrophe ∉ t) → (∀ t ∈ ys, apostrophe ∉ t) →
      enumerated xs = enumerated ys → xs = ys) ∧
    ∀ (suggestions : List Text) (matched : Text), (∀ t ∈ suggestions, apostrophe ∉ t) →
      readBack (sentence suggestions matched) = matchCase suggestions matched := by
  refine ⟨?_, ?_, ?_⟩
  · intro suggestions matched
    exact ⟨firstReplaced_matchCase suggestions matched, matchCase_matchCase suggestions matched⟩
  · intro xs ys hxs hys h
    calc
      xs = readBack (enumerated xs) := (readBack_enumerated hxs).symm
      _ = readBack (enumerated ys) := by rw [h]
      _ = ys := readBack_enumerated hys
  · intro suggestions matched h
    exact readBack_sentence (apostrophe_notMem_matchCase h)

/-- Suggestions with the words of an enumeration in them. The first letters have forms of two code points,
and one suggestion is empty. None has an apostrophe, so all of them are read back. -/
def wordySuggestions : List Text :=
  ["ßetter, or best", " and ", "ŉ, ", "", "ﬁrst and İ"]

/-- The general theorem for suggestions that look like parts of a sentence. -/
theorem matchCase_readable_wordy :
    readBack (enumerated wordySuggestions) = wordySuggestions ∧
      readBack (sentence wordySuggestions "Master") =
        ["SSetter, or best", " and ", "ʼN, ", "", "FIrst and İ"] :=
  ⟨matchCase_readable.2.1 _ _ (by decide +kernel) (by decide +kernel) (by decide +kernel),
    (matchCase_readable.2.2 wordySuggestions "Master" (by decide +kernel)).trans (by decide +kernel)⟩

end Suggestions

end TermAudit
