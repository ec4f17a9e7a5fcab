import TermAudit.Proofs.Json.Reading
import TermAudit.Proofs.Result
import TermAudit.Proofs.Yaml.Cursor

/-!
# `TermAudit.Proofs.Json.Quoted`: a JSON string as a quoted scalar

`Cursor.takeQuoted` reads a string as `JsonString.reading` says, unless a line of it begins with a
document marker (`takeQuoted_string`). It takes a run of ordinary characters at once, then an escape
or a gap. A gap is read in one piece too: `takeQuotedBreaks_string` is its part behind a first line
break.
-/

set_option autoImplicit false

namespace TermAudit.JsonText

open Yaml (Cursor Position Fault Source.isBreak Source.isGap Source.endsWord Source.endsLine
  exists_longest_start)

/-! ## Parts of a string -/

namespace StringPart

/-- The first character of a part. A part that is an escape begins with a backslash, and so is never taken
for the end of the string. -/
def first : StringPart → Char
  | .plain c _ => c
  | _ => '\\'

/-- Every part of a string has a first character, by which a scanner tells it from the others. -/
theorem chars_eq_cons (p : StringPart) : ∃ cs, p.chars = p.first :: cs := by
  cases p <;> exact ⟨_, rfl⟩

/-- A part that begins with anything but a backslash is that character. -/
theorem eq_plain_of_first {p : StringPart} {c : Char} (h : p.first = c) (hc : c ≠ '\\') :
    p.chars = [c] ∧ p.codePoint = .ofChar c := by
  cases p with
  | plain d _ =>
    obtain rfl : d = c := h
    exact ⟨rfl, rfl⟩
  | short _ => exact absurd h.symm hc
  | unit _ _ _ _ => exact absurd h.symm hc

/-- A part that begins with a character other than the backslash is that character. -/
theorem isPlain_eq {p : StringPart} {c : Char} (hc : c ≠ '\\') : p.isPlain c = (p.first == c) := by
  cases p with
  | plain d _ => rfl
  | short _ => exact (beq_false_of_ne hc.symm).symm
  | unit _ _ _ _ => exact (beq_false_of_ne hc.symm).symm

/-- Whether a part is a gap shows in its first character: an escape begins with a backslash, which is
none. -/
theorem isGap_eq (p : StringPart) : p.isGap = Source.isGap p.first := by
  cases p <;> rfl

/-- The same for spaces. -/
theorem isSpace_eq (p : StringPart) : p.isSpace = (p.first == ' ') := by
  cases p <;> rfl

/-- No control character stands for itself, and no part begins with a quotation mark. -/
theorem first_ne {p : StringPart} {c : Char} (hc : c.toNat < 0x20 ∨ c = '"') : p.first ≠ c := by
  have hescape : ¬ ('\\'.toNat < 0x20 ∨ '\\' = '"') := by decide
  rintro rfl
  cases p with
  | plain c h =>
    simp only [isPlainChar, Bool.and_eq_true, decide_eq_true_eq, bne_iff_ne] at h
    rcases hc with hc | hc
    · exact absurd h.1.1 (Nat.not_le_of_lt hc)
    · exact h.1.2 hc
  | short _ => exact hescape hc
  | unit _ _ _ _ => exact hescape hc

/-- The line breaks that stand for themselves are those that are no control characters of ASCII. -/
theorem break?_eq (p : StringPart) : p.break? =
    if Source.isBreak p.first then
      some (if p.first = '\u2028' ∨ p.first = '\u2029' then p.first else '\n')
    else none := by
  have hfeed : p.first ≠ '\n' := first_ne (Or.inl (by decide))
  have hreturn : p.first ≠ '\r' := first_ne (Or.inl (by decide))
  cases p with
  | plain c _ =>
    have hfeed : c ≠ '\n' := hfeed
    have hreturn : c ≠ '\r' := hreturn
    -- Beyond ASCII there are three breaks. The first one is folded into a feed, the other two stay.
    unfold break? first Source.isBreak
    dsimp only
    rw [beq_false_of_ne hfeed, beq_false_of_ne hreturn]
    by_cases hnext : c = '\x85'
    · subst hnext
      rfl
    · rw [if_neg hnext, beq_false_of_ne hnext]
      by_cases hseparator : c = '\u2028' ∨ c = '\u2029'
      · simp [hseparator]
      · simp [hseparator]
  | short _ => rfl
  | unit _ _ _ _ => rfl

/-- A line break that stands for itself is one character. -/
theorem chars_of_break? {p : StringPart} {b : Char} (h : p.break? = some b) : p.chars = [p.first] := by
  cases p with
  | plain _ _ => rfl
  | short _ => cases h
  | unit _ _ _ _ => cases h

/-- A part that is no gap stays on its line and in its word. -/
theorem isGap_first (p : StringPart) :
    Source.isGap p.first = (p.isSpace || p.break?.isSome) := by
  have htab : p.first ≠ '\t' := first_ne (Or.inl (by decide))
  have hend : p.first ≠ '\x00' := first_ne (Or.inl (by decide))
  rw [break?_eq, isSpace_eq]
  unfold Source.isGap Source.endsWord Source.endsLine
  rw [beq_false_of_ne htab, beq_false_of_ne hend, Bool.false_or, Bool.false_or]
  cases Source.isBreak p.first <;> rfl

end StringPart

namespace JsonString

/-- The characters of a string are those of its parts one after the other. -/
theorem inner_cons (p : StringPart) (s : JsonString) : inner (p :: s) = p.chars ++ inner s := rfl

/-- No part is without characters. -/
theorem length_le_inner (s : JsonString) : s.length ≤ (inner s).length := by
  induction s with
  | nil => exact Nat.le_refl _
  | cons p s ih =>
    obtain ⟨cs, h⟩ := p.chars_eq_cons
    rw [inner_cons, h, List.length_cons, List.length_append, List.length_cons]
    omega

/-- So strings are put together as their characters are. -/
theorem inner_append (s t : JsonString) : inner (s ++ t) = inner s ++ inner t :=
  List.flatMap_append

/-! ## Document markers -/

/-- What a string with its closing mark begins with. There is always such a character, so the reader of
strings never comes to the end of the text here. -/
def head : JsonString → Char
  | [] => '"'
  | p :: _ => p.first

/-- What a string begins with, together with the quotation mark behind it. -/
theorem headD_inner (s : JsonString) (rest : List Char) :
    (inner s ++ '"' :: rest).headD '\x00' = head s := by
  cases s with
  | nil => rfl
  | cons p s =>
    obtain ⟨cs, h⟩ := p.chars_eq_cons
    rw [inner_cons, h]
    rfl

variable {k : Cursor} {s : JsonString} {rest : List Char}

/-- This is the character that the cursor is at. -/
theorem peek_inner (h : k.rest = inner s ++ '"' :: rest) : k.peek = head s := by
  show k.rest.headD '\x00' = _
  rw [h, headD_inner]

/-- Parts that begin with the same plain character are a row of this character. Used for the three signs of
a marker, and for spaces. -/
theorem inner_of_first_eq {c : Char} {v : JsonString} (hc : c ≠ '\\')
    (hv : ∀ p ∈ v, p.first = c) : inner v = v.map fun _ => c := by
  induction v with
  | nil => rfl
  | cons p v ih =>
    rw [inner_cons, (StringPart.eq_plain_of_first (hv p (List.mem_cons_self ..)) hc).1,
      ih fun q hq => hv q (List.mem_cons_of_mem _ hq)]
    rfl

/-- Behind parts that are all the same character, another part is as far away as there are parts. -/
theorem peekAt_inner {c : Char} {v u : JsonString} (h : k.rest = inner (v ++ u) ++ '"' :: rest)
    (hc : c ≠ '\\') (hv : ∀ p ∈ v, p.first = c) : k.peekAt v.length = head u := by
  unfold Cursor.peekAt
  rw [h, inner_append, List.append_assoc, inner_of_first_eq hc hv, List.getD_eq_getElem?_getD,
    List.getElem?_append_right (Nat.le_of_eq (List.length_map _)), List.length_map,
    Nat.sub_self, ← headD_inner u rest]
  cases inner u ++ '"' :: rest <;> rfl

/-- Whether the character stands for itself three times, followed by a gap. This is what a marker of
documents looks like, which is an error at the start of a line in a string. -/
def hasThree (c : Char) : JsonString → Bool
  | p :: q :: r :: t :: _ => p.isPlain c && q.isPlain c && r.isPlain c && t.isGap
  | _ => false

/-- Only parts that stand for themselves make up a marker. -/
theorem hasMarker_inner {c : Char} (h : k.rest = inner s ++ '"' :: rest) (hc : c ≠ '\\')
    (hquote : '"' ≠ c) : k.hasMarker c = hasThree c s := by
  have hfirst := peek_inner h
  have hsecond (p : StringPart) (u : JsonString) (hs : s = p :: u) (hp : p.first = c) :
      k.peekAt 1 = head u := by
    subst hs
    exact peekAt_inner (v := [p]) h hc (by simpa using hp)
  have hthird (p q : StringPart) (u : JsonString) (hs : s = p :: q :: u) (hp : p.first = c)
      (hq : q.first = c) : k.peekAt 2 = head u := by
    subst hs
    exact peekAt_inner (v := [p, q]) h hc (by simp [hp, hq])
  have hfourth (p q r : StringPart) (u : JsonString) (hs : s = p :: q :: r :: u)
      (hp : p.first = c) (hq : q.first = c) (hr : r.first = c) : k.peekAt 3 = head u := by
    subst hs
    exact peekAt_inner (v := [p, q, r]) h hc (by simp [hp, hq, hr])
  unfold Cursor.hasMarker
  rw [hfirst]
  -- The marker is compared character by character, up to the first that differs.
  rcases s with _ | ⟨p, s⟩
  · simp [head, hasThree, hquote]
  by_cases hp : p.first = c
  · rw [hsecond p s rfl hp]
    rcases s with _ | ⟨q, s⟩
    · simp [head, hasThree, hquote]
    by_cases hq : q.first = c
    · rw [hthird p q s rfl hp hq]
      rcases s with _ | ⟨r, s⟩
      · simp [head, hasThree, hquote]
      by_cases hr : r.first = c
      · rw [hfourth p q r s rfl hp hq hr]
        rcases s with _ | ⟨t, s⟩
        · have hgap : Source.isGap (head []) = false := by decide
          rw [hgap, Bool.and_false]
          rfl
        · simp [head, hasThree, StringPart.isPlain_eq hc, StringPart.isGap_eq]
      · rcases s with _ | ⟨t, s⟩ <;>
          simp [head, hasThree, StringPart.isPlain_eq hc, beq_false_of_ne hr]
    · rcases s with _ | ⟨r, _ | ⟨t, s⟩⟩ <;>
        simp [head, hasThree, StringPart.isPlain_eq hc, beq_false_of_ne hq]
  · rcases s with _ | ⟨q, _ | ⟨r, _ | ⟨t, s⟩⟩⟩ <;>
      simp [head, hasThree, StringPart.isPlain_eq hc, beq_false_of_ne hp]

/-- The cursor is at a marker between documents if the string begins with one. Such a string can be no
scalar in YAML. -/
theorem atSeparator_inner (h : k.rest = inner s ++ '"' :: rest) :
    k.atSeparator = startsWithMarker s := by
  unfold Cursor.atSeparator
  rw [hasMarker_inner h (by decide) (by decide), hasMarker_inner h (by decide) (by decide)]
  rcases s with _ | ⟨p, _ | ⟨q, _ | ⟨r, _ | ⟨t, s⟩⟩⟩⟩
  case cons.cons.cons.cons => exact (Bool.and_or_distrib_right _ _ _).symm
  all_goals rfl

/-! ## Gaps -/

/-- A string is spaces and then something else. -/
theorem exists_spaces (s : JsonString) : ∃ spaces u, s = spaces ++ u ∧
    (∀ p ∈ spaces, p.isSpace = true) ∧ ∀ p v, u = p :: v → p.isSpace = false :=
  exists_longest_start StringPart.isSpace s

/-- Spaces are read as they are. -/
theorem inner_spaces {spaces : JsonString} (h : ∀ p ∈ spaces, p.isSpace = true) :
    (∀ c ∈ inner spaces, c = ' ') ∧ Text.ofChars (inner spaces) = spaces.map StringPart.codePoint := by
  induction spaces with
  | nil => exact ⟨by simp [inner], rfl⟩
  | cons p spaces ih =>
    -- A space stands for itself, since it is no backslash.
    have hp : p.first = ' ' := by
      have := h p (List.mem_cons_self ..)
      rw [StringPart.isSpace_eq] at this
      exact eq_of_beq this
    obtain ⟨hchars, hcode⟩ := StringPart.eq_plain_of_first hp (by decide)
    obtain ⟨hall, htext⟩ := ih fun q hq => h q (List.mem_cons_of_mem _ hq)
    rw [inner_cons, hchars]
    refine ⟨?_, ?_⟩
    · intro c hc
      rcases List.mem_cons.mp hc with rfl | hc
      · rfl
      · exact hall c hc
    · rw [List.map_cons, hcode, ← htext]
      rfl

/-- Skipping spaces in a string. -/
theorem passes_spaces {spaces u : JsonString} (h : k.rest = inner (spaces ++ u) ++ '"' :: rest)
    (hspaces : ∀ p ∈ spaces, p.isSpace = true) (hu : ∀ p v, u = p :: v → p.isSpace = false) :
    ∃ k', k.span (fun c => c == ' ' || c == '\t') = (inner spaces, k') ∧
      k.Passes (inner spaces) k' ∧ k'.rest = inner u ++ '"' :: rest := by
  rw [inner_append, List.append_assoc] at h
  refine Cursor.passes_span h ?_ ?_
  · intro c hc
    rw [(inner_spaces hspaces).1 c hc]
    rfl
  · -- The skip ends where the string goes on: the next character is no space, and no part begins with a tab.
    intro c v hcv
    have hhead : head u = c := by
      rw [← headD_inner u rest, hcv]
      rfl
    rw [← hhead]
    cases u with
    | nil => rfl
    | cons p u =>
      have hp := hu p u rfl
      rw [StringPart.isSpace_eq] at hp
      have htab : p.first ≠ '\t' := StringPart.first_ne (Or.inl (by decide))
      show (p.first == ' ' || p.first == '\t') = false
      rw [hp, beq_false_of_ne htab]
      rfl

/-- JSON allows some line breaks of YAML inside of strings, those beyond ASCII. -/
theorem takeBreak?_inner (h : k.rest = inner s ++ '"' :: rest) :
    k.takeBreak? = (s.head?.bind StringPart.break?).map fun b => (b, k.advance) := by
  have hpeek := peek_inner h
  cases s with
  | nil =>
    refine Cursor.takeBreak?_eq_none ?_
    rw [hpeek]
    rfl
  | cons p s =>
    have hpeek : k.peek = p.first := hpeek
    show _ = p.break?.map _
    rw [StringPart.break?_eq]
    -- Only a carriage return could take the next character with it, and no part begins with one.
    cases hbreak : Source.isBreak p.first with
    | false =>
      refine Cursor.takeBreak?_eq_none ?_
      rw [hpeek, hbreak]
    | true =>
      obtain ⟨cs, hcs⟩ := p.chars_eq_cons
      rw [inner_cons, hcs] at h
      exact Cursor.exists_takeBreak? h hbreak (StringPart.first_ne (Or.inl (by decide)))

/-- A string that begins with a line break goes on in the next line. -/
theorem passes_break {u : JsonString} {b : Char} (h : k.rest = inner u ++ '"' :: rest)
    (hbreak : u.head?.bind StringPart.break? = some b) : ∃ p v, u = p :: v ∧ p.break? = some b ∧
      k.Passes p.chars k.advance ∧ k.advance.rest = inner v ++ '"' :: rest ∧
      isScannable u = (!startsWithMarker v && isScannable v) := by
  cases u with
  | nil => cases hbreak
  | cons p v =>
    have hp : p.break? = some b := hbreak
    have hchars := StringPart.chars_of_break? hp
    rw [inner_cons, hchars] at h
    obtain ⟨hpasses, hrest⟩ := Cursor.passes_advance h
    refine ⟨p, v, rfl, hp, ?_, hrest, ?_⟩
    · rw [hchars]
      exact hpasses
    · rw [isScannable, hp, Option.isSome_some, Bool.true_and]

/-- Parts without breaks have no say in whether the rest can be scanned. -/
theorem isScannable_append {v u : JsonString} (h : ∀ p ∈ v, p.break? = none) :
    isScannable (v ++ u) = isScannable u := by
  induction v with
  | nil => rfl
  | cons p v ih =>
    rw [List.cons_append, isScannable, h p (List.mem_cons_self ..),
      ih fun q hq => h q (List.mem_cons_of_mem _ hq)]
    rfl

/-- A space is no break. -/
theorem break?_of_isSpace {p : StringPart} (h : p.isSpace = true) : p.break? = none := by
  rw [StringPart.isSpace_eq] at h
  rw [StringPart.break?_eq, eq_of_beq h]
  rfl

/-- Spaces behind a line break are dropped. -/
theorem readingFrom_spaces {spaces u : JsonString} (b : Char × List Char)
    (h : ∀ p ∈ spaces, p.isSpace = true) :
    readingFrom (some b) (spaces ++ u) = readingFrom (some b) u := by
  induction spaces with
  | nil => rfl
  | cons p spaces ih =>
    rw [List.cons_append, readingFrom, h p (List.mem_cons_self ..), if_pos rfl]
    exact ih fun q hq => h q (List.mem_cons_of_mem _ hq)

/-- Behind line breaks and the spaces around them goes what they are folded to. -/
theorem readingFrom_of_not_gap {u : JsonString} (first : Char) (others : List Char)
    (hspace : ∀ p v, u = p :: v → p.isSpace = false) (hbreak : u.head?.bind StringPart.break? = none) :
    readingFrom (some (first, others)) u
      = Text.ofChars (Cursor.folded first others.reverse) ++ readingFrom none u := by
  cases u with
  | nil => rw [readingFrom, readingFrom, List.append_nil]
  | cons p u =>
    have hbreak : p.break? = none := hbreak
    rw [readingFrom, readingFrom, hspace p u rfl, hbreak]
    rfl

/-- What reading the line breaks of a string gives: those that follow, and where they end. That the rest
is scannable is handed on, and what was read so far is folded in one go when the breaks are over. -/
structure BreaksRead (k : Cursor) (s : JsonString) (rest : List Char) (breaks : List Char)
    (u : JsonString) (k' : Cursor) : Prop where
  passes : ∃ v, s = v ++ u ∧ k.Passes (inner v) k'
  rest_eq : k'.rest = inner u ++ '"' :: rest
  isScannable_eq : isScannable s = isScannable u
  readingFrom_eq : ∀ first others, readingFrom (some (first, others)) s
    = Text.ofChars (Cursor.folded first (others.reverse ++ breaks)) ++ readingFrom none u

/-- The first way for the loop over breaks to end: with a marker, which is refused. -/
theorem takeQuotedBreaks_separator (start : Position) (fuel : Nat) (h : k.atSeparator = true) :
    ∃ fault, k.takeQuotedBreaks start (fuel + 1) = .error fault := by
  rw [Cursor.takeQuotedBreaks, h]
  exact ⟨_, rfl⟩

/-- The second way: there is no further break. -/
theorem takeQuotedBreaks_none (start : Position) (fuel : Nat) {k' : Cursor}
    (h : k.atSeparator = false) (hskip : (k.skip fun c => c == ' ' || c == '\t') = k')
    (hbreak : k'.takeBreak? = none) : k.takeQuotedBreaks start (fuel + 1) = .ok ([], k') := by
  rw [Cursor.takeQuotedBreaks, h, if_neg Bool.false_ne_true]
  dsimp only
  rw [hskip, hbreak]
  rfl

/-- The loop goes on: a break is taken, and the ones behind it. -/
theorem takeQuotedBreaks_some (start : Position) (fuel : Nat) {k' k'' : Cursor} {b : Char}
    (h : k.atSeparator = false) (hskip : (k.skip fun c => c == ' ' || c == '\t') = k')
    (hbreak : k'.takeBreak? = some (b, k'')) : k.takeQuotedBreaks start (fuel + 1) =
      k''.takeQuotedBreaks start fuel >>= fun r => .ok (b :: r.1, r.2) := by
  rw [Cursor.takeQuotedBreaks, h, if_neg Bool.false_ne_true]
  dsimp only
  rw [hskip, hbreak]
  rfl

/-- Spaces and a line break in front of others. -/
theorem BreaksRead.cons {spaces u v : JsonString} {p : StringPart} {b : Char} {breaks : List Char}
    {k₁ k' : Cursor} (hspaces : ∀ p ∈ spaces, p.isSpace = true) (hspace : p.isSpace = false)
    (hbreak : p.break? = some b) (hmarker : startsWithMarker u = false)
    (hpasses : k.Passes (inner spaces) k₁) (hpasses' : k₁.Passes p.chars k₁.advance)
    (h : BreaksRead k₁.advance u rest breaks v k') :
    BreaksRead k (spaces ++ p :: u) rest (b :: breaks) v k' := by
  obtain ⟨⟨w, hw, hpasses''⟩, hk', hscan, hreading⟩ := h
  refine ⟨⟨spaces ++ p :: w, ?_, ?_⟩, hk', ?_, fun first others => ?_⟩
  · rw [hw, List.append_assoc]
    rfl
  · rw [inner_append, inner_cons]
    exact hpasses.trans (hpasses'.trans hpasses'')
  · rw [isScannable_append fun p hp => break?_of_isSpace (hspaces p hp), isScannable, hbreak,
      hmarker, hscan]
    rfl
  · rw [readingFrom_spaces _ hspaces, readingFrom, hspace, hbreak, if_neg Bool.false_ne_true]
    dsimp only
    rw [hreading first (b :: others), List.reverse_cons, List.append_assoc]
    rfl

/-- The line breaks at the start of a line of a string: all of them are taken, with the spaces around,
unless a marker stands at the start of one of the lines. -/
theorem takeQuotedBreaks_string (start : Position) (fuel : Nat) (s : JsonString) (k : Cursor)
    (h : k.rest = inner s ++ '"' :: rest) (hfuel : s.length < fuel) :
    (startsWithMarker s = false ∧ ∃ breaks u k',
      k.takeQuotedBreaks start fuel = .ok (breaks, k') ∧ BreaksRead k s rest breaks u k') ∨
    ((!startsWithMarker s && isScannable s) = false ∧
      ∃ fault, k.takeQuotedBreaks start fuel = .error fault) := by
  induction fuel generalizing s k with
  | zero => exact absurd hfuel (Nat.not_lt_zero _)
  | succ fuel ih =>
    have hseparator := atSeparator_inner h
    cases hmarker : startsWithMarker s with
    | true =>
      rw [hmarker] at hseparator
      exact Or.inr ⟨rfl, takeQuotedBreaks_separator start fuel hseparator⟩
    | false =>
      rw [hmarker] at hseparator
      -- One turn of the loop skips the spaces of the line, then looks for one more line break.
      obtain ⟨spaces, u, rfl, hspaces, hu⟩ := exists_spaces s
      obtain ⟨k₁, hspan, hpasses, hrest⟩ := passes_spaces h hspaces hu
      have hskip : (k.skip fun c => c == ' ' || c == '\t') = k₁ := by
        unfold Cursor.skip
        rw [hspan]
      have hscan : isScannable (spaces ++ u) = isScannable u :=
        isScannable_append fun p hp => break?_of_isSpace (hspaces p hp)
      have hbreak := takeBreak?_inner hrest
      cases hfirst : u.head?.bind StringPart.break? with
      | none =>
        rw [hfirst] at hbreak
        have hread := takeQuotedBreaks_none start fuel hseparator hskip hbreak
        -- No further break: the spaces are dropped and reading goes on as behind a break.
        refine Or.inl ⟨rfl, [], u, k₁, hread, ⟨spaces, rfl, hpasses⟩, hrest, hscan, ?_⟩
        intro first others
        rw [readingFrom_spaces _ hspaces, readingFrom_of_not_gap first others hu hfirst,
          List.append_nil]
      | some b =>
        rw [hfirst] at hbreak
        obtain ⟨p, u, rfl, hpb, hpasses', hrest', hline⟩ := passes_break hrest hfirst
        have hlength : u.length < fuel := by
          rw [List.length_append, List.length_cons] at hfuel
          omega
        have hread := takeQuotedBreaks_some start fuel hseparator hskip hbreak
        -- The next line may be refused for a document marker, and then this one is refused as well.
        rcases ih u _ hrest' hlength with ⟨hnone, breaks, v, k', hmore, hread'⟩ | ⟨hfail, fault, hmore⟩
        · refine Or.inl ⟨rfl, b :: breaks, v, k', ?_,
            hread'.cons hspaces (hu p u rfl) hpb hnone hpasses hpasses'⟩
          rw [hread, hmore]
          rfl
        · refine Or.inr ⟨?_, fault, ?_⟩
          · rw [hscan, hline, hfail]
            rfl
          · rw [hread, hmore]
            rfl

/-! ## Pieces -/

/-- What reading a piece at the start of a string gives: the text of the piece, and where it ends. Some of
the string is taken, so the string becomes shorter with each piece. -/
structure PieceRead (k : Cursor) (s : JsonString) (rest : List Char) (text : Text) (u : JsonString)
    (k' : Cursor) : Prop where
  passes : ∃ v, s = v ++ u ∧ v ≠ [] ∧ k.Passes (inner v) k'
  rest_eq : k'.rest = inner u ++ '"' :: rest
  isScannable_eq : isScannable s = isScannable u
  reading_eq : reading s = text ++ reading u

/-- Spaces in front of a line break are dropped. -/
theorem startsLine_spaces {spaces u : JsonString} (h : ∀ p ∈ spaces, p.isSpace = true)
    (hu : ∀ p v, u = p :: v → p.isSpace = false) :
    startsLine (spaces ++ u) = (u.head?.bind StringPart.break?).isSome := by
  -- The spaces are dropped to look at what stands behind them.
  have hdrop : (spaces ++ u).dropWhile StringPart.isSpace = u := by
    rw [List.dropWhile_append_of_pos h]
    cases u with
    | nil => rfl
    | cons p u => rw [List.dropWhile_cons, hu p u rfl, if_neg Bool.false_ne_true]
  unfold startsLine
  rw [hdrop]

/-- Spaces that no break follows are kept. -/
theorem reading_spaces {spaces u : JsonString} (h : ∀ p ∈ spaces, p.isSpace = true)
    (hu : ∀ p v, u = p :: v → p.isSpace = false) (hbreak : u.head?.bind StringPart.break? = none) :
    reading (spaces ++ u) = spaces.map StringPart.codePoint ++ reading u := by
  induction spaces with
  | nil => rfl
  | cons p spaces ih =>
    have hrest := fun q hq => h q (List.mem_cons_of_mem _ hq)
    have hline : startsLine (spaces ++ u) = false := by
      rw [startsLine_spaces hrest hu, hbreak]
      rfl
    unfold reading at ih ⊢
    rw [List.cons_append, readingFrom, h p (List.mem_cons_self ..), hline, if_pos rfl,
      if_neg Bool.false_ne_true, ih hrest]
    rfl

/-- Spaces in front of a break are dropped, since the break folds them. -/
theorem reading_spaces_break {spaces u : JsonString} {p : StringPart} {b : Char}
    (h : ∀ q ∈ spaces, q.isSpace = true) (hp : p.isSpace = false) (hbreak : p.break? = some b) :
    reading (spaces ++ p :: u) = readingFrom (some (b, [])) u := by
  induction spaces with
  | nil =>
    unfold reading
    rw [List.nil_append, readingFrom, hp, hbreak, if_neg Bool.false_ne_true]
  | cons q spaces ih =>
    have hrest := fun r hr => h r (List.mem_cons_of_mem _ hr)
    have hline : startsLine (spaces ++ p :: u) = true := by
      rw [startsLine_spaces hrest (fun q v heq => by cases heq; exact hp)]
      show p.break?.isSome = true
      rw [hbreak]
      rfl
    unfold reading at ih ⊢
    rw [List.cons_append, readingFrom, h q (List.mem_cons_self ..), hline, if_pos rfl, if_pos rfl]
    exact ih hrest

/-- A gap with a line break in it, of which those behind the first have been read. -/
theorem BreaksRead.pieceRead {spaces u v : JsonString} {p : StringPart} {b : Char}
    {breaks : List Char} {k₁ k' : Cursor} (hspaces : ∀ p ∈ spaces, p.isSpace = true)
    (hspace : p.isSpace = false) (hbreak : p.break? = some b) (hmarker : startsWithMarker u = false)
    (hpasses : k.Passes (inner spaces) k₁) (hpasses' : k₁.Passes p.chars k₁.advance)
    (h : BreaksRead k₁.advance u rest breaks v k') :
    PieceRead k (spaces ++ p :: u) rest (Text.ofChars (Cursor.folded b breaks)) v k' := by
  obtain ⟨⟨w, hw, hpasses''⟩, hk', hscan, hreading⟩ := h
  refine ⟨⟨spaces ++ p :: w, ?_, ?_, ?_⟩, hk', ?_, ?_⟩
  · rw [hw, List.append_assoc]
    rfl
  · exact List.append_ne_nil_of_right_ne_nil spaces (List.cons_ne_nil p w)
  · rw [inner_append, inner_cons]
    exact hpasses.trans (hpasses'.trans hpasses'')
  · rw [isScannable_append fun p hp => break?_of_isSpace (hspaces p hp), isScannable, hbreak,
      hmarker, hscan]
    rfl
  · rw [reading_spaces_break hspaces hspace hbreak, hreading]
    rfl

/-- A gap without a break is the white space in it. -/
theorem takeQuotedGap_none (start : Position) {blanks : List Char} {k' : Cursor}
    (hspan : (k.span fun c => c == ' ' || c == '\t') = (blanks, k'))
    (hend : (k'.peek == '\x00') = false) (hbreak : k'.takeBreak? = none) :
    k.takeQuotedGap start = .ok (blanks, k') := by
  unfold Cursor.takeQuotedGap
  rw [hspan]
  dsimp only
  rw [hend, hbreak]
  rfl

/-- A gap with a break is folded. -/
theorem takeQuotedGap_some (start : Position) {blanks : List Char} {k' k'' : Cursor} {b : Char}
    (hspan : (k.span fun c => c == ' ' || c == '\t') = (blanks, k'))
    (hend : (k'.peek == '\x00') = false) (hbreak : k'.takeBreak? = some (b, k'')) :
    k.takeQuotedGap start = k''.takeQuotedBreaks start (k''.rest.length + 1) >>= fun r =>
      .ok (Cursor.folded b r.1, r.2) := by
  unfold Cursor.takeQuotedGap
  rw [hspan]
  dsimp only
  rw [hend, hbreak]
  rfl

/-- A gap in a string. -/
theorem takeQuotedGap_string (start : Position) {p : StringPart} {s : JsonString} {k : Cursor}
    (h : k.rest = inner (p :: s) ++ '"' :: rest) (hp : Source.isGap p.first = true) :
    (∃ gap u k', k.takeQuotedGap start = .ok (gap, k') ∧
      PieceRead k (p :: s) rest (Text.ofChars gap) u k') ∨
    (isScannable (p :: s) = false ∧ ∃ fault, k.takeQuotedGap start = .error fault) := by
  rw [StringPart.isGap_first] at hp
  obtain ⟨spaces, u, hs, hspaces, hu⟩ := exists_spaces (p :: s)
  rw [hs] at h ⊢
  obtain ⟨k₁, hspan, hpasses, hrest⟩ := passes_spaces h hspaces hu
  have hscan : isScannable (spaces ++ u) = isScannable u :=
    isScannable_append fun p hp => break?_of_isSpace (hspaces p hp)
  have hend : (k₁.peek == '\x00') = false := by
    rw [peek_inner hrest]
    cases u with
    | nil => rfl
    | cons q u => exact beq_false_of_ne (StringPart.first_ne (Or.inl (by decide)))
  have hbreak := takeBreak?_inner hrest
  cases hfirst : u.head?.bind StringPart.break? with
  | none =>
    rw [hfirst] at hbreak
    have hread := takeQuotedGap_none start hspan hend hbreak
    refine Or.inl ⟨inner spaces, u, k₁, hread, ⟨spaces, rfl, ?_, hpasses⟩, hrest, hscan, ?_⟩
    · -- A gap without a line break is not empty, since the first part of it is a space.
      rintro rfl
      rw [List.nil_append] at hs
      rw [← hs] at hfirst
      have hnone : p.break? = none := hfirst
      rw [hu p s hs.symm, hnone] at hp
      cases hp
    · rw [reading_spaces hspaces hu hfirst, (inner_spaces hspaces).2]
  | some b =>
    rw [hfirst] at hbreak
    obtain ⟨q, u, rfl, hqb, hpasses', hrest', hline⟩ := passes_break hrest hfirst
    have hread := takeQuotedGap_some start hspan hend hbreak
    have hlength : u.length < k₁.advance.rest.length + 1 := by
      rw [hrest', List.length_append]
      have := length_le_inner u
      omega
    rcases takeQuotedBreaks_string start _ u _ hrest' hlength with
      ⟨hnone, breaks, v, k', hmore, hread'⟩ | ⟨hfail, fault, hmore⟩
    · refine Or.inl ⟨Cursor.folded b breaks, v, k', ?_,
        hread'.pieceRead hspaces (hu q u rfl) hqb hnone hpasses hpasses'⟩
      rw [hread, hmore]
      rfl
    · refine Or.inr ⟨?_, fault, ?_⟩
      · rw [hscan, hline, hfail]
      · rw [hread, hmore]
        rfl

/-- A piece of one part. -/
theorem pieceRead_cons {p : StringPart} {k' : Cursor} (hspace : p.isSpace = false)
    (hbreak : p.break? = none) (hpasses : k.Passes p.chars k')
    (hrest : k'.rest = inner s ++ '"' :: rest) : PieceRead k (p :: s) rest [p.codePoint] s k' where
  passes := ⟨[p], rfl, by simp, by rw [inner_cons, inner, List.flatMap_nil, List.append_nil]; exact hpasses⟩
  rest_eq := hrest
  isScannable_eq := by
    rw [isScannable, hbreak]
    rfl
  reading_eq := by
    unfold reading
    rw [readingFrom, hspace, hbreak, if_neg Bool.false_ne_true]
    rfl

/-! ## Escapes -/

/-- A hexadecimal digit of JSON is one of YAML with the same value. -/
theorem hexValue?_char (d : HexDigit) : Yaml.Source.hexValue? d.char = some d.value.val := by
  obtain ⟨value, capital⟩ := d
  revert value capital
  decide

/-- So an escape with four digits is read as its code point, a surrogate included. -/
theorem takeNumberEscape_unit (start : Position) {a b c d : HexDigit} {cs : List Char}
    (h : k.rest = a.char :: b.char :: c.char :: d.char :: cs) :
    k.takeNumberEscape start 4 = .ok ((StringPart.unit a b c d).codePoint, k.advanceBy 4) := by
  have hnumber : Cursor.hexNumber 4 k.rest 0 = .ok
      (16 * (16 * (16 * (16 * 0 + a.value.val) + b.value.val) + c.value.val) + d.value.val) := by
    rw [h]
    simp only [Cursor.hexNumber, hexValue?_char]
  -- The reader takes in one digit after the other, the code point multiplies them out.
  have hsame : 16 * (16 * (16 * (16 * 0 + a.value.val) + b.value.val) + c.value.val) + d.value.val
      = ((a.value.val * 16 + b.value.val) * 16 + c.value.val) * 16 + d.value.val := by
    omega
  have hlt : ((a.value.val * 16 + b.value.val) * 16 + c.value.val) * 16 + d.value.val < 0x110000 := by
    have := a.value.isLt
    have := b.value.isLt
    have := c.value.isLt
    have := d.value.isLt
    omega
  have hpoint : CodePoint.ofNat?
      (((a.value.val * 16 + b.value.val) * 16 + c.value.val) * 16 + d.value.val)
        = some (StringPart.unit a b c d).codePoint := by
    unfold CodePoint.ofNat? StringPart.codePoint CodePoint.ofNat
    rw [dif_pos hlt]
    dsimp only
    rw [dif_pos hlt]
  unfold Cursor.takeNumberEscape
  rw [hnumber, hsame]
  dsimp only
  rw [hpoint]
  rfl

/-- An escape behind its backslash. -/
theorem takeEscape_string (start : Position) {p : StringPart} (hp : p.first = '\\')
    (h : k.rest = inner (p :: s) ++ '"' :: rest) :
    ∃ k', k.advance.takeEscape start = .ok ([p.codePoint], k') ∧ k.Passes p.chars k' ∧
      k'.rest = inner s ++ '"' :: rest := by
  cases p with
  | plain c hc =>
    obtain rfl : c = '\\' := hp
    exact absurd hc (by decide)
  | short e =>
    obtain ⟨hpasses, hrest⟩ := Cursor.passes_advance h
    obtain ⟨hpasses', hrest'⟩ := Cursor.passes_advance hrest
    refine ⟨k.advance.advance, ?_, hpasses.trans hpasses', hrest'⟩
    -- The character behind the backslash is looked up among the short escapes.
    have hlookup : Cursor.escapes.lookup k.advance.peek = some e.number := by
      rw [Cursor.peek_of_rest hrest]
      cases e <;> rfl
    unfold Cursor.takeEscape
    rw [hlookup]
    rfl
  | unit a b c d =>
    obtain ⟨hpasses, hrest⟩ := Cursor.passes_advance h
    obtain ⟨hpasses', hrest'⟩ := Cursor.passes_advance hrest
    obtain ⟨hpasses'', hrest''⟩ :=
      Cursor.passes_advanceBy (w := [a.char, b.char, c.char, d.char]) hrest'
    refine ⟨k.advance.advance.advanceBy 4, ?_, hpasses.trans (hpasses'.trans hpasses''), hrest''⟩
    have hpeek : k.advance.peek = 'u' := Cursor.peek_of_rest hrest
    -- A `u` is no short escape, but it asks for four digits.
    have hescape : Cursor.escapes.lookup k.advance.peek = none := by
      rw [hpeek]
      rfl
    have hdigits : Cursor.numberEscapes.lookup k.advance.peek = some 4 := by
      rw [hpeek]
      rfl
    unfold Cursor.takeEscape
    rw [hescape, hdigits]
    dsimp only
    rw [takeNumberEscape_unit start hrest']
    rfl

/-! ## Whole strings -/

section Run

variable {run : List Char} {k' : Cursor} (start : Position) (fuel : Nat)
  (hspan : (k.span fun c => !Cursor.endsQuotedRun c) = (run, k'))

include hspan

/-- The closing mark. -/
theorem takeQuoted_close (hpeek : k'.peek = '"') :
    k.takeQuoted '"' start (fuel + 1) = .ok (Text.ofChars run, k'.advance) := by
  rw [Cursor.takeQuoted]
  dsimp only
  rw [hspan]
  dsimp only
  rw [hpeek]
  rfl

/-- Where a gap stands behind a run of plain characters, a scanner between quotation marks takes the gap and
goes on behind it. The gap may be refused, and then so is the text. -/
theorem takeQuoted_gap (hpeek : k'.peek ≠ '"') (hgap : Source.isGap k'.peek = true) :
    k.takeQuoted '"' start (fuel + 1) = k'.takeQuotedGap start >>= fun g =>
      g.2.takeQuoted '"' start fuel >>= fun r =>
        .ok (Text.ofChars run ++ Text.ofChars g.1 ++ r.1, r.2) := by
  rw [Cursor.takeQuoted]
  dsimp only
  rw [hspan]
  dsimp only
  rw [beq_false_of_ne hpeek, hgap, if_neg Bool.false_ne_true, if_pos rfl]
  cases k'.takeQuotedGap start <;> rfl

/-- Where a backslash stands behind the run, the scanner takes an escape and goes on behind it. With the gap
and the closing mark these are all the ways on. -/
theorem takeQuoted_escape (hpeek : k'.peek = '\\') :
    k.takeQuoted '"' start (fuel + 1) = k'.advance.takeEscape start >>= fun g =>
      g.2.takeQuoted '"' start fuel >>= fun r =>
        .ok (Text.ofChars run ++ g.1 ++ r.1, r.2) := by
  rw [Cursor.takeQuoted]
  dsimp only
  rw [hspan]
  dsimp only
  rw [hpeek]
  rw [if_neg (by decide), if_neg (by decide), if_pos (by decide)]
  cases k'.advance.takeEscape start <;> rfl

/-- An apostrophe stands for itself. -/
theorem takeQuoted_apostrophe (hpeek : k'.peek = '\x27') :
    k.takeQuoted '"' start (fuel + 1) = k'.advance.takeQuoted '"' start fuel >>= fun r =>
      .ok (Text.ofChars run ++ [CodePoint.ofChar '\x27'] ++ r.1, r.2) := by
  rw [Cursor.takeQuoted]
  dsimp only
  rw [hspan]
  dsimp only
  rw [hpeek]
  rfl

end Run

/-- A part that is neither taken with a run of ordinary characters nor the end is a piece alone, or
begins a gap. -/
theorem takeQuoted_piece {run : List Char} {k' : Cursor} {p : StringPart} (start : Position)
    (fuel : Nat) (hspan : (k.span fun c => !Cursor.endsQuotedRun c) = (run, k'))
    (h : k'.rest = inner (p :: s) ++ '"' :: rest) (hp : Cursor.endsQuotedRun p.first = true) :
    (∃ text u k'', PieceRead k' (p :: s) rest text u k'' ∧
      k.takeQuoted '"' start (fuel + 1) = k''.takeQuoted '"' start fuel >>= fun r =>
        .ok (Text.ofChars run ++ text ++ r.1, r.2)) ∨
    (isScannable (p :: s) = false ∧ ∃ fault, k.takeQuoted '"' start (fuel + 1) = .error fault) := by
  have hpeek : k'.peek = p.first := peek_inner h
  have hquote : p.first ≠ '"' := StringPart.first_ne (Or.inr rfl)
  cases hgap : Source.isGap p.first with
  | true =>
    have hread := takeQuoted_gap start fuel hspan (by rw [hpeek]; exact hquote)
      (by rw [hpeek]; exact hgap)
    rcases takeQuotedGap_string start h hgap with ⟨gap, u, k'', hok, hpiece⟩ | ⟨hscan, fault, herror⟩
    · refine Or.inl ⟨Text.ofChars gap, u, k'', hpiece, ?_⟩
      rw [hread, hok]
      rfl
    · refine Or.inr ⟨hscan, fault, ?_⟩
      rw [hread, herror]
      rfl
  | false =>
    rw [StringPart.isGap_first, Bool.or_eq_false_iff, Option.isSome_eq_false_iff,
      Option.isNone_iff_eq_none] at hgap
    -- What ends a run and is no gap is a backslash, a quotation mark or an apostrophe.
    by_cases hescape : p.first = '\\'
    · obtain ⟨k'', hok, hpasses, hrest⟩ := takeEscape_string start hescape h
      refine Or.inl ⟨_, s, k'', pieceRead_cons hgap.1 hgap.2 hpasses hrest, ?_⟩
      rw [takeQuoted_escape start fuel hspan (hpeek.trans hescape), hok]
      rfl
    · obtain ⟨hchars, hcode⟩ := StringPart.eq_plain_of_first rfl hescape
      have hapostrophe : p.first = '\x27' := by
        unfold Cursor.endsQuotedRun at hp
        rw [StringPart.isGap_first, hgap.1, hgap.2] at hp
        simpa [hquote, hescape] using hp
      rw [inner_cons, hchars] at h
      obtain ⟨hpasses, hrest⟩ := Cursor.passes_advance h
      rw [← hchars] at hpasses
      refine Or.inl ⟨_, s, k'.advance, pieceRead_cons hgap.1 hgap.2 hpasses hrest, ?_⟩
      rw [takeQuoted_apostrophe start fuel hspan (hpeek.trans hapostrophe), hcode, hapostrophe]

/-- A run of ordinary characters is read as it is written. -/
theorem reading_ordinary {v u : JsonString} (h : ∀ p ∈ v, (!Cursor.endsQuotedRun p.first) = true) :
    (∀ c ∈ inner v, (!Cursor.endsQuotedRun c) = true) ∧
      isScannable (v ++ u) = isScannable u ∧
      reading (v ++ u) = Text.ofChars (inner v) ++ reading u := by
  induction v with
  | nil => exact ⟨by simp [inner], rfl, rfl⟩
  | cons p v ih =>
    obtain ⟨hall, hscan, hreading⟩ := ih fun q hq => h q (List.mem_cons_of_mem _ hq)
    have hp := h p (List.mem_cons_self ..)
    -- A part that no run ends at is a character that stands for itself.
    have hescape : p.first ≠ '\\' := by
      intro heq
      rw [heq] at hp
      cases hp
    obtain ⟨hchars, hcode⟩ := StringPart.eq_plain_of_first rfl hescape
    have hgap : Source.isGap p.first = false := by
      rw [Bool.not_eq_true', Cursor.endsQuotedRun, Bool.or_eq_false_iff] at hp
      exact hp.2
    rw [StringPart.isGap_first, Bool.or_eq_false_iff, Option.isSome_eq_false_iff,
      Option.isNone_iff_eq_none] at hgap
    rw [inner_cons, hchars]
    refine ⟨?_, ?_, ?_⟩
    · intro c hc
      rcases List.mem_cons.mp hc with rfl | hc
      · exact hp
      · exact hall c hc
    · rw [List.cons_append, isScannable, hgap.2]
      exact hscan
    · unfold reading at hreading ⊢
      rw [List.cons_append, readingFrom, hgap.1, hgap.2, if_neg Bool.false_ne_true]
      dsimp only
      rw [hreading, hcode]
      rfl

/-- A string is read as `reading` says, unless a line of it begins with a document marker. Induction on
the parts of the string, where each turn of the reader takes at least one. -/
theorem takeQuoted_string (start : Position) (fuel : Nat) (s : JsonString) (k : Cursor)
    (h : k.rest = inner s ++ '"' :: rest) (hfuel : s.length < fuel) :
    (isScannable s = true ∧ ∃ k', k.takeQuoted '"' start fuel = .ok (reading s, k') ∧
      k.Passes (inner s ++ ['"']) k' ∧ k'.rest = rest) ∨
    (isScannable s = false ∧ ∃ fault, k.takeQuoted '"' start fuel = .error fault) := by
  induction fuel generalizing s k with
  | zero => exact absurd hfuel (Nat.not_lt_zero _)
  | succ fuel ih =>
    -- One turn takes the run of ordinary characters, then the piece that ends it.
    obtain ⟨v, u, rfl, hv, hu⟩ :=
      exists_longest_start (fun p : StringPart => !Cursor.endsQuotedRun p.first) s
    obtain ⟨hall, hscan, hreading⟩ := reading_ordinary (u := u) hv
    rw [inner_append, List.append_assoc] at h
    -- The run ends at a part that is special, or at the quotation mark.
    have hstop : ∀ c w, inner u ++ '"' :: rest = c :: w → (!Cursor.endsQuotedRun c) = false := by
      intro c w hcw
      have hhead : head u = c := by
        rw [← headD_inner u rest, hcw]
        rfl
      rw [← hhead]
      cases u with
      | nil => rfl
      | cons p u => exact hu p u rfl
    obtain ⟨k₁, hspan, hpasses, hrest⟩ := Cursor.passes_span h hall hstop
    rw [hscan, hreading]
    cases u with
    | nil =>
      obtain ⟨hpasses', hrest'⟩ := Cursor.passes_advance hrest
      refine Or.inl ⟨rfl, k₁.advance, ?_, ?_, hrest'⟩
      · rw [takeQuoted_close start fuel hspan (Cursor.peek_of_rest hrest)]
        exact congrArg (fun t => Except.ok (t, k₁.advance)) (List.append_nil _).symm
      · rw [List.append_nil]
        exact hpasses.trans hpasses'
    | cons p u =>
      have hp : Cursor.endsQuotedRun p.first = true := by
        simpa using hu p u rfl
      rcases takeQuoted_piece start fuel hspan hrest hp with
        ⟨text, u', k₂, ⟨⟨w, hw, hne, hpasses'⟩, hrest', hscan', hreading'⟩, hread⟩ | hfail
      · -- The fuel covers the rest, since no piece is empty.
        have hlength : u'.length < fuel := by
          have hsum := congrArg List.length hw
          have hpos := List.length_pos_iff.mpr hne
          rw [List.length_append] at hfuel hsum
          omega
        rw [hscan', hreading', hread]
        rcases ih u' k₂ hrest' hlength with ⟨htrue, k', hok, hpasses'', hk'⟩ | ⟨hfalse, fault, herror⟩
        · refine Or.inl ⟨htrue, k', ?_, ?_, hk'⟩
          · rw [hok, ← List.append_assoc]
            rfl
          · rw [hw, inner_append, inner_append]
            simp only [List.append_assoc]
            exact hpasses.trans (hpasses'.trans hpasses'')
        · refine Or.inr ⟨hfalse, fault, ?_⟩
          rw [herror]
          rfl
      · exact Or.inr hfail

end JsonString

end TermAudit.JsonText
