import TermAudit.Yaml.Source

/-!
# `TermAudit.Proofs.Yaml.Cursor`: moving over characters

All readers of tokens move a cursor forward. `Cursor.Passes k w k'` says that `k'` is the cursor
behind the characters `w` at `k`; from it follow the characters that are left
(`Passes.rest_eq`), how far the cursor has come (`Passes.index_eq`) and whether it is still on the
same line (`Passes.line_eq_iff`).

`passes_spanFrom` and `passes_span` say what a span over characters takes.
-/

set_option autoImplicit false

namespace TermAudit

/-- What holds of each of some characters is found out by going through them, not through all
characters. -/
theorem forall_mem_of_all {p : Char → Prop} [DecidablePred p] {cs : List Char}
    (h : (cs.all fun c => decide (p c)) = true) : ∀ c ∈ cs, p c :=
  fun c hc => of_decide_eq_true (List.all_eq_true.mp h c hc)

namespace Yaml

namespace Position

/-- Every character counts one, a line break as well. -/
theorem index_after (p : Position) (c : Char) (next : Option Char) :
    (p.after c next).index = p.index + 1 := by
  unfold after
  split
  · rfl
  · split <;> rfl

/-- The line number never falls. -/
theorem line_le_line_after (p : Position) (c : Char) (next : Option Char) :
    p.line ≤ (p.after c next).line := by
  unfold after
  split
  · exact Nat.le_succ _
  · split <;> exact Nat.le_refl _

/-- A character that is no line break stays on its line. -/
theorem line_after_of_not_isBreak {p : Position} {c : Char} {next : Option Char}
    (h : Source.isBreak c = false) : (p.after c next).line = p.line := by
  unfold after
  rw [h]
  simp only [Bool.false_and, Bool.false_eq_true, if_false]
  split <;> rfl

/-- A line break begins a new line, unless it is the first half of one. -/
theorem line_after_of_isBreak {p : Position} {c : Char} {next : Option Char}
    (h : Source.isBreak c = true) (hnext : ¬ (c = '\r' ∧ next = some '\n')) :
    (p.after c next).line = p.line + 1 := by
  have hhalf : (c == '\r' && next == some '\n') = false := by
    rw [Bool.eq_false_iff]
    simpa using hnext
  unfold after
  rw [h, hhalf]
  rfl

end Position

/-- The longest start of a list that satisfies a condition, and the rest. -/
theorem exists_longest_start {α : Type} (p : α → Bool) (l : List α) :
    ∃ v w, l = v ++ w ∧ (∀ a ∈ v, p a = true) ∧ ∀ a u, w = a :: u → p a = false := by
  induction l with
  | nil => exact ⟨[], [], rfl, by simp, by simp⟩
  | cons a l ih =>
    cases h : p a with
    | false =>
      refine ⟨[], a :: l, rfl, by simp, ?_⟩
      intro b u heq
      cases heq
      exact h
    | true =>
      obtain ⟨v, w, rfl, hv, hw⟩ := ih
      refine ⟨a :: v, w, rfl, ?_, hw⟩
      intro b hb
      rcases List.mem_cons.mp hb with rfl | hb
      · exact h
      · exact hv b hb

namespace Cursor

/-- The cursor behind some characters. It is defined by single steps, so that a run over characters can be
put together of runs over parts of them. -/
inductive Passes : Cursor → List Char → Cursor → Prop
  | refl (k : Cursor) : Passes k [] k
  | cons {c : Char} {rest w : List Char} {p : Position} {k' : Cursor}
    (h : Passes ⟨rest, p.after c rest.head?⟩ w k') : Passes ⟨c :: rest, p⟩ (c :: w) k'

namespace Passes

variable {k k' k'' : Cursor} {v w : List Char}

/-- What is left at the start is what has been passed and what is left then. With the index and the line
this is all that the proofs about tokens use of a cursor. -/
theorem rest_eq (h : Passes k w k') : k.rest = w ++ k'.rest := by
  induction h with
  | refl k => rfl
  | cons h ih => exact congrArg (List.cons _) ih

/-- Characters can be passed in two goes. -/
theorem trans (h : Passes k v k') (h' : Passes k' w k'') : Passes k (v ++ w) k'' := by
  induction h with
  | refl k => exact h'
  | cons h ih => exact .cons (ih h')

/-- The characters and the place where they begin determine the place behind them. -/
theorem unique (h : Passes k w k') (h' : Passes k w k'') : k' = k'' := by
  induction h with
  | refl k =>
    cases h'
    rfl
  | cons h ih =>
    cases h' with
    | cons h' => exact ih h'

/-- The cursor has come as far as it has passed characters. -/
theorem index_eq (h : Passes k w k') : k'.position.index = k.position.index + w.length := by
  induction h with
  | refl k => rfl
  | cons h ih =>
    rw [ih, Position.index_after, List.length_cons]
    dsimp only
    omega

/-- A cursor that has moved on is on the same line or further down. -/
theorem line_le (h : Passes k w k') : k.position.line ≤ k'.position.line := by
  induction h with
  | refl k => exact Nat.le_refl _
  | cons h ih => exact Nat.le_trans (Position.line_le_line_after _ _ _) ih

/-- It is at the same character or further on. -/
theorem index_le (h : Passes k w k') : k.position.index ≤ k'.position.index := by
  rw [h.index_eq]
  exact Nat.le_add_right _ _

/-- Characters without a line break leave the cursor on its line. -/
theorem line_eq_of_no_break (h : Passes k w k') (hw : w.any Source.isBreak = false) :
    k'.position.line = k.position.line := by
  induction h with
  | refl k => rfl
  | cons h ih =>
    rw [List.any_cons, Bool.or_eq_false_iff] at hw
    rw [ih hw.2]
    exact Position.line_after_of_not_isBreak hw.1

/-- A line goes on as long as there is no line break. The characters must not end in the middle of a line
break of two characters, where the line has not been counted yet. -/
theorem line_eq_iff (h : Passes k w k') (hend : k'.rest.head? ≠ some '\n') :
    k'.position.line = k.position.line ↔ w.any Source.isBreak = false := by
  induction h with
  | refl k => simp
  | @cons c rest w p k' h ih =>
    have hle := h.line_le
    have ih := ih hend
    rw [List.any_cons]
    cases hbreak : Source.isBreak c with
    | false =>
      rw [Position.line_after_of_not_isBreak hbreak] at ih
      rw [Bool.false_or]
      exact ih
    | true =>
      rw [Bool.true_or]
      refine iff_of_false ?_ (by simp)
      show k'.position.line ≠ p.line
      by_cases hhalf : c = '\r' ∧ rest.head? = some '\n'
      · -- The second half of the line break is one of the characters that follow.
        have hmore : w.any Source.isBreak = true := by
          cases w with
          | nil =>
            cases h
            exact absurd hhalf.2 hend
          | cons d w =>
            have hrest := h.rest_eq
            rw [show rest = d :: (w ++ k'.rest) from hrest] at hhalf
            cases hhalf.2
            rfl
        have hline : k'.position.line ≠ (p.after c rest.head?).line := by
          intro heq
          have hnone := ih.mp heq
          rw [hmore] at hnone
          cases hnone
        have hstart := Position.line_le_line_after p c rest.head?
        have hle : (p.after c rest.head?).line ≤ k'.position.line := hle
        omega
      · have hle : (p.after c rest.head?).line ≤ k'.position.line := hle
        rw [Position.line_after_of_isBreak hbreak hhalf] at hle
        omega

/-- Moving on by a number of characters leads where passing them does. The place depends on them alone. -/
theorem advanceBy_eq (h : Passes k w k') : k.advanceBy w.length = k' := by
  induction h with
  | refl k => rfl
  | cons h ih => exact ih

end Passes

/-- There is a place behind characters that are there. -/
theorem exists_passes (w rest : List Char) (p : Position) :
    ∃ k', Passes ⟨w ++ rest, p⟩ w k' ∧ k'.rest = rest := by
  induction w generalizing p with
  | nil => exact ⟨⟨rest, p⟩, .refl _, rfl⟩
  | cons c w ih =>
    obtain ⟨k', h, hrest⟩ := ih (p.after c (w ++ rest).head?)
    exact ⟨k', .cons h, hrest⟩

/-- Moving on by the length of some characters passes them, if they are the next ones. -/
theorem passes_advanceBy {k : Cursor} {w rest : List Char} (h : k.rest = w ++ rest) :
    Passes k w (k.advanceBy w.length) ∧ (k.advanceBy w.length).rest = rest := by
  obtain ⟨chars, p⟩ := k
  have h : chars = w ++ rest := h
  subst h
  obtain ⟨k', hpasses, hrest⟩ := exists_passes w rest p
  rw [hpasses.advanceBy_eq]
  exact ⟨hpasses, hrest⟩

/-- Moving on by one character passes the next one. -/
theorem passes_advance {k : Cursor} {c : Char} {rest : List Char} (h : k.rest = c :: rest) :
    Passes k [c] k.advance ∧ k.advance.rest = rest :=
  passes_advanceBy (w := [c]) h

/-- The next character is the first one that is left. -/
@[simp] theorem peek_of_rest {k : Cursor} {c : Char} {rest : List Char} (h : k.rest = c :: rest) :
    k.peek = c := by
  unfold peek
  rw [h]
  rfl

/-- At the end the next character is the one with the number zero, which stands in no document. -/
theorem peek_of_rest_nil {k : Cursor} (h : k.rest = []) : k.peek = '\x00' := by
  unfold peek
  rw [h]
  rfl

/-- A span takes characters that satisfy the condition, up to one that does not. -/
theorem passes_spanFrom {p : Char → Char → Bool} {w rest : List Char} {here : Position}
    (hw : ∀ v c u, w = v ++ c :: u → p c ((u ++ rest).headD '\x00') = true)
    (hrest : ∀ c u, rest = c :: u → p c (u.headD '\x00') = false) :
    ∃ k', spanFrom p (w ++ rest) here = (w, k') ∧ Passes ⟨w ++ rest, here⟩ w k' ∧ k'.rest = rest := by
  revert here
  induction w with
  | nil =>
    intro here
    cases rest with
    | nil => exact ⟨_, rfl, .refl _, rfl⟩
    | cons c rest =>
      refine ⟨⟨c :: rest, here⟩, ?_, .refl _, rfl⟩
      rw [List.nil_append, spanFrom, hrest c rest rfl]
      rfl
  | cons c w ih =>
    intro here
    have hc : p c ((w ++ rest).headD '\x00') = true := hw [] c w rfl
    have hmore : ∀ v d u, w = v ++ d :: u → p d ((u ++ rest).headD '\x00') = true :=
      fun v d u h => hw (c :: v) d u (by rw [h, List.cons_append])
    obtain ⟨k', hspan, hpasses, hk'⟩ := @ih hmore (here.after c (w ++ rest).head?)
    refine ⟨k', ?_, .cons hpasses, hk'⟩
    rw [List.cons_append, spanFrom, hc, if_pos rfl, hspan]

/-- A span takes the characters with the property up to the first one without it, and passes them. -/
theorem passes_span {p : Char → Bool} {k : Cursor} {w rest : List Char} (h : k.rest = w ++ rest)
    (hw : ∀ c ∈ w, p c = true) (hrest : ∀ c u, rest = c :: u → p c = false) :
    ∃ k', k.span p = (w, k') ∧ Passes k w k' ∧ k'.rest = rest := by
  obtain ⟨chars, here⟩ := k
  have h : chars = w ++ rest := h
  subst h
  exact passes_spanFrom (fun v c u h => hw c (by rw [h]; simp)) fun c u h => hrest c u h

/-- No comment begins at another character than `#`. -/
theorem skipComment_eq {k : Cursor} (h : k.peek ≠ '#') : k.skipComment = k := by
  unfold skipComment
  rw [if_neg (by simpa using h)]

/-! ## Line breaks -/

/-- No line break is taken where none is. -/
theorem takeBreak?_eq_none {k : Cursor} (h : Source.isBreak k.peek = false) :
    k.takeBreak? = none := by
  unfold takeBreak?
  split
  case h_6 => rfl
  all_goals
    rename_i heq
    rw [heq] at h
    cases h

/-- Any line break but a carriage return is a single character. -/
theorem exists_takeBreak? {k : Cursor} {c : Char} {rest : List Char} (h : k.rest = c :: rest)
    (hc : Source.isBreak c = true) (hreturn : c ≠ '\r') :
    k.takeBreak? = some (if c = '\u2028' ∨ c = '\u2029' then c else '\n', k.advance) := by
  have hpeek : k.peek = c := peek_of_rest h
  unfold takeBreak?
  rw [hpeek]
  simp only [Source.isBreak, Bool.or_eq_true, beq_iff_eq] at hc
  rcases hc with (((rfl | rfl) | rfl) | rfl) | rfl
  · rfl
  · exact absurd rfl hreturn
  · rfl
  · rfl
  · rfl

/-- A carriage return is a line break together with a line feed behind it, and alone if there is none. -/
theorem takeBreak?_return {k : Cursor} {rest : List Char} (h : k.rest = '\r' :: rest) :
    k.takeBreak? = some ('\n', if rest.headD '\x00' == '\n' then k.advanceBy 2 else k.advance) := by
  have hpeek : k.peek = '\r' := peek_of_rest h
  have hnext : k.peekAt 1 = rest.headD '\x00' := by
    unfold peekAt
    rw [h]
    cases rest <;> rfl
  unfold takeBreak?
  rw [hpeek, hnext]
  rfl

/-- Whether all characters are spaces or line breaks of one or two characters. These are the blanks that
both languages have. -/
def AreBlank (w : List Char) : Prop :=
  ∀ c ∈ w, c = ' ' ∨ c = '\n' ∨ c = '\r'

/-- What is left of blanks is blank. The proofs by fuel take a line break off the front. -/
theorem AreBlank.of_append {v w : List Char} (h : AreBlank (v ++ w)) : AreBlank w :=
  fun c hc => h c (List.mem_append_right _ hc)

/-- Blanks are a number of spaces, and behind them a line break if there is anything. -/
theorem exists_passes_spaces {k : Cursor} {w rest : List Char} (h : k.rest = w ++ rest)
    (hw : AreBlank w) (hrest : rest.headD '\x00' ≠ ' ') :
    ∃ spaces u k', w = spaces ++ u ∧ AreBlank u ∧ (∀ c v, u = c :: v → c = '\n' ∨ c = '\r') ∧
      k.span (· == ' ') = (spaces, k') ∧ Passes k spaces k' ∧ k'.rest = u ++ rest := by
  obtain ⟨spaces, u, rfl, hspaces, hu⟩ := exists_longest_start (· == ' ') w
  rw [List.append_assoc] at h
  have hstop : ∀ c v, u ++ rest = c :: v → (c == ' ') = false := by
    intro c v heq
    cases u with
    | nil =>
      rw [show rest = c :: v from heq] at hrest
      simpa using hrest
    | cons d u =>
      cases heq
      exact hu c u rfl
  obtain ⟨k', hspan, hpasses, hk'⟩ := passes_span h hspaces hstop
  refine ⟨spaces, u, k', rfl, hw.of_append, ?_, hspan, hpasses, hk'⟩
  rintro c v rfl
  rcases hw c (by simp) with rfl | hc
  · -- The spaces are as many as there are, so none stands behind them.
    cases hu ' ' v rfl
  · exact hc

/-- In front of what is no line feed, a line break among blanks ends among them. -/
theorem exists_takeBreak?_of_blank {k : Cursor} {c : Char} {w rest : List Char}
    (h : k.rest = c :: (w ++ rest)) (hc : c = '\n' ∨ c = '\r') (hrest : rest.headD '\x00' ≠ '\n') :
    ∃ u v k', c :: w = u ++ v ∧ v.length ≤ w.length ∧ k.takeBreak? = some ('\n', k') ∧
      Passes k u k' ∧ k'.rest = v ++ rest := by
  rcases hc with rfl | rfl
  · obtain ⟨hpasses, hk⟩ := passes_advance h
    exact ⟨['\n'], w, _, rfl, Nat.le_refl _, exists_takeBreak? h rfl (by decide), hpasses, hk⟩
  · have htake := takeBreak?_return h
    by_cases hfeed : (w ++ rest).headD '\x00' = '\n'
    · -- Both halves of the line break are among the blanks.
      rw [hfeed] at htake
      cases w with
      | nil => exact absurd hfeed hrest
      | cons d w =>
        obtain rfl : d = '\n' := hfeed
        obtain ⟨hpasses, hk⟩ := passes_advanceBy (w := ['\r', '\n']) h
        exact ⟨['\r', '\n'], w, _, rfl, Nat.le_succ _, htake, hpasses, hk⟩
    · rw [if_neg (by simpa using hfeed)] at htake
      obtain ⟨hpasses, hk⟩ := passes_advance h
      exact ⟨['\r'], w, _, rfl, Nat.le_refl _, htake, hpasses, hk⟩

end Cursor

end Yaml

end TermAudit
