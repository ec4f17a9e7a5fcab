import TermAudit.Console.Markup
import TermAudit.Proofs.Console.Emoji
import TermAudit.Proofs.Result

/-!
# `TermAudit.Proofs.Console.Markup`: texts that the console shows as they are

What the console shows of a line differs from what is written there if there is a tag in it, an escaped
bracket, or the name of an emoji between colons. Each of them takes away some of the signs `[`, `]`, `\` and
`:`, and nothing that is shown adds any. So a text without them is read as it stands
(`Markup.read_eq_of_isPlain`), and a text that keeps all its signs has none of them
(`Markup.isPlain_of_read`).
-/

set_option autoImplicit false

namespace TermAudit.Markup

/-- There is a tag in the text, which may be a plain one: brackets around a content that begins like a tag
and has no bracket that opens. Whether a backslash stands before it does not matter here, since a plain
tag loses its backslash and so is changed as well. -/
def HasTag (t : Text) : Prop :=
  ∃ content : Text, content.head?.any startsTag = true ∧ CodePoint.ofChar '[' ∉ content ∧
    CodePoint.ofChar '[' :: (content ++ [CodePoint.ofChar ']']) <:+: t

/-- There is a bracket with a backslash right before it. When a text is shown the backslash is dropped,
whether there is a tag behind the bracket or not. -/
def HasEscape (t : Text) : Prop :=
  [CodePoint.ofChar '\\', CodePoint.ofChar '['] <:+: t

/-- The name of an emoji stands between colons, alone or with a variant at its end. Then the colons and
the name are replaced by what it is the name of. -/
def HasEmoji (t : Text) : Prop :=
  ∃ code ∈ Emoji.codes t, Emoji.ofCode? code ≠ none

/-- The text means nothing else than what it says. These are the three things that can happen to a text on
its way to the console, and each of them takes away a sign. -/
structure IsPlain (t : Text) : Prop where
  noTag : ¬ HasTag t
  noEscape : ¬ HasEscape t
  noEmoji : ¬ HasEmoji t

/-! ## Pieces -/

variable {c : CodePoint} {t rest content before : Text}

/-- A tag begins at a bracket that opens, so any other code point in front of a text makes none. -/
theorem hasTag_cons (hc : c ≠ CodePoint.ofChar '[') : HasTag (c :: t) ↔ HasTag t := by
  have htag (content : Text) : CodePoint.ofChar '[' :: (content ++ [CodePoint.ofChar ']']) <:+: c :: t ↔
      CodePoint.ofChar '[' :: (content ++ [CodePoint.ofChar ']']) <:+: t := by
    rw [List.infix_cons_iff, List.cons_prefix_cons]
    exact or_iff_right fun h => hc h.1.symm
  unfold HasTag
  simp only [htag]

/-- A text without brackets that open makes no tag in front of another one. -/
theorem hasTag_append (hbefore : CodePoint.ofChar '[' ∉ before) (t : Text) :
    HasTag (before ++ t) ↔ HasTag t := by
  induction before with
  | nil => rfl
  | cons c before ih =>
    rw [List.mem_cons, not_or] at hbefore
    rw [List.cons_append, hasTag_cons (Ne.symm hbefore.1), ih hbefore.2]

/-- A bracket that opens begins a tag, or it is not part of one. -/
theorem hasTag_opening : HasTag (CodePoint.ofChar '[' :: t) ↔
    (∃ content : Text, content.head?.any startsTag = true ∧ CodePoint.ofChar '[' ∉ content ∧
      content ++ [CodePoint.ofChar ']'] <+: t) ∨ HasTag t := by
  unfold HasTag
  simp only [List.infix_cons_iff, List.cons_prefix_cons, true_and, and_or_left, exists_or]

/-- A bracket begins no tag if no tag begins with the code point behind it. -/
theorem hasTag_opening_of_not_startsTag (hc : c ≠ CodePoint.ofChar '[') (hstart : startsTag c = false) :
    HasTag (CodePoint.ofChar '[' :: c :: t) ↔ HasTag t := by
  rw [hasTag_opening, hasTag_cons hc]
  refine or_iff_right ?_
  rintro ⟨inside, hinside, -, hprefix⟩
  cases inside with
  | nil => cases hinside
  | cons d inside =>
    obtain ⟨rfl, -⟩ := List.cons_prefix_cons.mp hprefix
    exact absurd (hstart.symm.trans hinside) (by decide)

/-- What has been seen of a text: nothing that matters, or a bracket and what may be the content of a tag.
It is the part of the text that the state of the search stands for, so that lemmas about a run in the
middle can be said of the whole text. -/
def seen : Option Text → Text
  | none => []
  | some content => CodePoint.ofChar '[' :: content.reverse

/-- The start of the content of a tag that goes on. As soon as one of the conditions fails, the bracket
before it is known to begin no tag, and what has been seen is plain text. -/
structure IsStart (content : Text) : Prop where
  starts : ∀ c, content.head? = some c → startsTag c = true
  noOpening : CodePoint.ofChar '[' ∉ content
  noClosing : CodePoint.ofChar ']' ∉ content

/-- Right behind the bracket, nothing has been seen of the content yet. -/
theorem IsStart.nil : IsStart [] :=
  ⟨fun _ h => (nomatch h), List.not_mem_nil, List.not_mem_nil⟩

/-- A content goes on with any code point but a bracket. Only the first one has to begin a tag. -/
theorem IsStart.concat (h : IsStart content) (hopening : c ≠ CodePoint.ofChar '[')
    (hclosing : c ≠ CodePoint.ofChar ']') (hstarts : content ≠ [] ∨ startsTag c = true) :
    IsStart (content ++ [c]) := by
  refine ⟨fun first hfirst => ?_, ?_, ?_⟩
  · cases content with
    | nil =>
      rcases hstarts with hne | hstarts
      · exact absurd rfl hne
      · cases hfirst
        exact hstarts
    | cons d content => exact h.starts first hfirst
  · simpa [hopening.symm] using h.noOpening
  · simpa [hclosing.symm] using h.noClosing

/-- No tag begins where the content of one has only begun and the text ends, or another one opens. -/
theorem IsStart.hasTag_iff (h : IsStart content) (hrest : rest.head?.all (· = CodePoint.ofChar '[')) :
    HasTag (CodePoint.ofChar '[' :: content ++ rest) ↔ HasTag rest := by
  rw [List.cons_append, hasTag_opening, hasTag_append h.noOpening]
  refine or_iff_right ?_
  rintro ⟨inside, -, hopening, hinside⟩
  -- The content of the tag cannot reach behind the rest, so its end is in what has been seen.
  have hwithin : inside ++ [CodePoint.ofChar ']'] <+: content := by
    rcases rest with _ | ⟨c, rest⟩
    · rwa [List.append_nil] at hinside
    · obtain rfl : c = CodePoint.ofChar '[' := by simpa using hrest
      have hbefore : content ++ [CodePoint.ofChar '['] <+: content ++ CodePoint.ofChar '[' :: rest :=
        (List.prefix_append_right_inj content).mpr (List.prefix_append [CodePoint.ofChar '['] rest)
      rcases List.prefix_or_prefix_of_prefix hinside hbefore with hshort | hlong
      · rcases List.prefix_concat_iff.mp hshort with heq | hshort
        · exact absurd (List.append_inj_right' heq rfl) (by decide)
        · exact hshort
      · have hmem : CodePoint.ofChar '[' ∈ inside ++ [CodePoint.ofChar ']'] := hlong.subset (by simp)
        rcases List.mem_append.mp hmem with hmem | hmem
        · exact absurd hmem hopening
        · exact absurd (List.mem_singleton.mp hmem) (by decide)
  exact h.noClosing (hwithin.subset (by simp))

/-- The text of a piece, without the tags. Signs are counted in it, to say that a tag takes its brackets
with it. -/
def Piece.plainText : Piece → Text
  | .plain t => t
  | .tag _ => []

/-- What becomes of a text: without a tag it is one piece, and otherwise its pieces have fewer signs. Both
cases are needed: the first to read a plain text, the second to see that no other text can be read as it
stands. -/
def CutInto (t whole : Text) (pieces : List Piece) : Prop :=
  (¬ HasTag t ∧ pieces = [.plain whole]) ∨
    (HasTag t ∧ (pieces.flatMap Piece.plainText).countP CodePoint.isSign <
      whole.countP CodePoint.isSign)

/-- What becomes of a text depends only on whether there is a tag in it, and on what is written. -/
theorem CutInto.of_iff {t t' whole whole' : Text} {pieces : List Piece} (h : CutInto t whole pieces)
    (htag : HasTag t' ↔ HasTag t) (hwhole : whole' = whole) : CutInto t' whole' pieces := by
  unfold CutInto
  rwa [htag, hwhole]

/-- Backslashes are signs, each of them. -/
theorem countP_backslashes (n : Nat) :
    (List.replicate n (CodePoint.ofChar '\\')).countP CodePoint.isSign = n := by
  rw [List.countP_replicate, if_pos (by decide)]

/-- The pieces of a tag have fewer signs than the tag and the backslashes before it. -/
theorem countP_tagPieces (slashes : Nat) (content : Text) :
    ((tagPieces slashes content).flatMap Piece.plainText).countP CodePoint.isSign <
      slashes + content.countP CodePoint.isSign + 2 := by
  have hopening : ("[" : Text).countP CodePoint.isSign = 1 := by decide
  have hclosing : ("]" : Text).countP CodePoint.isSign = 1 := by decide
  unfold tagPieces
  split
  · simp only [List.flatMap_cons, List.flatMap_nil, Piece.plainText, List.countP_append,
      countP_backslashes, hopening, hclosing, List.countP_nil]
    omega
  · simp only [List.flatMap_cons, List.flatMap_nil, Piece.plainText, List.countP_append,
      countP_backslashes, List.countP_nil]
    omega

/-- The backslashes at the end of a text are signs. -/
theorem countP_reverse_eq (before : Text) :
    let slashes := before.takeWhile fun d => decide (d = CodePoint.ofChar '\\')
    before.reverse.countP CodePoint.isSign =
      (before.drop slashes.length).reverse.countP CodePoint.isSign + slashes.length := by
  intro slashes
  have hslashes : slashes.countP CodePoint.isSign = slashes.length := by
    refine List.countP_eq_length.mpr fun c hc => ?_
    rw [of_decide_eq_true (List.all_eq_true.mp List.all_takeWhile c hc)]
    decide
  have hbefore : before = slashes ++ before.drop slashes.length :=
    List.prefix_iff_eq_append.mp (List.takeWhile_prefix _) |>.symm
  rw [List.countP_reverse, List.countP_reverse]
  have hcount := congrArg (List.countP CodePoint.isSign) hbefore
  rw [List.countP_append] at hcount
  omega

/-- There are never more signs in the pieces than in the text. -/
theorem CutInto.countP_le {t whole : Text} {pieces : List Piece} (h : CutInto t whole pieces) :
    (pieces.flatMap Piece.plainText).countP CodePoint.isSign ≤ whole.countP CodePoint.isSign := by
  rcases h with ⟨-, rfl⟩ | ⟨-, hless⟩
  · simp [Piece.plainText]
  · exact Nat.le_of_lt hless

/-- A complete tag is lost with its brackets, or it is plain and a backslash before it is lost. -/
theorem cutInto_closing (h : IsStart content.reverse) (hne : content.reverse ≠ [])
    (hrest : CutInto rest rest (piecesFrom [] none rest)) :
    let slashes := before.takeWhile fun d => decide (d = CodePoint.ofChar '\\')
    CutInto (seen (some content) ++ CodePoint.ofChar ']' :: rest)
      (before.reverse ++ seen (some content) ++ CodePoint.ofChar ']' :: rest)
      (.plain (before.drop slashes.length).reverse :: tagPieces slashes.length content.reverse
        ++ piecesFrom [] none rest) := by
  intro slashes
  refine Or.inr ⟨⟨content.reverse, ?_, h.noOpening, ?_⟩, ?_⟩
  · rw [List.head?_eq_some_head hne, Option.any_some]
    exact h.starts _ (List.head?_eq_some_head hne)
  · exact List.IsPrefix.isInfix ⟨rest, by simp [seen]⟩
  · have htag := countP_tagPieces slashes.length content.reverse
    have hbefore : before.reverse.countP CodePoint.isSign =
        (before.drop slashes.length).reverse.countP CodePoint.isSign + slashes.length :=
      countP_reverse_eq before
    have hless := hrest.countP_le
    have hopening : CodePoint.isSign (CodePoint.ofChar '[') = true := by decide
    have hclosing : CodePoint.isSign (CodePoint.ofChar ']') = true := by decide
    simp only [seen, List.cons_append, List.flatMap_cons, List.flatMap_append, List.countP_append,
      Piece.plainText, List.countP_cons_of_pos hopening, List.countP_cons_of_pos hclosing]
    omega

/-- The same where `before` is plain text and a tag may be open. As long as no tag is complete nothing is
lost, and behind the first one there are no more signs in the pieces than in the text, so the sum is
smaller. -/
theorem piecesFrom_cutInto (before : Text) (opened : Option Text) (t : Text)
    (h : ∀ content, opened = some content → IsStart content.reverse) :
    CutInto (seen opened ++ t) (before.reverse ++ seen opened ++ t) (piecesFrom before opened t) := by
  fun_induction piecesFrom before opened t with
  | case1 before =>
    refine Or.inl ⟨?_, by simp [seen]⟩
    rintro ⟨content, -, -, htag⟩
    exact absurd (List.infix_nil.mp htag) (List.cons_ne_nil _ _)
  | case2 before content =>
    refine Or.inl ⟨?_, by simp [seen]⟩
    intro htag
    obtain ⟨inside, -, -, hinside⟩ := ((h content rfl).hasTag_iff rfl).mp htag
    exact absurd (List.infix_nil.mp hinside) (List.cons_ne_nil _ _)
  | case3 before rest ih =>
    refine (ih fun content hcontent => ?_).of_iff Iff.rfl (by simp [seen])
    cases hcontent
    exact IsStart.nil
  | case4 before c rest hc ih =>
    exact (ih fun _ h => nomatch h).of_iff (hasTag_cons hc) (by simp [seen])
  | case5 before content rest ih =>
    -- A bracket inside of a start of a tag makes it plain text, and may begin another one.
    refine (ih fun content hcontent => ?_).of_iff ((h content rfl).hasTag_iff (by simp)) (by simp [seen])
    cases hcontent
    exact IsStart.nil
  | case6 before content c rest hc hstart ih =>
    -- The bracket begins no tag, since no tag begins with the code point behind it.
    rw [Bool.and_eq_true, List.isEmpty_iff, Bool.not_eq_true'] at hstart
    obtain ⟨rfl, hstart⟩ := hstart
    exact (ih fun _ h => nomatch h).of_iff (hasTag_opening_of_not_startsTag hc hstart) (by simp [seen])
  | case7 before content rest slashes hc hstart ih =>
    have hne : content.reverse ≠ [] := by
      rintro hnil
      exact hstart (by rw [List.reverse_eq_nil_iff.mp hnil]; decide)
    exact cutInto_closing (h content rfl) hne (ih fun _ h => nomatch h)
  | case8 before content c rest hopening hstart hclosing ih =>
    refine (ih fun content' hcontent => ?_).of_iff (by simp [seen]) (by simp [seen])
    cases hcontent
    rw [List.reverse_cons]
    refine (h content rfl).concat hopening hclosing ?_
    cases content with
    | nil => exact Or.inr (by simpa using hstart)
    | cons d content => exact Or.inl (by simp)

/-- A text is one piece if there is no tag in it, and otherwise its pieces have fewer signs. -/
theorem pieces_cutInto (t : Text) : CutInto t t (pieces t) :=
  piecesFrom_cutInto [] none t fun _ h => nomatch h

/-! ## Plain text -/

/-- If there is no escape in a text it stays as it is, and otherwise it has fewer signs afterwards. -/
theorem withoutEscapes_cases (t : Text) :
    (¬ HasEscape t ∧ withoutEscapes t = t) ∨
      (HasEscape t ∧ (withoutEscapes t).countP CodePoint.isSign < t.countP CodePoint.isSign) := by
  unfold HasEscape
  fun_induction withoutEscapes t with
  | case1 => exact Or.inl ⟨fun h => absurd (List.infix_nil.mp h) (List.cons_ne_nil _ _), rfl⟩
  | case2 c rest h ih =>
    obtain ⟨rfl, hrest⟩ := h
    obtain ⟨after, rfl⟩ := List.head?_eq_some_iff.mp hrest
    -- The backslash is a sign that is taken away, and what follows loses signs or none.
    refine Or.inr ⟨List.IsPrefix.isInfix ⟨after, rfl⟩, ?_⟩
    rw [List.countP_cons_of_pos (by decide : CodePoint.isSign (CodePoint.ofChar '\\') = true)]
    rcases ih with ⟨-, hsame⟩ | ⟨-, hless⟩
    · rw [hsame]
      exact Nat.lt_succ_self _
    · exact Nat.lt_succ_of_lt hless
  | case3 c rest h ih =>
    -- No escape begins at this code point, so there is one in the text if there is one in the rest.
    have hescape : [CodePoint.ofChar '\\', CodePoint.ofChar '['] <:+: c :: rest ↔
        [CodePoint.ofChar '\\', CodePoint.ofChar '['] <:+: rest := by
      rw [List.infix_cons_iff, List.cons_prefix_cons]
      refine or_iff_right ?_
      rintro ⟨hc, after, rfl⟩
      exact h ⟨hc.symm, rfl⟩
    rw [hescape]
    refine ih.imp (fun h => ⟨h.1, by rw [h.2]⟩) fun h => ⟨h.1, ?_⟩
    have hless := h.2
    rw [List.countP_cons, List.countP_cons]
    omega

/-- Every sign is shown. -/
theorem isShown_of_isSign {c : CodePoint} (h : c.isSign = true) : isShown c = true := by
  simp only [CodePoint.isSign, Bool.or_eq_true, decide_eq_true_eq] at h
  rcases h with ((rfl | rfl) | rfl) | rfl <;> decide

/-- Signs are shown, so leaving out what is not shown leaves out none of them. -/
theorem countP_filter_isShown (t : Text) :
    (t.filter isShown).countP CodePoint.isSign = t.countP CodePoint.isSign := by
  rw [List.countP_filter]
  refine List.countP_congr fun c _ => ?_
  rw [Bool.and_eq_true]
  exact and_iff_left_of_imp isShown_of_isSign

/-- Plain text is shown without its control characters if there is no escape and no emoji in it, and
otherwise with fewer signs. -/
theorem shownText_cases (t : Text) :
    (¬ HasEscape t ∧ ¬ HasEmoji t ∧ shownText t = t.filter isShown) ∨
      ((HasEscape t ∨ HasEmoji t) ∧
        (shownText t).countP CodePoint.isSign < t.countP CodePoint.isSign) := by
  unfold shownText
  rw [countP_filter_isShown]
  rcases withoutEscapes_cases t with ⟨hescape, hsame⟩ | ⟨hescape, hless⟩
  · rw [hsame]
    rcases Emoji.replaced_cases t with ⟨hcodes, hkept⟩ | ⟨⟨code, hmem, hcode⟩, hless⟩
    · refine Or.inl ⟨hescape, ?_, by rw [hkept]⟩
      rintro ⟨code, hmem, hcode⟩
      exact hcode (hcodes code hmem)
    · exact Or.inr ⟨Or.inr ⟨code, hmem, hcode⟩, hless⟩
  · refine Or.inr ⟨Or.inl hescape, ?_⟩
    rcases Emoji.replaced_cases (withoutEscapes t) with ⟨-, hkept⟩ | ⟨-, hreplaced⟩
    · rwa [hkept]
    · omega

/-- Showing a text adds no signs: an emoji is none, and an escape only loses its backslash. -/
theorem countP_shownText_le (t : Text) :
    (shownText t).countP CodePoint.isSign ≤ t.countP CodePoint.isSign := by
  rcases shownText_cases t with ⟨-, -, hsame⟩ | ⟨-, hless⟩
  · exact Nat.le_of_eq (by rw [hsame, countP_filter_isShown])
  · exact Nat.le_of_lt hless

/-- Control characters are left out last, behind escapes and emoji, so none is shown. -/
theorem isShown_of_mem_shownText {c : CodePoint} {t : Text} (h : c ∈ shownText t) :
    isShown c = true :=
  (List.mem_filter.mp h).2

/-- Plain text is one piece, since there is no tag to cut it at. -/
theorem IsPlain.pieces_eq {t : Text} (h : IsPlain t) : pieces t = [.plain t] := by
  rcases pieces_cutInto t with ⟨-, hone⟩ | ⟨htag, -⟩
  · exact hone
  · exact absurd htag h.noTag

/-- Plain text loses nothing but its control characters. -/
theorem IsPlain.shownText_eq {t : Text} (h : IsPlain t) : shownText t = t.filter isShown := by
  rcases shownText_cases t with ⟨-, -, hkept⟩ | ⟨hescape | hemoji, -⟩
  · exact hkept
  · exact absurd hescape h.noEscape
  · exact absurd hemoji h.noEmoji

/-- A text without brackets that open means nothing else than what it says if it has no emoji. -/
theorem isPlain_of_noOpening {t : Text} (hopening : CodePoint.ofChar '[' ∉ t) (hemoji : ¬ HasEmoji t) :
    IsPlain t where
  noTag := fun ⟨_, _, _, htag⟩ => hopening (htag.subset List.mem_cons_self)
  noEscape h := hopening (h.subset (List.mem_cons_of_mem _ List.mem_cons_self))
  noEmoji := hemoji

/-- So does a text without signs. -/
theorem isPlain_of_noSigns {t : Text} (h : ∀ c ∈ t, c.isSign = false) : IsPlain t := by
  have hnotMem (c : CodePoint) (hc : c.isSign = true) : c ∉ t := by
    intro hmem
    rw [h c hmem] at hc
    cases hc
  refine isPlain_of_noOpening (hnotMem _ (by decide)) ?_
  rintro ⟨code, hcode, -⟩
  rw [Emoji.codes, Emoji.codesFrom_of_notMem (hnotMem _ (by decide))] at hcode
  cases hcode

/-! ## Reading -/

/-- What is shown of a piece. A tag shows nothing, and only says how the pieces behind it are shown. -/
def Piece.shown : Piece → Text
  | .plain t => shownText t
  | .tag _ => []

/-- A piece shows no more signs than it has. -/
theorem Piece.countP_shown_le (p : Piece) :
    p.shown.countP CodePoint.isSign ≤ p.plainText.countP CodePoint.isSign := by
  cases p with
  | plain t => exact countP_shownText_le t
  | tag content => exact Nat.le_refl 0

/-- All the pieces of a line together show no more signs than they have. -/
theorem countP_shown_le (ps : List Piece) : (ps.flatMap Piece.shown).countP CodePoint.isSign ≤
    (ps.flatMap Piece.plainText).countP CodePoint.isSign := by
  induction ps with
  | nil => exact Nat.le_refl 0
  | cons p ps ih =>
    have hp := p.countP_shown_le
    rw [List.flatMap_cons, List.flatMap_cons, List.countP_append, List.countP_append]
    omega

/-- Closing a tag, the right one or any one, leaves what has been shown as it is. -/
theorem State.before_of_closeTag {s s' : State} {tag : Tag} {start : Nat} {opened : List (Tag × Nat)}
    (h : s.closeTag tag start opened = .ok s') : s'.before = s.before := by
  unfold State.closeTag at h
  split at h
  · cases h
  · cases h
    rfl

/-- A tag that closes, with the name of a tag or without, leaves what has been shown as it is. -/
theorem State.before_of_close {s s' : State} {name : Text} (h : s.close name = .ok s') :
    s'.before = s.before := by
  unfold State.close at h
  split at h
  · split at h
    · cases h
    · exact before_of_closeTag h
  · obtain ⟨name', -, h⟩ := bind_eq_ok_iff.mp h
    split at h
    · cases h
    · exact before_of_closeTag h

/-- A tag that opens shows nothing. Tags only say how what follows is shown. -/
theorem State.before_of_openTag {s s' : State} {name : Text} {parameter : Option Text}
    (h : s.openTag name parameter = .ok s') : s'.before = s.before := by
  obtain ⟨name', -, h⟩ := bind_eq_ok_iff.mp h
  cases h
  rfl

/-- A piece adds what is shown of it to a line. -/
theorem State.before_of_add {s s' : State} {p : Piece} (h : s.add p = .ok s') :
    s'.before.reverse = s.before.reverse ++ p.shown := by
  cases p with
  | plain t =>
    cases h
    simp [State.addText, Piece.shown]
  | tag content =>
    have hbefore : s'.before = s.before := by
      unfold State.add at h
      dsimp only at h
      split at h
      · split at h
        · exact before_of_close h
        · exact before_of_openTag h
      · exact before_of_openTag h
    rw [hbefore, Piece.shown, List.append_nil]

/-- The pieces of a line add what is shown of them, in order. -/
theorem State.before_of_foldlM {s s' : State} {ps : List Piece} (h : ps.foldlM State.add s = .ok s') :
    s'.before.reverse = s.before.reverse ++ ps.flatMap Piece.shown := by
  induction ps generalizing s with
  | nil =>
    cases h
    simp
  | cons p ps ih =>
    rw [List.foldlM_cons] at h
    obtain ⟨s₁, hp, hps⟩ := bind_eq_ok_iff.mp h
    rw [ih hps, before_of_add hp, List.append_assoc, List.flatMap_cons]

/-- What is left to read of a line is what is shown of its pieces. -/
theorem text_of_read {t : Text} {s : Styled} (h : read t = .ok s) :
    s.text = (pieces t).flatMap Piece.shown := by
  obtain ⟨state, hpieces, h⟩ := bind_eq_ok_iff.mp h
  cases h
  simpa [State.styled] using State.before_of_foldlM hpieces

/-- No control character of those that are left out is in a line that has been read. -/
theorem isShown_of_mem_read {t : Text} {s : Styled} {c : CodePoint} (h : read t = .ok s)
    (hc : c ∈ s.text) : isShown c = true := by
  rw [text_of_read h] at hc
  obtain ⟨p, -, hc⟩ := List.mem_flatMap.mp hc
  cases p with
  | plain t => exact isShown_of_mem_shownText hc
  | tag content => exact absurd hc List.not_mem_nil

/-- A text that means nothing else than what it says is read as it stands, without the control characters
that are not shown. No style is opened, so the result has no spans. -/
theorem read_eq_of_isPlain {t : Text} (h : IsPlain t) : read t = .ok ⟨t.filter isShown, []⟩ := by
  unfold read
  rw [h.pieces_eq, ← h.shownText_eq]
  simp [State.add, State.addText, State.styled, bind, Except.bind, pure, Except.pure]

/-- A text that has all its signs when it is read means nothing else than what it says. It is the converse
of the lemma before, and holds because no step on the way can bring a sign back. -/
theorem isPlain_of_read {t : Text} {s : Styled} (h : read t = .ok s)
    (hsigns : t.countP CodePoint.isSign ≤ s.text.countP CodePoint.isSign) : IsPlain t := by
  have htext := text_of_read h
  rcases pieces_cutInto t with ⟨htag, hone⟩ | ⟨-, hless⟩
  · rw [hone, List.flatMap_singleton] at htext
    rw [htext] at hsigns
    rcases shownText_cases t with ⟨hescape, hemoji, -⟩ | ⟨-, hless⟩
    · exact ⟨htag, hescape, hemoji⟩
    · exact absurd hsigns (Nat.not_le_of_lt hless)
  · rw [htext] at hsigns
    exact absurd (Nat.le_trans hsigns (countP_shown_le _)) (Nat.not_le_of_lt hless)

end TermAudit.Markup
