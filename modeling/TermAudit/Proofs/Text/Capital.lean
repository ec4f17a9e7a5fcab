import TermAudit.Proofs.OrderedMap
import TermAudit.Proofs.Text.Case

/-!
# `TermAudit.Proofs.Text.Capital`: the first code point in another case

`Text.capitalize` and `Text.uncapitalize` put the first code point in another case and keep what is
behind it (`Text.FirstReplaced`). The form that comes in may be longer: `ß` gives `SS`, and `İ` gives `i`
with a dot above. Done twice the change is the same as done once, because all that is changed again is the
first code point of such a form, which has no other form of that case.

* `CodePoint.upper_eq_or`: all that an uppercase form can be;
* `CodePoint.exists_upper_eq_cons`, `CodePoint.exists_lowerFull_eq_cons`: the first code point of a form
  stays as it is;
* `Text.capitalize_capitalize`, `Text.uncapitalize_uncapitalize`: so the change of a text is made once;
* `Text.mem_of_mem_capitalize`, `Text.mem_of_mem_uncapitalize`: it brings in letters and what comes
  behind them, no sign that comes before.
-/

set_option autoImplicit false

namespace TermAudit

namespace CodePoint

/-! ## Uppercase forms -/

/-- Blocks that hold the code points with longer forms, each by its first and its last number. They are
wider than need be, which keeps them few: it is enough that no image of a run is in any of them. -/
def expansionBlocks : List (Nat × Nat) :=
  [(0x00DF, 0x00DF), (0x0149, 0x0149), (0x01F0, 0x01F0), (0x0390, 0x0390), (0x03B0, 0x03B0),
   (0x0587, 0x0587), (0x1E96, 0x1E9A), (0x1F50, 0x1F56), (0x1F80, 0x1FB7), (0x1FBC, 0x1FC7),
   (0x1FCC, 0x1FD7), (0x1FE2, 0x1FE7), (0x1FF2, 0x1FF7), (0x1FFC, 0x1FFC), (0xFB00, 0xFB17)]

/-- Whether the images of a run are code points that stay as they are in uppercase, and do not come before
the letters. It is a check by bounds that computes quickly for a whole table of runs. -/
def staysUpper (r : CaseRun) : Bool :=
  Nat.ble 0x41 r.target && r.imageEnd.blt 0x110000 && r.missesIn upperRuns &&
    expansionBlocks.all fun block => block.2.blt r.target || r.imageEnd.blt block.1

/-- All runs of uppercase forms pass the test. It is computed once for the table, and the theorems about
single code points draw on it. -/
theorem upperRuns_checked : upperRuns.all staysUpper = true := by
  decide +kernel

/-- The first code point of a longer form is the only image of a run of its own. -/
theorem upperExpansions_checked : (upperExpansions.all fun e =>
    (expansionBlocks.any fun block => block.1.ble e.1 && e.1.ble block.2) &&
      (e.2.head?.any fun n => staysUpper ⟨n, n, 1, n⟩) &&
      e.2.all fun n => Nat.ble 0x41 n && n.blt 0x110000) = true := by
  decide +kernel

/-- A number outside of the blocks has no longer form. -/
theorem lookup_of_forall_block {n : Nat} (h : ∀ block ∈ expansionBlocks, block.2 < n ∨ n < block.1) :
    upperExpansions.lookup n = none := by
  refine List.lookup_eq_none_iff.mpr fun e he => ?_
  have hall := List.all_eq_true.mp upperExpansions_checked e he
  simp only [Bool.and_eq_true, List.any_eq_true, Nat.ble_eq] at hall
  obtain ⟨⟨⟨block, hblock, hfirst, hlast⟩, -⟩, -⟩ := hall
  have hmiss := h block hblock
  rw [bne_iff_ne]
  omega

/-- An image stays as it is in uppercase. -/
theorem upper_image {r : CaseRun} (hr : staysUpper r = true) {m n : Nat} (h : r.map? m = some n) :
    0x41 ≤ (ofNat n).val ∧ (ofNat n).upper = [ofNat n] := by
  simp only [staysUpper, Bool.and_eq_true, Bool.or_eq_true, List.all_eq_true, Nat.ble_eq, Nat.blt_eq]
    at hr
  obtain ⟨⟨⟨hletter, hlt⟩, hmisses⟩, hblocks⟩ := hr
  obtain ⟨htarget, hend⟩ := CaseRun.le_imageEnd h
  have hval : (ofNat n).val = n := val_ofNat (by omega)
  have hlookup : upperExpansions.lookup n = none := by
    refine lookup_of_forall_block fun block hblock => ?_
    have hmiss := hblocks block hblock
    omega
  constructor
  · omega
  · unfold upper
    rw [hval, hlookup]
    show [ofNat (CaseRun.mapIn n upperRuns)] = [ofNat n]
    rw [CaseRun.mapIn_of_missesIn hmisses h]

/-- A longer form begins with a code point that stays as it is in uppercase, and has none that comes before
the letters. -/
theorem of_mem_upperExpansions {e : Nat × List Nat} (h : e ∈ upperExpansions) :
    (∃ u us, e.2.map ofNat = u :: us ∧ u.upper = [u]) ∧ ∀ u ∈ e.2.map ofNat, 0x41 ≤ u.val := by
  have hall := List.all_eq_true.mp upperExpansions_checked e h
  simp only [Bool.and_eq_true, Option.any_eq_true, List.all_eq_true, Nat.ble_eq, Nat.blt_eq] at hall
  obtain ⟨⟨-, n, hfirst, hstays⟩, hletters⟩ := hall
  constructor
  · obtain ⟨ns, hns⟩ := List.head?_eq_some_iff.mp hfirst
    have himage : CaseRun.map? ⟨n, n, 1, n⟩ n = some n :=
      CaseRun.map?_eq_some_iff.mpr ⟨Nat.le_refl n, Nat.le_refl n, Nat.mod_one _, by simp⟩
    exact ⟨ofNat n, ns.map ofNat, by rw [hns, List.map_cons], (upper_image hstays himage).2⟩
  · intro u hu
    obtain ⟨k, hk, rfl⟩ := List.mem_map.mp hu
    obtain ⟨hletter, hlt⟩ := hletters k hk
    rw [val_ofNat hlt]
    exact hletter

/-- The uppercase form of a code point is the code point, or its image in a run, or a longer form. The
cases are those of the tables, which are checked one by one. -/
theorem upper_eq_or (c : CodePoint) : c.upper = [c] ∨
    (∃ r ∈ upperRuns, ∃ n, r.map? c.val = some n ∧ c.upper = [ofNat n]) ∨
    ∃ e ∈ upperExpansions, c.upper = e.2.map ofNat := by
  unfold upper
  cases hlookup : upperExpansions.lookup c.val with
  | some letters =>
    exact Or.inr (Or.inr ⟨(c.val, letters), mem_of_lookup hlookup, rfl⟩)
  | none =>
    rcases CaseRun.mapIn_eq_or c.val upperRuns with h | ⟨r, hr, h⟩
    · refine Or.inl ?_
      show [ofNat (CaseRun.mapIn c.val upperRuns)] = [c]
      rw [h, ofNat_val]
    · exact Or.inr (Or.inl ⟨r, hr, _, h, rfl⟩)

/-- The first code point of an uppercase form has no other uppercase form. This is a fact about the
tables: no image of a run is the start of another change. -/
theorem exists_upper_eq_cons (c : CodePoint) : ∃ u us, c.upper = u :: us ∧ u.upper = [u] := by
  rcases c.upper_eq_or with h | ⟨r, hr, n, himage, h⟩ | ⟨e, he, h⟩
  · exact ⟨c, [], h, h⟩
  · exact ⟨ofNat n, [], h, (upper_image (List.all_eq_true.mp upperRuns_checked r hr) himage).2⟩
  · rw [h]
    exact (of_mem_upperExpansions he).1

/-- A sign before the letters comes into no uppercase form but its own. -/
theorem eq_of_mem_upper {c d : CodePoint} (h : d ∈ c.upper) (hd : d.val < 0x41) : d = c := by
  rcases c.upper_eq_or with hform | ⟨r, hr, n, himage, hform⟩ | ⟨e, he, hform⟩
  · rw [hform] at h
    exact List.mem_singleton.mp h
  · have hletter := (upper_image (List.all_eq_true.mp upperRuns_checked r hr) himage).1
    rw [hform] at h
    rw [List.mem_singleton.mp h] at hd
    omega
  · rw [hform] at h
    have hletter := (of_mem_upperExpansions he).2 d h
    omega

/-! ## Lowercase forms -/

/-- A code point that stands alone has its full lowercase form. -/
theorem lower_singleton (c : CodePoint) : Text.lower [c] = c.lowerFull := by
  show (if c = CodePoint.ofChar 'Σ' then
    [if Text.sigmaIsFinal [] [] then CodePoint.ofChar 'ς' else .ofChar 'σ'] else c.lowerFull) ++ [] = _
  rw [List.append_nil]
  split
  · rename_i h
    subst h
    decide
  · rfl

/-- The simple lowercase form of `İ` is `i`. The full one has a dot above behind it. -/
theorem lower_dot : (ofChar 'İ').lower = .ofChar 'i' := by
  decide

/-- The first code point of a lowercase form has no other lowercase form. The form of `İ` begins with an
`i`, and all others are one code point. -/
theorem exists_lowerFull_eq_cons (c : CodePoint) :
    ∃ u us, c.lowerFull = u :: us ∧ u.lowerFull = [u] := by
  unfold lowerFull
  by_cases hdot : c = ofChar 'İ'
  · rw [if_pos hdot]
    exact ⟨_, _, rfl, by decide⟩
  · rw [if_neg hdot]
    refine ⟨_, _, rfl, ?_⟩
    -- No lowercase form is `İ`, which is not its own.
    have hform : c.lower ≠ ofChar 'İ' := by
      intro h
      have hlower := c.lower_lower
      rw [h, lower_dot] at hlower
      exact absurd hlower (by decide)
    rw [if_neg hform, lower_lower]

/-- A sign before the letters comes into no lowercase form but its own. -/
theorem eq_of_mem_lowerFull {c d : CodePoint} (h : d ∈ c.lowerFull) (hd : d.val < 0x41) : d = c := by
  unfold lowerFull at h
  split at h
  · rcases List.mem_cons.mp h with rfl | h
    · exact absurd hd (by decide)
    · rw [List.mem_singleton.mp h] at hd
      exact absurd hd (by decide)
  · rw [List.mem_singleton.mp h] at hd ⊢
    rcases CaseRun.mapIn_eq_or c.val lowerRuns with hsame | ⟨r, hr, himage⟩
    · rw [eq_iff_val, val_lower, hsame]
    · obtain ⟨-, hletters, -, -⟩ := of_mem_lowerRuns hr
      have hle := (CaseRun.le_imageEnd himage).1
      rw [val_lower] at hd
      omega

end CodePoint

/-! ## Texts -/

namespace Text

/-- `u` is `t` with its first code point replaced by the form that `form` gives it. The empty text has
none, and stays. -/
inductive FirstReplaced (form : CodePoint → Text) : Text → Text → Prop
  | nil : FirstReplaced form [] []
  | cons (c : CodePoint) (rest : Text) : FirstReplaced form (c :: rest) (form c ++ rest)

/-- Capitalizing replaces the first code point by its uppercase form. -/
theorem firstReplaced_capitalize (t : Text) : FirstReplaced CodePoint.upper t t.capitalize := by
  cases t with
  | nil => exact .nil
  | cons c rest => exact .cons c rest

/-- Uncapitalizing replaces the first code point by its full lowercase form. -/
theorem firstReplaced_uncapitalize (t : Text) :
    FirstReplaced CodePoint.lowerFull t t.uncapitalize := by
  cases t with
  | nil => exact .nil
  | cons c rest => exact .cons c rest

variable {form : CodePoint → Text} {t u v : Text}

/-- Where no form begins with a code point that has another form, the second replacement changes
nothing. -/
theorem FirstReplaced.eq_of_replaced (hform : ∀ c, ∃ d ds, form c = d :: ds ∧ form d = [d])
    (h : FirstReplaced form t u) (h' : FirstReplaced form u v) : v = u := by
  cases h with
  | nil =>
    cases h'
    rfl
  | cons c rest =>
    obtain ⟨d, ds, hc, hd⟩ := hform c
    rw [hc] at h' ⊢
    cases h' with
    | cons =>
      rw [hd]
      rfl

/-- A sign that comes into no form but its own was there before. -/
theorem FirstReplaced.mem_of_mem {sign : CodePoint} (hform : ∀ c, sign ∈ form c → sign = c)
    (h : FirstReplaced form t u) (hmem : sign ∈ u) : sign ∈ t := by
  cases h with
  | nil => exact hmem
  | cons c rest =>
    rcases List.mem_append.mp hmem with hmem | hmem
    · rw [hform c hmem]
      exact List.mem_cons_self
    · exact List.mem_cons_of_mem _ hmem

/-- A text that has been capitalized stays as it is: no uppercase form begins with a code point that has
another one. -/
theorem capitalize_capitalize (t : Text) : t.capitalize.capitalize = t.capitalize :=
  (firstReplaced_capitalize t).eq_of_replaced CodePoint.exists_upper_eq_cons
    (firstReplaced_capitalize _)

/-- A text that has been uncapitalized stays as it is, for the same reason. -/
theorem uncapitalize_uncapitalize (t : Text) : t.uncapitalize.uncapitalize = t.uncapitalize :=
  (firstReplaced_uncapitalize t).eq_of_replaced CodePoint.exists_lowerFull_eq_cons
    (firstReplaced_uncapitalize _)

/-- Capitalizing adds none of the signs that come before the letters, which are those that a message is read
back by. -/
theorem mem_of_mem_capitalize {sign : CodePoint} (hsign : sign.val < 0x41)
    (h : sign ∈ t.capitalize) : sign ∈ t :=
  (firstReplaced_capitalize t).mem_of_mem (fun _ hmem => CodePoint.eq_of_mem_upper hmem hsign) h

/-- Nor does uncapitalizing add any of these signs. -/
theorem mem_of_mem_uncapitalize {sign : CodePoint} (hsign : sign.val < 0x41)
    (h : sign ∈ t.uncapitalize) : sign ∈ t :=
  (firstReplaced_uncapitalize t).mem_of_mem
    (fun _ hmem => CodePoint.eq_of_mem_lowerFull hmem hsign) h

end Text

end TermAudit
