import TermAudit.Proofs.Command.Run
import TermAudit.Proofs.Terms.Printed

/-!
# `TermAudit.Proofs.Command.Terms`: the output of `terms` as a configuration

`terms` with the format JSON prints the table of the run as a configuration. `TermTable.IsReproduced`
says that this output, used as a configuration file, makes the same table and is printed again.

* `TermTable.isReproduced_iff`: this is so exactly for the tables that survive being printed and read;
* `Invocation.terms_reproduces_iff`: so the output of a run that succeeds can be used as its
  configuration exactly if no term is too long for a key and nothing is outside of the basic plane.
-/

set_option autoImplicit false

namespace TermAudit

/-! ## The output as a file -/

namespace Text

/-- A text in ASCII as octets. The output of the command is ASCII, as everything else is escaped in JSON,
so this is the file that it makes. -/
def octets (t : Text) : List UInt8 :=
  t.map fun c => UInt8.ofNat c.val

/-- A text of ASCII is read back from its octets. -/
theorem ofUtf8?_octets {t : Text} (h : ∀ c ∈ t, c.val < 0x80) : ofUtf8? t.octets = some t := by
  unfold ofUtf8?
  induction t with
  | nil => rfl
  | cons c t ih =>
    obtain ⟨hc, ht⟩ := List.forall_mem_cons.mp h
    -- A code point of ASCII is one octet.
    have hnat : (UInt8.ofNat c.val).toNat = c.val :=
      UInt8.toNat_ofNat_of_lt' (Nat.lt_trans hc (by decide))
    have hlt : UInt8.ofNat c.val < 0x80 := by
      rw [UInt8.lt_iff_toNat_lt, hnat]
      exact hc
    unfold octets at ih ⊢
    rw [List.map_cons]
    unfold Utf8.decode?
    rw [if_pos hlt, ih ht, hnat, CodePoint.ofNat_val]
    rfl

/-- Without carriage returns there is no line break to be changed. -/
theorem withPlainBreaks_of_notMem {t : Text} (h : CodePoint.ofChar '\r' ∉ t) :
    t.withPlainBreaks = t := by
  induction t with
  | nil => rfl
  | cons c t ih =>
    rw [List.mem_cons, not_or] at h
    unfold withPlainBreaks
    rw [if_neg (Ne.symm h.1), ih h.2]

/-- Lines of printable ASCII are read from a file as they were. -/
theorem ofFile?_octets {t : Text} (h : t.all Json.isLinePoint = true) :
    ofFile? t.octets = some t := by
  -- The lines of printed JSON are in printable ASCII.
  have hline : ∀ c ∈ t, c.val = 0x0A ∨ 0x20 ≤ c.val ∧ c.val ≤ 0x7E := by
    intro c hc
    have hpoint := List.all_eq_true.mp h c hc
    unfold Json.isLinePoint at hpoint
    simpa only [Bool.or_eq_true, Bool.and_eq_true, decide_eq_true_eq, beq_iff_eq] using hpoint
  have hascii : ∀ c ∈ t, c.val < 0x80 := by
    intro c hc
    have := hline c hc
    omega
  -- There is no carriage return for the file to lose.
  have hreturn : CodePoint.ofChar '\r' ∉ t := by
    intro hmem
    rcases hline _ hmem with h | ⟨h, -⟩
    · exact absurd h (by decide)
    · exact absurd h (by decide)
  unfold ofFile?
  rw [ofUtf8?_octets hascii]
  exact congrArg some (withPlainBreaks_of_notMem hreturn)

end Text

namespace Invocation

open Command

variable {console : Console} {read : Text → FileContent} {o : TermOptions}

/-- A command line that asks for the terms of a configuration file. -/
theorem parse_terms {isDirectory : Text → Bool} {path : Text}
    (hpossible : Path.isImpossible path = false) (hfile : isDirectory path = false) :
    parse isDirectory ["terms", "--format", "json", "--config", path] =
      .ok (.terms ⟨some path, [], []⟩ .json) := by
  have happart : takeApart Command.termOptions true ["--format", "json", "--config", path] =
      some ⟨[("format", "json"), ("config", path)], []⟩ :=
    rfl
  -- The file of the option exists and is no directory, as far as the command line can tell.
  have hconfig : checkOption isDirectory ⟨[("format", "json"), ("config", path)], []⟩ "config" =
      .ok () := by
    show (do checkPath path; require (!isDirectory path) : Except Refusal Unit) = .ok ()
    rw [checkPath_eq_ok_iff.mpr hpossible, hfile]
    rfl
  have harguments : termArguments isDirectory ["--format", "json", "--config", path] =
      .ok (⟨[("format", "json"), ("config", path)], []⟩, .json) := by
    unfold termArguments
    rw [happart]
    refine bind_eq_ok_iff.mpr ⟨_, rfl, bind_eq_ok_iff.mpr ⟨(), forM_eq_ok_iff.mpr ?_, rfl⟩⟩
    refine List.forall_mem_cons.mpr ⟨rfl, List.forall_mem_singleton.mpr hconfig⟩
  show ofCommand isDirectory "terms" ["--format", "json", "--config", path] = _
  unfold ofCommand
  rw [if_neg (by decide), if_pos rfl, harguments]
  rfl

/-- A run that asks for the terms of a configuration file prints the table that the file makes. -/
theorem runArguments_terms {c : TermsConfig} {t : TermTable} {text path : Text}
    (hread : TermsConfig.ofText text = .ok c) (htable : c.table TermMap.builtIn = .ok t)
    (hline : text.all Json.isLinePoint = true) (hpath : path ≠ [])
    (hpossible : Path.isImpossible path = false)
    (hfile : read (Path.normalized path) = .ok text.octets) :
    runArguments console read ["terms", "--format", "json", "--config", path] =
      .ofText .clean t.config.printed := by
  -- What can be read as a file is no directory.
  have hdirectory : Path.isDirectory read path = false := by
    unfold Path.isDirectory
    rw [hfile]
    exact Bool.and_false _
  have hcontent : fileConfig read ⟨some path, [], []⟩ = .ok c := by
    unfold fileConfig TermsConfig.ofContent
    dsimp only
    split
    · rename_i heq
      cases heq
    · rename_i heq
      exact absurd (Option.some.inj heq) hpath
    · rename_i heq
      cases heq
      rw [hpossible, hfile]
      dsimp only
      rw [if_neg Bool.false_ne_true, Text.ofFile?_octets hline]
      exact hread
  -- Nothing is added by options.
  have hresolved : resolvedTable read ⟨some path, [], []⟩ .empty = .ok t := by
    unfold resolvedTable
    rw [hcontent]
    show ((c.merged .empty).table TermMap.builtIn).mapError _ = .ok t
    exact mapError_eq_ok_iff.mpr htable
  have hstages : Command.table console read ⟨some path, [], []⟩ =
      (resolvedTable read ⟨some path, [], []⟩ .empty).mapError (refuseConfig console) :=
    table_eq rfl rfl
  -- A table that is resolved is printed as it is.
  have hlist : listTerms console read ⟨some path, [], []⟩ .json =
      .ok (.ofText .clean t.config.printed) := by
    unfold listTerms
    rw [hstages]
    refine bind_eq_ok_iff.mpr ⟨t, mapError_eq_ok_iff.mpr hresolved, rfl⟩
  unfold runArguments
  rw [parse_terms hpossible hdirectory]
  dsimp only [run]
  rw [hlist]

end Invocation

/-- The output of `terms` for the table can be used as its configuration. It is asked twice: of the text
alone, as a configuration over the built-in terms, and of a run that finds it in a file. -/
structure TermTable.IsReproduced (t : TermTable) : Prop where
  /-- The output is read as a configuration, and this makes the same table. -/
  found : ∃ c : TermsConfig, TermsConfig.ofText t.config.printed = .ok c ∧
    c.table TermMap.builtIn = .ok t
  /-- With the output in the configuration file the output is the same. -/
  again : ∀ (console : Console) (read : Text → FileContent) (path : Text), path ≠ [] →
    Path.isImpossible path = false →
    read (Path.normalized path) = .ok t.config.printed.octets →
    Invocation.runArguments console read ["terms", "--format", "json", "--config", path] =
      .ofText .clean t.config.printed

/-- The output for a table that a configuration makes of the built-in terms can be used as its
configuration exactly if it survives. That the table was made in this way is needed, since a table of
other terms is not what a configuration can say. -/
theorem TermTable.isReproduced_iff {c : TermsConfig} {t : TermTable}
    (h : c.table TermMap.builtIn = .ok t) : t.IsReproduced ↔ t.terms.Survives := by
  rw [← config_found_iff h]
  constructor
  · exact fun hreproduced => hreproduced.found
  · rintro ⟨c', hread, htable⟩
    refine ⟨⟨c', hread, htable⟩, fun console read path hpath hpossible hfile => ?_⟩
    exact Invocation.runArguments_terms hread htable (TermsConfig.all_printed _) hpath hpossible
      hfile

namespace Command

variable {console : Console} {read : Text → FileContent} {o : TermOptions}

/-- No error ends cleanly, whether it can be told or not. -/
theorem exitCode_error_ne_clean (message : Text) : (console.error message).exitCode ≠ .clean := by
  unfold Console.error
  split
  · exact fun h => by cases h
  · exact fun h => by cases h

/-- No configuration is refused cleanly. -/
theorem exitCode_refuseConfig_ne_clean (failure : ConfigFailure) :
    (refuseConfig console failure).exitCode ≠ .clean := by
  cases failure with
  | config error =>
    rw [refuseConfig_config]
    exact exitCode_error_ne_clean (configTold error)
  | fault fault => exact fun h => by cases h
  | overlongInteger => exact fun h => by cases h
  | impossiblePath => exact fun h => by cases h

/-- An option that cannot be parsed does not end the command cleanly. -/
theorem exitCode_of_optionTerms_eq_error {option : Text} {values : List Text} {outcome : Outcome}
    (h : optionTerms option values = .error outcome) : outcome.exitCode ≠ .clean := by
  obtain ⟨value, -, rfl⟩ := mapError_eq_error_iff.mp h
  exact fun h => by cases h

/-- A run that has no table does not end cleanly. -/
theorem exitCode_of_table_eq_error {outcome : Outcome}
    (h : Command.table console read o = .error outcome) : outcome.exitCode ≠ .clean := by
  -- The options are read first, then the file, and the table is made last.
  unfold Command.table configuration at h
  rcases bind_eq_error_iff.mp h with h | ⟨c, -, h⟩
  · rcases bind_eq_error_iff.mp h with h | ⟨append, -, h⟩
    · exact exitCode_of_optionTerms_eq_error h
    · rcases bind_eq_error_iff.mp h with h | ⟨replace, -, h⟩
      · exact exitCode_of_optionTerms_eq_error h
      · dsimp only at h
        split at h
        · cases h
        · cases h
        · rcases bind_eq_error_iff.mp h with h | ⟨base, -, h⟩
          · obtain ⟨failure, -, rfl⟩ := mapError_eq_error_iff.mp h
            exact exitCode_refuseConfig_ne_clean failure
          · cases h
  · obtain ⟨error, -, rfl⟩ := mapError_eq_error_iff.mp h
    exact exitCode_refuseConfig_ne_clean _

/-- The table of a run is made of the built-in terms. -/
theorem exists_config_of_table {t : TermTable} (h : Command.table console read o = .ok t) :
    ∃ c : TermsConfig, c.table TermMap.builtIn = .ok t := by
  unfold Command.table at h
  obtain ⟨c, -, h⟩ := bind_eq_ok_iff.mp h
  exact ⟨c, mapError_eq_ok_iff.mp h⟩

end Command

namespace Invocation

open Command

variable {console : Console} {read : Text → FileContent} {o : TermOptions}

/-- A run that asks for the terms in JSON and ends cleanly prints its table. -/
theorem exists_table_of_clean {arguments : List Text}
    (hparse : parse (Path.isDirectory read) arguments = .ok (.terms o .json))
    (hclean : (runArguments console read arguments).exitCode = .clean) :
    ∃ t, Command.table console read o = .ok t ∧
      runArguments console read arguments = .ofText .clean t.config.printed := by
  have hlist : listTerms console read o .json =
      (Command.table console read o).map fun t => .ofText .clean t.config.printed := by
    unfold listTerms
    cases Command.table console read o with
    | error outcome => rfl
    | ok t => rfl
  unfold runArguments at hclean ⊢
  rw [hparse] at hclean ⊢
  dsimp only [Invocation.run] at hclean ⊢
  rw [hlist] at hclean ⊢
  cases htable : Command.table console read o with
  | error outcome =>
    rw [htable] at hclean
    exact absurd hclean (exitCode_of_table_eq_error htable)
  | ok t => exact ⟨t, rfl, rfl⟩

/-- A run of `terms` with the format JSON that ends cleanly prints its table, and this output can be
used as a configuration for the same table exactly if every term in writing fits a key, that is
within 1024 characters, and no term or suggestion has a code point past the basic plane. -/
theorem terms_reproduces_iff {arguments : List Text}
    (hparse : parse (Path.isDirectory read) arguments = .ok (.terms o .json))
    (hclean : (runArguments console read arguments).exitCode = .clean) :
    ∃ t, Command.table console read o = .ok t ∧
      runArguments console read arguments = .ofText .clean t.config.printed ∧
      (t.IsReproduced ↔ t.terms.Survives) := by
  obtain ⟨t, htable, houtcome⟩ := exists_table_of_clean hparse hclean
  obtain ⟨c, hc⟩ := exists_config_of_table htable
  exact ⟨t, htable, houtcome, TermTable.isReproduced_iff hc⟩

/-- The theorem at a run with an accented term from the command line. -/
theorem terms_reproduces_iff_append :
    let read : Text → FileContent := fun _ => .error .missing
    let arguments : List Text := ["terms", "--format", "json", "--append", "Café=bar,pub"]
    let o : TermOptions := ⟨none, ["Café=bar,pub"], []⟩
    ∃ t, Command.table ⟨80⟩ read o = .ok t ∧
      runArguments ⟨80⟩ read arguments = .ofText .clean t.config.printed ∧
      (t.IsReproduced ↔ t.terms.Survives) :=
  terms_reproduces_iff (by decide +kernel) (by decide +kernel)

/-- The output for a term of 1100 letters is no configuration, since the term is too long for a
key. -/
theorem terms_notReproduced_longTerm :
    let value : Text := List.replicate 1100 (CodePoint.ofChar 'k') ++ ("=x" : Text)
    let read : Text → FileContent := fun _ => .error .missing
    let outcome := runArguments ⟨80⟩ read ["terms", "--format", "json", "--replace", value]
    ∃ t, Command.table ⟨80⟩ read ⟨none, [], [value]⟩ = .ok t ∧
      outcome = .ofText .clean t.config.printed ∧ ¬ t.IsReproduced := by
  intro value read outcome
  have hparse : parse (Path.isDirectory read) ["terms", "--format", "json", "--replace", value] =
      .ok (.terms ⟨none, [], [value]⟩ .json) := by
    decide +kernel
  have hone : Command.table ⟨80⟩ read ⟨none, [], [value]⟩ =
      .ok ⟨.ofList [(List.replicate 1100 (CodePoint.ofChar 'k'), ["x"])]⟩ := by
    decide +kernel
  have hclean : outcome.exitCode = .clean := by decide +kernel
  obtain ⟨t, htable, houtcome⟩ := exists_table_of_clean hparse hclean
  refine ⟨t, htable, houtcome, fun hreproduced => ?_⟩
  obtain ⟨c, hc⟩ := exists_config_of_table htable
  have hfit := ((TermTable.isReproduced_iff hc).mp hreproduced).keysFit
  rw [Except.ok.inj (htable.symm.trans hone)] at hfit
  exact absurd (hfit _ List.mem_cons_self) (by decide +kernel)

end Invocation

end TermAudit
