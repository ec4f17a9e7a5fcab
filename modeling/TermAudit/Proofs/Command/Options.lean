import TermAudit.Command.Options
import TermAudit.Proofs.Result

/-!
# `TermAudit.Proofs.Command.Options`: what a command line guarantees

Two facts about arguments that are read without a complaint:

* `TermOption.exists_parseAll_eq_ok`: values with a `=` in each give a map of terms;
* `Invocation.possible_of_parse_validate`: no path of an invocation of `validate` holds a NUL.
-/

set_option autoImplicit false

namespace TermAudit

/-- There is something behind a separator exactly if there is a separator. -/
theorem Text.splitFirst_snd_isSome_iff {sep : CodePoint} {t : Text} :
    (Text.splitFirst sep t).2.isSome = true ↔ sep ∈ t := by
  induction t with
  | nil => simp [splitFirst]
  | cons c rest ih =>
    unfold splitFirst
    by_cases hc : c = sep
    · simp [hc]
    · rw [if_neg hc]
      simp only [ih, List.mem_cons]
      constructor
      · exact Or.inr
      · exact fun h => h.resolve_left fun hsep => hc hsep.symm

namespace TermOption

/-- A value is well-formed if it has a `=`. -/
theorem parse_isSome_iff {value : Text} :
    (parse value).isSome = true ↔ CodePoint.ofChar '=' ∈ value := by
  rw [← Text.splitFirst_snd_isSome_iff]
  unfold parse
  split
  · rename_i h
    simp [h]
  · rename_i h
    simp [h]

/-- Well-formed values give a map of terms. All that can be wrong with a value is that it has no `=`, so
nothing else is asked of it. -/
theorem exists_parseAll_eq_ok {values : List Text}
    (h : ∀ value ∈ values, CodePoint.ofChar '=' ∈ value) : ∃ m, parseAll values = .ok m := by
  unfold parseAll
  generalize (∅ : TermMap) = m
  induction values generalizing m with
  | nil => exact ⟨m, rfl⟩
  | cons value values ih =>
    have hvalue := parse_isSome_iff.mpr (h value (List.mem_cons_self ..))
    rw [Option.isSome_iff_exists] at hvalue
    obtain ⟨⟨term, suggestions⟩, hparse⟩ := hvalue
    rw [List.foldlM_cons, hparse]
    exact ih (fun v hv => h v (List.mem_cons_of_mem _ hv)) (m.put term suggestions)

end TermOption

namespace Invocation

open Command

/-- A path passes the check exactly if it is a possible one. -/
theorem checkPath_eq_ok_iff {path : Text} :
    checkPath path = .ok () ↔ Path.isImpossible path = false := by
  unfold checkPath
  cases Path.isImpossible path <;> simp

/-- A path of a configuration that was accepted can name a file. -/
theorem possible_of_termArguments {isDirectory : Text → Bool} {arguments : List Text} {p : Parsed}
    {format : OutputFormat} (h : termArguments isDirectory arguments = .ok (p, format))
    {path : Text} (hpath : p.termOptions.config = some path) : Path.isImpossible path = false := by
  unfold termArguments at h
  obtain ⟨q, -, h⟩ := bind_eq_ok_iff.mp h
  obtain ⟨_, hjudged, h⟩ := bind_eq_ok_iff.mp h
  obtain ⟨format', -, h⟩ := bind_eq_ok_iff.mp h
  cases h
  have hlast : p.last? "config" = some path := hpath
  -- An option that has a value was given, and every option that was given has been judged.
  have hvalue : path ∈ p.values "config" := List.mem_of_getLast? hlast
  unfold Parsed.values at hvalue
  obtain ⟨⟨key, value⟩, hoption, -⟩ := List.mem_map.mp hvalue
  rw [List.mem_filter, beq_iff_eq] at hoption
  obtain ⟨hoption, rfl⟩ := hoption
  have hchecked := forM_eq_ok_iff.mp hjudged _ hoption
  simp only [checkOption, hlast] at hchecked
  obtain ⟨_, hcheck, -⟩ := bind_eq_ok_iff.mp hchecked
  exact checkPath_eq_ok_iff.mp hcheck

/-- The paths of an invocation of `validate` can name files. A path with a NUL is refused while the
arguments are parsed, so no run gets as far as to open it. -/
theorem possible_of_parse_validate {isDirectory : Text → Bool} {arguments : List Text}
    {model : Text} {o : TermOptions} {format : OutputFormat}
    (h : parse isDirectory arguments = .ok (.validate model o format)) :
    Path.isImpossible model = false ∧
      ∀ path, o.config = some path → Path.isImpossible path = false := by
  unfold parse at h
  obtain ⟨p, -, h⟩ := bind_eq_ok_iff.mp h
  cases hpositional : p.positional with
  | nil =>
    rw [hpositional] at h
    cases h
  | cons name rest =>
    rw [hpositional] at h
    simp only [ofCommand] at h
    split at h
    · obtain ⟨⟨q, format'⟩, hq, h⟩ := bind_eq_ok_iff.mp h
      cases hmodel : q.positional with
      | nil =>
        simp only [hmodel] at h
        cases h
      | cons model' rest' =>
        simp only [hmodel] at h
        obtain ⟨_, hcheck, h⟩ := bind_eq_ok_iff.mp h
        obtain ⟨_, -, h⟩ := bind_eq_ok_iff.mp h
        cases h
        exact ⟨checkPath_eq_ok_iff.mp hcheck, fun _ hpath => possible_of_termArguments hq hpath⟩
    -- The other commands give other invocations.
    · split at h
      · obtain ⟨_, -, h⟩ := bind_eq_ok_iff.mp h
        obtain ⟨_, -, h⟩ := bind_eq_ok_iff.mp h
        cases h
      · split at h
        · obtain ⟨_, -, h⟩ := bind_eq_ok_iff.mp h
          obtain ⟨_, -, h⟩ := bind_eq_ok_iff.mp h
          cases h
        · split at h
          · obtain ⟨_, -, h⟩ := bind_eq_ok_iff.mp h
            obtain ⟨_, -, h⟩ := bind_eq_ok_iff.mp h
            cases h
          · cases h

end Invocation

end TermAudit
