import TermAudit.Proofs.Registry

/-!
# `TermAudit.Proofs.Registry.Loading`: what declared entries do to a registry

`Registry.load` takes in the entries that other packages declare, one after the other. What becomes of an
entry with a new name is its decision (`EntryPoint.decision?`), and of the entries of one name the first
decision counts. `Registry.settled` puts the names that are there and the first decisions together, and
says all there is to say about loading:

* it ends half-way exactly if an error has been settled for some name (`Registry.load_done_iff`);
* otherwise each name gets the class that has been settled (`Registry.view_load`).

Three laws follow. Names that are there keep their classes. Entries that have been loaded once do nothing
new when they come again (`Registry.load_load`), whether or not one of them has ended the loading. And
only the order of entries of the same name matters as long as none ends it
(`Registry.indistinguishable_load`).
-/

set_option autoImplicit false

namespace TermAudit

namespace EntryPoint

/-- The class of validators that is found under the entry, and nothing if the import fails or finds
something else. -/
def offer? (e : EntryPoint ValidatorClass) : Option ValidatorClass :=
  match e.imported with
  | .ok (.validator c) => some c
  | _ => none

/-- An entry offers a class if it decides for one: no other entry has anything to give to its name. -/
theorem offer?_eq (e : EntryPoint ValidatorClass) : e.offer? = e.decision?.bind Except.toOption := by
  unfold offer? decision?
  cases e.imported with
  | error raised =>
    dsimp only
    split <;> rfl
  | ok candidate =>
    cases candidate with
    | validator c => rfl
    | other written =>
      cases written with
      | ok shown => rfl
      | error raised =>
        dsimp only
        split <;> rfl

/-! ## The first entry of a name -/

section First

variable {δ : Type} (choose : EntryPoint ValidatorClass → Option δ)

/-- Of the entries with the name, the first one that gives anything gives this. What an entry gives is
left open: it is its offer in one place, and its decision in another. -/
def First (entries : List (EntryPoint ValidatorClass)) (name : Text) (d : δ) : Prop :=
  ∃ before e after, entries = before ++ e :: after ∧ e.name = name ∧ choose e = some d ∧
    ∀ other ∈ before, other.name = name → choose other = none

/-- What the entry gives to the name. To any other name than its own this is nothing. -/
def under (name : Text) (e : EntryPoint ValidatorClass) : Option δ :=
  if e.name = name then choose e else none

/-- An entry gives nothing to other names than its own. -/
theorem under_of_ne {name : Text} {e : EntryPoint ValidatorClass} (h : e.name ≠ name) :
    under choose name e = none :=
  if_neg h

/-- To its own name it gives all that it has. -/
theorem under_self (e : EntryPoint ValidatorClass) : under choose e.name e = choose e :=
  if_pos rfl

/-- The search for the first gift finds it. -/
theorem findSome?_under_eq_some_iff {entries : List (EntryPoint ValidatorClass)} {name : Text} {d : δ} :
    entries.findSome? (under choose name) = some d ↔ First choose entries name d := by
  have hsome (e : EntryPoint ValidatorClass) :
      under choose name e = some d ↔ e.name = name ∧ choose e = some d := by
    unfold under
    split <;> simp_all
  have hnone (e : EntryPoint ValidatorClass) :
      under choose name e = none ↔ (e.name = name → choose e = none) := by
    unfold under
    split <;> simp_all
  simp only [List.findSome?_eq_some_iff, hsome, hnone, First, and_assoc]

/-- The search for a name passes over the entries of other names, so they can be left out. -/
theorem findSome?_filter_name (entries : List (EntryPoint ValidatorClass)) (name : Text) :
    (entries.filter fun e => decide (e.name = name)).findSome? (under choose name) =
      entries.findSome? (under choose name) := by
  induction entries with
  | nil => rfl
  | cons e entries ih =>
    by_cases he : e.name = name
    · rw [List.filter_cons_of_pos (by simpa using he), List.findSome?_cons, List.findSome?_cons, ih]
    · rw [List.filter_cons_of_neg (by simpa using he), ih, List.findSome?_cons, under_of_ne choose he]

end First

/-- The same entries in another order, where those of one name come as before. Entries of different names
can be moved past each other. -/
def Reordered (entries entries' : List (EntryPoint ValidatorClass)) : Prop :=
  ∀ name, (entries'.filter fun e => decide (e.name = name)) = entries.filter fun e => decide (e.name = name)

/-- Entries of different names can change places. -/
theorem reordered_swap (before after : List (EntryPoint ValidatorClass)) {e e' : EntryPoint ValidatorClass}
    (h : e.name ≠ e'.name) : Reordered (before ++ e :: e' :: after) (before ++ e' :: e :: after) := by
  intro name
  by_cases he : e.name = name
  · have he' : e'.name ≠ name := fun heq => h (he.trans heq.symm)
    simp [he, he']
  · simp [List.filter_cons, he]

/-- The entries of a name are all that counts for it. -/
theorem findSome?_under_eq_of_reordered {δ : Type} (choose : EntryPoint ValidatorClass → Option δ)
    {entries entries' : List (EntryPoint ValidatorClass)} (h : Reordered entries entries') (name : Text) :
    entries'.findSome? (under choose name) = entries.findSome? (under choose name) := by
  rw [← findSome?_filter_name choose entries', h name, findSome?_filter_name choose entries]

/-- Where the first decision for a name is no error, it is for the first class that is offered. Induction
on the entries: up to the first decision there is neither an offer nor an error. -/
theorem findSome?_offer?_eq {entries : List (EntryPoint ValidatorClass)} {name : Text}
    (h : ∀ raised, entries.findSome? (under decision? name) ≠ some (.error raised)) :
    entries.findSome? (under offer? name) =
      (entries.findSome? (under decision? name)).bind Except.toOption := by
  have hunder (e : EntryPoint ValidatorClass) :
      under offer? name e = (under decision? name e).bind Except.toOption := by
    unfold under
    rw [offer?_eq]
    split <;> rfl
  induction entries with
  | nil => rfl
  | cons e entries ih =>
    rw [List.findSome?_cons] at h
    rw [List.findSome?_cons, List.findSome?_cons, hunder]
    cases hd : under decision? name e with
    | none =>
      rw [hd] at h
      exact ih h
    | some decision =>
      rw [hd] at h
      cases decision with
      | ok c => rfl
      | error raised => exact absurd rfl (h raised)

end EntryPoint

namespace Registry

open EntryPoint

variable (r : Registry ValidatorClass)

/-! ## What is settled for a name -/

/-- What loading the entries comes to for a name: a name that is there keeps its class, and for any other
name the first decision counts. A loading that is cut short has not come to all of this. -/
def settled (entries : List (EntryPoint ValidatorClass)) (name : Text) :
    Option (Except Raised ValidatorClass) :=
  ((r.view name).map .ok).or (entries.findSome? (under decision? name))

variable {r}

/-- For a name that is not there the entries decide. -/
theorem settled_of_new {entries : List (EntryPoint ValidatorClass)} {name : Text}
    (h : r.view name = none) : r.settled entries name = entries.findSome? (under decision? name) := by
  unfold settled
  rw [h, Option.map_none, Option.none_or]

/-- For a name that is there nothing is decided any more: entries under it are passed over. -/
theorem settled_of_known {entries : List (EntryPoint ValidatorClass)} {name : Text} {c : ValidatorClass}
    (h : r.view name = some c) : r.settled entries name = some (.ok c) := by
  unfold settled
  rw [h, Option.map_some, Option.some_or]

/-- An error is settled for new names only, and it is the first decision there. -/
theorem settled_eq_error_iff {entries : List (EntryPoint ValidatorClass)} {name : Text} {raised : Raised} :
    r.settled entries name = some (.error raised) ↔
      r.contains name = false ∧ First decision? entries name (.error raised) := by
  rw [contains_eq, Option.isSome_eq_false_iff, Option.isNone_iff_eq_none, ← findSome?_under_eq_some_iff]
  cases hview : r.view name with
  | none => simp [settled_of_new hview]
  | some c => simp [settled_of_known hview]

/-- An entry settles its own part: what is settled afterwards by the other entries is what was settled
before by all of them. -/
theorem settled_of_loadEntry {e : EntryPoint ValidatorClass} {next : Registry ValidatorClass}
    (h : r.loadEntry e = .ok next) (entries : List (EntryPoint ValidatorClass)) (name : Text) :
    next.settled entries name = r.settled (e :: entries) name := by
  have hcons : (e :: entries).findSome? (under decision? name) =
      (under decision? name e).or (entries.findSome? (under decision? name)) := by
    rw [List.findSome?_cons]
    cases under decision? name e <;> rfl
  by_cases hname : e.name = name
  · subst hname
    rw [under_self] at hcons
    cases hview : r.view e.name with
    | some c =>
      -- The entry is passed over, because the name is there.
      rw [r.loadEntry_of_known (by simp [hview])] at h
      cases h
      rw [settled_of_known hview, settled_of_known hview]
    | none =>
      rw [r.loadEntry_of_new hview] at h
      rw [settled_of_new hview, hcons]
      cases hd : e.decision? with
      | none =>
        rw [hd] at h
        cases h
        rw [settled_of_new hview, Option.none_or]
      | some decision =>
        rw [hd] at h
        cases decision with
        | ok c =>
          cases h
          rw [settled_of_known (c := c) (by rw [view_put, Function.update_self]), Option.some_or]
        | error raised => cases h
  · -- The entry has nothing to do with the name.
    have hview : next.view name = r.view name := by
      rcases r.loadEntry_meets e with ⟨next', _, hentry, hmeets⟩ | ⟨_, hentry, -⟩
      · cases hentry.symm.trans h
        generalize next.view = g at hmeets ⊢
        cases hmeets with
        | taken => exact Function.update_of_ne (Ne.symm hname) _ _
        | _ => rfl
      · cases hentry.symm.trans h
    unfold settled
    rw [hview, hcons, under_of_ne _ hname, Option.none_or]

/-! ## All entries -/

/-- Loading comes to its end exactly if no error is settled, and then each name has the class that is
settled. Induction on the entries: every entry leaves what is settled as it was. -/
theorem load_settled (entries : List (EntryPoint ValidatorClass)) :
    (r.load entries).1 = .ok () ∧
        (∀ name, ((r.load entries).2.view name).map .ok = r.settled entries name) ∨
      ∃ name raised, (r.load entries).1 = .error (.raised raised) ∧
        r.settled entries name = some (.error raised) := by
  induction entries generalizing r with
  | nil => exact Or.inl ⟨rfl, fun name => Option.or_none.symm⟩
  | cons e entries ih =>
    rcases r.loadEntry_meets e with ⟨next, _, hentry, -⟩ | ⟨raised, hentry, hmeets⟩
    · simp only [r.load_cons_of_ok hentry, ← settled_of_loadEntry hentry]
      exact ih
    · rw [r.load_cons_of_error hentry]
      cases hmeets with
      | ended hnew hd =>
        refine Or.inr ⟨e.name, raised, rfl, ?_⟩
        rw [settled_of_new hnew, List.findSome?_cons, under_self, hd]

/-- Loading comes to its end exactly if no error is settled for any name. It is no matter in which order the
names come: an error that stands behind another decision for its name is never met. -/
theorem load_done_iff {entries : List (EntryPoint ValidatorClass)} :
    (r.load entries).1 = .ok () ↔ ∀ name raised, r.settled entries name ≠ some (.error raised) := by
  rcases load_settled (r := r) entries with ⟨hdone, hview⟩ | ⟨name, raised, hends, hsettled⟩
  · refine iff_of_true hdone fun name raised h => ?_
    -- A class in the registry is no error.
    rw [← hview name, Option.map_eq_some_iff] at h
    obtain ⟨c, -, hc⟩ := h
    cases hc
  · refine iff_of_false ?_ fun h => h name raised hsettled
    rw [hends]
    nofun

/-- When loading has come to its end, each name has the class that has been settled for it, and no other
name is there. -/
theorem view_load {entries : List (EntryPoint ValidatorClass)} (h : (r.load entries).1 = .ok ())
    (name : Text) : ((r.load entries).2.view name).map .ok = r.settled entries name := by
  rcases load_settled (r := r) entries with ⟨-, hview⟩ | ⟨_, _, hends, -⟩
  · exact hview name
  · rw [hends] at h
    cases h

/-- A registered name keeps its class, however loading ends. -/
theorem view_load_of_known {entries : List (EntryPoint ValidatorClass)} {name : Text} {c : ValidatorClass}
    (h : r.view name = some c) : (r.load entries).2.view name = some c := by
  have hdone {entries : List (EntryPoint ValidatorClass)} (hdone : (r.load entries).1 = .ok ()) :
      (r.load entries).2.view name = some c := by
    have hview := view_load hdone name
    rw [settled_of_known h, Option.map_eq_some_iff] at hview
    obtain ⟨c', hc', heq⟩ := hview
    cases heq
    exact hc'
  cases hresult : (r.load entries).1 with
  | ok done => exact hdone hresult
  | error error =>
    -- What is left is what loading the entries before the end has made.
    obtain ⟨before, _, _, _, -, -, hbefore, -, -⟩ := r.exists_of_load_error hresult
    have hdoneBefore : (r.load before).1 = .ok () := by rw [hbefore]
    have hview := hdone hdoneBefore
    rwa [hbefore] at hview

/-- Entries that can only be passed over change nothing. -/
theorem load_eq_self {entries : List (EntryPoint ValidatorClass)}
    (h : ∀ e ∈ entries, r.view e.name = none → e.decision? = none) : r.load entries = (.ok (), r) := by
  induction entries with
  | nil => rfl
  | cons e entries ih =>
    obtain ⟨hfirst, hrest⟩ := List.forall_mem_cons.mp h
    have hentry : r.loadEntry e = .ok r := by
      by_cases hnew : r.view e.name = none
      · rw [r.loadEntry_of_new hnew, hfirst hnew]
      · exact r.loadEntry_of_known hnew
    rw [r.load_cons_of_ok hentry]
    exact ih hrest

/-- Entries that have all been taken in or passed over change nothing when they come again. -/
theorem load_load_of_done {entries : List (EntryPoint ValidatorClass)}
    (h : (r.load entries).1 = .ok ()) : (r.load entries).2.load entries = (.ok (), (r.load entries).2) := by
  refine load_eq_self fun e he hnone => ?_
  -- A name that is still new has not been settled, so none of its entries decides anything.
  have hsettled := view_load h e.name
  rw [hnone, Option.map_none, settled, eq_comm, Option.or_eq_none_iff, List.findSome?_eq_none_iff] at hsettled
  have hunder := hsettled.2 e he
  rwa [under_self] at hunder

/-- Entries can be loaded in two parts, as long as none in the first part ends the loading. -/
theorem load_append {before after : List (EntryPoint ValidatorClass)} {next : Registry ValidatorClass}
    (h : r.load before = (.ok (), next)) : r.load (before ++ after) = next.load after := by
  induction before generalizing r with
  | nil =>
    cases h
    rfl
  | cons e before ih =>
    rcases r.loadEntry_meets e with ⟨first, _, hentry, -⟩ | ⟨raised, hentry, -⟩
    · simp only [load, hentry, List.cons_append] at h ⊢
      exact ih h
    · simp only [load, hentry] at h
      cases h

/-- Entries do nothing new when they come again, not even if one of them has ended the loading: it does so
again, and those before it are passed over. -/
theorem load_load (entries : List (EntryPoint ValidatorClass)) :
    (r.load entries).2.load entries = r.load entries := by
  cases hresult : (r.load entries).1 with
  | ok done => rw [load_load_of_done hresult, ← hresult]
  | error error =>
    obtain ⟨before, e, after, raised, heq, herror, hbefore, hnew, hd⟩ := r.exists_of_load_error hresult
    have hdoneBefore : (r.load before).1 = .ok () := by rw [hbefore]
    have hagain := load_load_of_done hdoneBefore
    have hentry := (r.load entries).2.loadEntry_of_new hnew
    rw [hbefore] at hagain
    rw [hd] at hentry
    subst herror
    generalize hleft : (r.load entries).2 = left at hagain hentry
    have hload : left.load entries = (.error (.raised raised), left) := by
      rw [heq, load_append hagain, left.load_cons_of_error hentry]
    rw [hload, ← hresult, ← hleft]

/-! ## Registries that are the same in use -/

/-- No request, and no list of requests, tells the registries apart. They can still differ in the order in
which they keep their classes. -/
structure Indistinguishable (r r' : Registry ValidatorClass) : Prop where
  names : r'.names = r.names
  size : r'.size = r.size
  shown : r'.shown = r.shown
  responses : ∀ requests, (r'.run requests).1 = (r.run requests).1

/-- Registries that are the same as maps are the same in use, whatever their order inside. -/
theorem indistinguishable_of_view_eq {r r' : Registry ValidatorClass} (h : r'.view = r.view) :
    Indistinguishable r r' := by
  have hnames : r'.names = r.names := by
    have hlists := r'.lists_names
    rw [h] at hlists
    exact r.lists_names.unique hlists
  refine ⟨hnames, ?_, ?_, fun requests => ?_⟩
  · rw [← length_names, ← length_names, hnames]
  · unfold shown
    rw [hnames]
  · obtain ⟨log, hruns⟩ := r.run_runs requests
    obtain ⟨log', hruns'⟩ := r'.run_runs requests
    rw [h] at hruns'
    exact (hruns.unique hruns' (by rw [requests_run, requests_run])).1

/-- Entries in another order of the names make the same registry, if none of them ends the loading. -/
theorem indistinguishable_load {entries entries' : List (EntryPoint ValidatorClass)}
    (h : Reordered entries entries') (hdone : (r.load entries).1 = .ok ()) :
    (r.load entries').1 = .ok () ∧ Indistinguishable (r.load entries).2 (r.load entries').2 := by
  have hsettled (name : Text) : r.settled entries' name = r.settled entries name := by
    unfold settled
    rw [findSome?_under_eq_of_reordered _ h]
  have hdone' : (r.load entries').1 = .ok () := by
    rw [load_done_iff] at hdone ⊢
    simpa only [hsettled] using hdone
  refine ⟨hdone', indistinguishable_of_view_eq ?_⟩
  funext name
  have hinjective : Function.Injective (Except.ok : ValidatorClass → Except Raised ValidatorClass) :=
    fun _ _ => Except.ok.inj
  refine Option.map_injective hinjective ?_
  rw [view_load hdone', view_load hdone, hsettled]

/-- A name that was new has the first class that is offered under it, once all entries have been loaded. -/
theorem get_load_iff_of_new {entries : List (EntryPoint ValidatorClass)} {name : Text} {c : ValidatorClass}
    (hdone : (r.load entries).1 = .ok ()) (hnew : r.view name = none) :
    (r.load entries).2.get name = .ok c ↔ First offer? entries name c := by
  have hview := view_load hdone name
  have hnoError : ∀ raised, entries.findSome? (under decision? name) ≠ some (.error raised) := by
    intro raised
    rw [← settled_of_new hnew]
    exact load_done_iff.mp hdone name raised
  rw [settled_of_new hnew] at hview
  rw [get_eq_ok_iff, ← findSome?_under_eq_some_iff, findSome?_offer?_eq hnoError, ← hview]
  cases (r.load entries).2.view name <;> simp [Except.toOption]

/-- The response to a request to load says how loading has ended. -/
theorem respond_load_eq_done_iff {entries : List (EntryPoint ValidatorClass)} :
    (r.respond (.load entries)).1 = .ok .done ↔ (r.load entries).1 = .ok () := by
  cases hresult : (r.load entries).1 with
  | ok done => simp [respond, hresult, Except.mapError, Except.map]
  | error error => simp [respond, hresult, Except.mapError, Except.map]

variable (r)

/-- Loading declared entries comes to its end unless, for some new name, an entry that raises comes before
any class is offered. Names that are there keep their classes in any case.

If loading comes to its end, each new name gets the class of the first entry that offers one under it, no
further name is given, and entries of different names can come in any order. If not, it ends with what
was raised, and leaves the registry with what the entries before have changed. To load the same entries
again does nothing new either way. -/
theorem load_takes_first_offers (entries : List (EntryPoint ValidatorClass)) :
    ∃ response loaded, r.respond (.load entries) = (response, loaded) ∧
      (response = .ok .done ↔ ∀ name raised, r.contains name = false →
        ¬ First decision? entries name (.error raised)) ∧
      (∀ name c, r.get name = .ok c → loaded.get name = .ok c) ∧
      (response = .ok .done →
        (∀ name c, r.contains name = false →
          (loaded.get name = .ok c ↔ First offer? entries name c)) ∧
        ∀ entries', Reordered entries entries' →
          ∃ other, r.respond (.load entries') = (.ok .done, other) ∧ Indistinguishable loaded other) ∧
      (∀ error, response = .error error →
        ∃ raised, error = .registry (.raised raised) ∧ r.CutShort (.load entries) raised loaded) ∧
      loaded.respond (.load entries) = (response, loaded) := by
  refine ⟨(r.respond (.load entries)).1, (r.respond (.load entries)).2, rfl, ?_, fun name c hc => ?_,
    fun hdone => ?_, fun error herror => ?_, ?_⟩
  · rw [respond_load_eq_done_iff, load_done_iff]
    simp only [ne_eq, settled_eq_error_iff, not_and]
  · rw [get_eq_ok_iff] at hc ⊢
    exact view_load_of_known hc
  · rw [respond_load_eq_done_iff] at hdone
    refine ⟨fun name c hnew => ?_, fun entries' h => ?_⟩
    · rw [contains_eq, Option.isSome_eq_false_iff, Option.isNone_iff_eq_none] at hnew
      exact get_load_iff_of_new hdone hnew
    · obtain ⟨hdone', hsame⟩ := indistinguishable_load h hdone
      exact ⟨_, Prod.ext (respond_load_eq_done_iff.mpr hdone') rfl, hsame⟩
  · exact r.cutShort_of_load_error herror
  · show (((r.load entries).2.load entries).1.mapError CreateError.registry |>.map fun () => Answer.done,
      ((r.load entries).2.load entries).2) = _
    rw [load_load]
    rfl

/-- Entries with an import that fails, something that is no class of validators, something that is none
and says so itself when it is to be written, two offers for one new name, and one for a name that is
there. -/
def mixedEntries : List (EntryPoint ValidatorClass) :=
  let clean : ValidatorClass := .unconfigured "Clean" "Clean" fun _ => []
  [⟨"A", .error ⟨.error, "No module named 'a'"⟩⟩, ⟨"A", .ok (.other (.ok "5"))⟩,
    ⟨"A", .ok (.other (.error ⟨.wrongType, "no words"⟩))⟩, ⟨"A", .ok (.validator clean)⟩,
    ⟨"A", .ok (.validator .terms)⟩, ⟨Diagnostic.termsId, .ok (.validator clean)⟩]

/-- The name that is there keeps its class, the other one gets that of the fourth entry, and the last two
entries can change places. -/
theorem load_takes_first_offers_mixed :
    ∃ loaded other c, standard.respond (.load mixedEntries) = (.ok .done, loaded) ∧
      loaded.get Diagnostic.termsId = .ok .terms ∧ loaded.get "A" = .ok c ∧ c.name = ("Clean" : Text) ∧
      standard.respond (.load (mixedEntries.take 4 ++ (mixedEntries.drop 4).reverse)) = (.ok .done, other) ∧
      Indistinguishable loaded other := by
  obtain ⟨response, loaded, hloaded, hdone, hkeeps, hall, -, -⟩ :=
    load_takes_first_offers standard mixedEntries
  have hresponse : response = .ok .done := congrArg Prod.fst hloaded.symm
  obtain ⟨hfirst, hreordered⟩ := hall hresponse
  obtain ⟨other, hother, hsame⟩ := hreordered (mixedEntries.take 4 ++ (mixedEntries.drop 4).reverse)
    (reordered_swap (mixedEntries.take 4) [] (by decide))
  have hoffered : First offer? mixedEntries "A" (.unconfigured "Clean" "Clean" fun _ => []) :=
    ⟨mixedEntries.take 3, _, _, rfl, rfl, rfl, by simp [mixedEntries, offer?]⟩
  rw [hresponse] at hloaded
  exact ⟨loaded, other, _, hloaded, hkeeps _ _ rfl, (hfirst "A" _ (by decide)).mpr hoffered, rfl, hother,
    hsame⟩

/-- An entry that stands for an integer of 5001 digits comes before or after one that offers a class under
another name. Loading ends with an error in both orders, and it depends on the order whether the other
name has got its class. -/
theorem load_overlongCandidate :
    let long : EntryPoint ValidatorClass := ⟨"n", .ok overlongCandidate⟩
    let good : EntryPoint ValidatorClass := ⟨"terms", .ok (.validator .terms)⟩
    Reordered [good, long] [long, good] ∧ First offer? [long, good] "terms" .terms ∧
      (∀ entries ∈ [[good, long], [long, good]],
        ((empty : Registry ValidatorClass).respond (.load entries)).1 ≠ .ok .done) ∧
      ((empty : Registry ValidatorClass).respond (.load [good, long])).2.get "terms" = .ok .terms ∧
      ((empty : Registry ValidatorClass).respond (.load [long, good])).2.get "terms" ≠ .ok .terms := by
  rw [overlongCandidate_eq]
  refine ⟨reordered_swap [] [] (by decide), ⟨[_], _, [], rfl, rfl, rfl, by simp [offer?]⟩, ?_, rfl, nofun⟩
  simp only [List.forall_mem_cons]
  exact ⟨nofun, nofun, nofun⟩

end Registry

end TermAudit
