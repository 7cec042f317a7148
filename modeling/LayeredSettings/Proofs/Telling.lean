/-
LayeredSettings/Proofs/Telling.lean

What the log tells of a resolution.

Each stage that reports a failure logs it as an error right before it ends, but
for one: what is wrong with the text of a document is reported and not logged.
Neither is what no report covers.  Such failures are silent (`Failure.silent`).

A run is told (`Run.Told`) if no error and no loaded document is logged before it
ends, and how it ends is the last event; a silent failure has no such event.  One
run after the other is told if both are (`Run.Told.bind`), so it is enough to look
at each stage by itself.  Main result: `resolve_log`.
-/
import LayeredSettings.Proofs.Mandatory

namespace LayeredSettings

/-! ### Events -/

/-- The name of the event that tells of a document that was loaded. -/
def loadedEvent : String := "config_loaded"

/-- Neither a failure nor a loaded document is among some events. -/
def Quiet (events : List Log.Event) : Prop :=
  ∀ e ∈ events, e.severity ≠ .error ∧ e.name ≠ loadedEvent

/-- The last one of some events, before which all is quiet. -/
def Concludes (events : List Log.Event) (last : Log.Event) : Prop :=
  ∃ before, Quiet before ∧ events = before ++ [last]

variable {before events : List Log.Event} {last : Log.Event}

theorem quiet_nil : Quiet [] := nofun

theorem quiet_singleton {e : Log.Event} (hseverity : e.severity ≠ .error)
    (hname : e.name ≠ loadedEvent) : Quiet [e] := by
  intro e' he'
  rw [List.mem_singleton.1 he']
  exact ⟨hseverity, hname⟩

theorem Quiet.append (h : Quiet before) (h' : Quiet events) : Quiet (before ++ events) :=
  fun e he => (List.mem_append.1 he).elim (h e) (h' e)

theorem Concludes.prepend (h : Quiet before) (h' : Concludes events last) :
    Concludes (before ++ events) last := by
  obtain ⟨before', hquiet, rfl⟩ := h'
  exact ⟨before ++ before', h.append hquiet, (List.append_assoc _ _ _).symm⟩

theorem concludes_singleton (e : Log.Event) : Concludes [e] e := ⟨[], quiet_nil, rfl⟩

/-! ### Runs -/

/-- Whether a failure is not logged: no report covers it, or it is a malformed document. -/
def Failure.silent : Failure → Bool
  | .escaped _ => true
  | .reported report =>
      match report.cause with
      | some (.malformed _ _) => true
      | _ => false

/-- An event that tells of a failure. -/
def TellsFailure (e : Log.Event) : Prop := e.severity = .error ∧ e.name ≠ loadedEvent

/-- What the events of a run are: as `done` says if it succeeds, with a failure as the last one
if it fails, and without one if it fails silently. -/
def Run.Told {α : Type} (done : List Log.Event → Prop) (x : Run Failure α) : Prop :=
  match x.outcome with
  | .ok _ => done x.events
  | .error f =>
      if f.silent then Quiet x.events else ∃ last, Concludes x.events last ∧ TellsFailure last

namespace Run

variable {α β : Type} {x : Run Failure α} {f : α → Run Failure β} {failure : Failure}
  {done : List Log.Event → Prop}

theorem told_of_ok {a : α} (h : x.outcome = .ok a) : x.Told done ↔ done x.events := by
  rw [Told, h]

theorem told_of_error (h : x.outcome = .error failure) :
    x.Told done ↔ if failure.silent then Quiet x.events
      else ∃ last, Concludes x.events last ∧ TellsFailure last := by
  rw [Told, h]

theorem told_ok (a : α) : (ok a : Run Failure α).Told Quiet := quiet_nil

theorem told_fail (h : failure.silent = true) : (fail failure : Run Failure α).Told done := by
  rw [told_of_error rfl, if_pos h]
  exact quiet_nil

theorem told_ofExcept {y : Except Failure α} (h : ∀ g, y = .error g → g.silent = true) :
    (ofExcept y).Told Quiet := by
  rcases y with g | a
  · exact told_fail (h g rfl)
  · exact told_ok a

theorem told_emit {severity : Log.Severity} {name : String} (fields : Table)
    (hseverity : severity ≠ .error) (hname : name ≠ loadedEvent) :
    (emit severity name fields : Run Failure Unit).Told Quiet :=
  quiet_singleton hseverity hname

/-- A failure that is logged as an error right before it ends the run. -/
theorem told_error {name : String} (fields : Table) (hname : name ≠ loadedEvent)
    (h : failure.silent = false) :
    ((emit .error name fields).bind fun _ => (fail failure : Run Failure α)).Told done := by
  rw [told_of_error (Run.outcome_bind_of_ok (a := ()) rfl), h]
  exact ⟨⟨.error, name, fields⟩, concludes_singleton _, rfl, hname⟩

theorem events_bind_of_ok {a : α} (h : x.outcome = .ok a) :
    (x.bind f).events = x.events ++ (f a).events := by
  simp only [bind, h]

theorem events_bind_of_error (h : x.outcome = .error failure) :
    (x.bind f).events = x.events := by
  simp only [bind, h]

/-- One run after the other is told if both are: what is quiet goes before what follows. -/
theorem Told.bind (hx : x.Told Quiet)
    (hdone : ∀ {before events}, Quiet before → done events → done (before ++ events))
    (hf : ∀ a, x.outcome = .ok a → (f a).Told done) : (x.bind f).Told done := by
  rcases h : x.outcome with g | a
  · rw [told_of_error h] at hx
    rw [told_of_error (outcome_bind_of_error h), events_bind_of_error h]
    exact hx
  · rw [told_of_ok h] at hx
    have hnext := hf a h
    -- the events of the first part are quiet, so those of the second part conclude the whole
    rcases hfa : (f a).outcome with g | b
    · rw [told_of_error hfa] at hnext
      rw [told_of_error ((outcome_bind_of_ok h).trans hfa), events_bind_of_ok h]
      split at hnext
      · -- a silent failure: nothing may be told by either part
        rename_i hsilent
        rw [if_pos hsilent]
        exact hx.append hnext
      · -- a failure that is told: the last event of the second part tells it
        rename_i hsilent
        rw [if_neg hsilent]
        obtain ⟨last, hlast, htells⟩ := hnext
        exact ⟨last, hlast.prepend hx, htells⟩
    · rw [told_of_ok hfa] at hnext
      rw [told_of_ok ((outcome_bind_of_ok h).trans hfa), events_bind_of_ok h]
      exact hdone hx hnext

/-- The same where nothing but quiet follows. -/
theorem Told.andThen (hx : x.Told Quiet) (hf : ∀ a, x.outcome = .ok a → (f a).Told Quiet) :
    (x.bind f).Told Quiet :=
  hx.bind Quiet.append hf

end Run

/-! ### Stages -/

variable (files : Files) (source : Source) (environment : Environment)

namespace Source

/-- What is wrong with a text is not logged. -/
theorem silent_of_parse {text name kind : String} {f : Failure}
    (h : parse text name kind = .error f) : f.silent = true := by
  rw [parse] at h
  split at h
  · cases h
  · cases h
    rfl
  · cases h
    rfl

/-- Why a file cannot be read as text is no fault of a document. -/
theorem silent_of_fileCause {path : String} {cause : Cause}
    (h : fileCause files path = .error cause) (problem : Problem) :
    (Failure.reported (Report.of problem (some cause))).silent = false := by
  rw [fileCause] at h
  split at h
  · cases h
    rfl
  · split at h
    · cases h
      rfl
    · cases h

theorem told_readFile (path : String) : (readFile files path).Told Quiet := by
  rw [readFile]
  split
  · exact Run.told_fail rfl
  · split
    · exact Run.told_ok _
    · rename_i cause hcause
      exact Run.told_error _ (by decide) (silent_of_fileCause files hcause _)

theorem told_load : (load files source).Told Quiet := by
  rw [load]
  split
  · refine Run.Told.andThen (Run.told_ofExcept fun f => silent_of_parse) fun data _ => ?_
    exact Run.Told.andThen (Run.told_emit _ nofun (by decide)) fun _ _ => Run.told_ok _
  · refine Run.Told.andThen (told_readFile files source.path) fun text _ => ?_
    refine Run.Told.andThen (Run.told_ofExcept fun f => silent_of_parse) fun data _ => ?_
    exact Run.Told.andThen (Run.told_emit _ nofun (by decide)) fun _ _ => Run.told_ok _

end Source

section

variable {environment} (start separator : String)

theorem Collected.told_take (c : Collected) (entry : String × String) :
    (c.take start separator entry).Told Quiet := by
  rw [take]
  split
  · exact Run.told_fail rfl
  · split
    · exact Run.Told.andThen (Run.told_emit _ nofun (by decide)) fun _ _ => Run.told_ok _
    · exact Run.told_ok _
  · split
    · exact Run.told_fail rfl
    · exact Run.told_ok _

theorem Collected.told_takeAll (entries : List (String × String)) (c : Collected) :
    (takeAll start separator entries c).Told Quiet := by
  induction entries generalizing c with
  | nil => exact Run.told_ok c
  | cons entry rest ih =>
    rw [takeAll]
    exact Run.Told.andThen (c.told_take start separator entry) fun c' _ => ih c'

theorem told_collectOverrides : (collectOverrides environment start separator).Told Quiet := by
  rw [collectOverrides]
  refine Run.Told.andThen (Collected.told_takeAll start separator _ _) fun c _ => ?_
  split
  · exact Run.Told.andThen (Run.told_emit _ nofun (by decide)) fun _ _ => Run.told_ok _
  · exact Run.told_ok _

end

theorem told_userProvider : (userProvider files source environment).Told Quiet := by
  rw [userProvider]
  refine Run.Told.andThen (Source.told_load files source) fun document _ => ?_
  exact Run.Told.andThen (told_collectOverrides _ _) fun overrides _ => Run.told_ok _

theorem told_checkMandatory (P : Provider) (options : List String) :
    (checkMandatory P options).Told Quiet := by
  rw [checkMandatory]
  split
  · exact Run.told_ok _
  · exact Run.told_error _ (by decide) rfl

theorem told_extract (P : Provider) : (extract P).Told Quiet := by
  rw [extract]
  split
  · exact Run.told_ok _
  · split
    · exact Run.told_fail rfl
    · exact Run.told_error _ (by decide) rfl

theorem told_checkVersion (d : Document) : (checkVersion d).Told Quiet := by
  rw [checkVersion]
  split
  · exact Run.told_ok _
  · exact Run.told_error _ (by decide) rfl

/-! ### Resolutions -/

/-- The last one of some events tells of a document that was loaded. -/
def TellsLoaded (events : List Log.Event) : Prop :=
  ∃ last, Concludes events last ∧ last.severity = .info ∧ last.name = loadedEvent

theorem TellsLoaded.prepend {before events : List Log.Event} (h : Quiet before)
    (h' : TellsLoaded events) : TellsLoaded (before ++ events) := by
  obtain ⟨last, hlast, htells⟩ := h'
  exact ⟨last, hlast.prepend h, htells⟩

theorem told_resolve : (resolve files source environment).Told TellsLoaded := by
  rw [resolve]
  refine (told_userProvider files source environment).bind TellsLoaded.prepend fun P _ => ?_
  refine (told_checkMandatory P _).bind TellsLoaded.prepend fun _ _ => ?_
  refine (told_extract _).bind TellsLoaded.prepend fun d _ => ?_
  refine (told_checkVersion d).bind TellsLoaded.prepend fun d' _ => ?_
  exact ⟨_, concludes_singleton _, rfl, rfl⟩

/-- **What the log tells of a resolution.**  If it succeeds, the last event tells of the loaded
document; if it fails and not silently, the last event is an error; and neither a loaded document
nor an error is logged otherwise. -/
theorem resolve_log :
    (∀ r, (resolve files source environment).outcome = .ok r →
      ∃ last, Concludes (resolve files source environment).events last ∧
        last.severity = .info ∧ last.name = loadedEvent) ∧
    (∀ f, (resolve files source environment).outcome = .error f → f.silent = false →
      ∃ last, Concludes (resolve files source environment).events last ∧
        last.severity = .error ∧ last.name ≠ loadedEvent) ∧
    ∀ f, (resolve files source environment).outcome = .error f → f.silent = true →
      Quiet (resolve files source environment).events := by
  have htold := told_resolve files source environment
  refine ⟨fun r hr => (Run.told_of_ok hr).1 htold, fun f hf hloud => ?_, fun f hf hsilent => ?_⟩
  · rw [Run.told_of_error hf, hloud] at htold
    exact htold
  · rwa [Run.told_of_error hf, if_pos hsilent] at htold

/-- The least document is resolved, and the poor one lacks an option; the last event tells. -/
theorem resolve_log_poor_and_least :
    (∃ r last, (resolve noFiles leastSource []).outcome = .ok r ∧
      Concludes (resolve noFiles leastSource []).events last ∧ last.name = loadedEvent) ∧
    ∃ f last, (resolve noFiles poorSource []).outcome = .error f ∧ f.silent = false ∧
      Concludes (resolve noFiles poorSource []).events last ∧ last.severity = .error := by
  constructor
  · obtain ⟨r, hr⟩ : ∃ r, (resolve noFiles leastSource []).outcome = .ok r :=
      exists_eq_ok_of_isOk (by decide +kernel)
    obtain ⟨last, hlast, -, hname⟩ := (resolve_log noFiles leastSource []).1 r hr
    exact ⟨r, last, hr, hlast, hname⟩
  · have hpoor : (resolve noFiles poorSource []).outcome =
        .error (.reported (Report.of (.missingOption "auth.user_claim_token_pepper") none)) := by
      decide +kernel
    obtain ⟨last, hlast, hseverity, -⟩ := (resolve_log noFiles poorSource []).2.1 _ hpoor rfl
    exact ⟨_, last, hpoor, rfl, hlast, hseverity⟩

/-- A document without a value. -/
def malformedSource : Source := ⟨some "a =", Source.defaultPath⟩

/-- A malformed document is reported, and nothing is logged. -/
theorem resolve_log_malformed :
    (∃ report, (resolve noFiles malformedSource []).outcome = .error (.reported report)) ∧
      (resolve noFiles malformedSource []).events = [] :=
  ⟨⟨_, by rfl⟩, by decide +kernel⟩

end LayeredSettings
