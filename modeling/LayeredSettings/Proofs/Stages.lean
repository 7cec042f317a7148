/-
LayeredSettings/Proofs/Stages.lean

The stages of a resolution and how each one ends.

A run ends as its last step does unless an earlier step fails
(`Run.outcome_bind_eq_ok`, `Run.outcome_bind_eq_error`).  Hence a resolution
succeeds exactly if all its stages do: the layers of the user are there, no
mandatory option is missing in them, the tree with the defaults below fits the
schema, and the document declares the version that is read
(`resolve_eq_ok_iff`).  Once the layers of the user are there, the first missing
option, if there is one, is how it ends (`resolve_of_firstMissing`), and nothing
else is reported as a missing option (`reportsMissing_resolve_iff`).
-/
import LayeredSettings.Resolution

namespace LayeredSettings

/-! ### Runs -/

instance decidableEqExcept {ε α : Type} [DecidableEq ε] [DecidableEq α] :
    DecidableEq (Except ε α)
  | .error e, .error e' => decidable_of_iff (e = e') (by simp)
  | .ok a, .ok a' => decidable_of_iff (a = a') (by simp)
  | .error _, .ok _ => isFalse (by simp)
  | .ok _, .error _ => isFalse (by simp)

theorem exists_eq_ok_of_isOk {ε α : Type} {x : Except ε α} (h : x.isOk = true) :
    ∃ a, x = .ok a := by
  rcases x with e | a
  · cases h
  · exact ⟨a, rfl⟩

namespace Run

variable {ε α β : Type} {x : Run ε α} {f : α → Run ε β}

@[simp] theorem outcome_ok (a : α) : (ok a : Run ε α).outcome = .ok a := rfl

@[simp] theorem outcome_emit (severity : Log.Severity) (name : String) (fields : Table) :
    (emit severity name fields : Run ε Unit).outcome = .ok () := rfl

theorem outcome_bind_of_ok {a : α} (h : x.outcome = .ok a) :
    (x.bind f).outcome = (f a).outcome := by
  simp only [bind, h]

theorem outcome_bind_of_error {e : ε} (h : x.outcome = .error e) :
    (x.bind f).outcome = .error e := by
  simp only [bind, h]

theorem outcome_bind_eq_ok {b : β} :
    (x.bind f).outcome = .ok b ↔ ∃ a, x.outcome = .ok a ∧ (f a).outcome = .ok b := by
  rcases h : x.outcome with e | a
  · simp [outcome_bind_of_error h]
  · simp [outcome_bind_of_ok h]

theorem outcome_bind_eq_error {e : ε} :
    (x.bind f).outcome = .error e ↔
      x.outcome = .error e ∨ ∃ a, x.outcome = .ok a ∧ (f a).outcome = .error e := by
  rcases h : x.outcome with e' | a
  · simp [outcome_bind_of_error h]
  · simp [outcome_bind_of_ok h]

end Run

/-! ### Single stages -/

variable {files : Files} {source : Source} {environment : Environment}

/-- The layers of the user are the document and the overrides over it. -/
theorem userProvider_eq_ok_iff {P : Provider} :
    (userProvider files source environment).outcome = .ok P ↔
      ∃ document overrides, (source.load files).outcome = .ok document ∧
        (collectOverrides environment overridePrefix overrideSeparator).outcome = .ok overrides ∧
        P = ⟨[document, overrides]⟩ := by
  simp only [userProvider, Run.bind_eq, Run.outcome_bind_eq_ok, Run.pure_eq, Run.outcome_ok]
  constructor
  · rintro ⟨document, hd, overrides, ho, hP⟩
    exact ⟨document, overrides, hd, ho, (Except.ok.inj hP).symm⟩
  · rintro ⟨document, overrides, hd, ho, rfl⟩
    exact ⟨document, hd, overrides, ho, rfl⟩

theorem outcome_checkMandatory (P : Provider) (options : List String) :
    (checkMandatory P options).outcome =
      match P.firstMissing? options with
      | none => .ok ()
      | some option => .error (.reported (Report.of (.missingOption option) none)) := by
  rcases h : P.firstMissing? options with - | option
  · simp [checkMandatory, h]
  · simp only [checkMandatory, h]
    rfl

/-- How a tree that does not fit ends the reading: an integer that has no text is not reported. -/
def unfitFailure (P : Provider) (issues : List Issue) : Failure :=
  if holdsOverlong issues then .escaped .longText else .reported (unfitReport P issues)

theorem unfitFailure_eq_reported {P : Provider} {issues : List Issue} {report : Report}
    (h : unfitFailure P issues = .reported report) : report = unfitReport P issues := by
  rw [unfitFailure] at h
  split at h
  · cases h
  · exact (Failure.reported.inj h).symm

theorem outcome_extract (P : Provider) :
    (extract P).outcome =
      match Settings.read (.table P.merged) with
      | .ok d => .ok d
      | .error issues => .error (unfitFailure P issues) := by
  rcases h : Settings.read (.table P.merged) with issues | d
  · simp only [extract, h, unfitFailure]
    rcases holdsOverlong issues with - | - <;> rfl
  · simp [extract, h]

theorem outcome_checkVersion (d : Document) :
    (checkVersion d).outcome =
      if Settings.version d = Settings.supportedVersion then .ok d
      else .error (.reported (Report.of (.unsupportedVersion (Settings.version d)) none)) := by
  by_cases h : Settings.version d = Settings.supportedVersion
  · simp [checkVersion, h]
  · simp only [checkVersion, h, if_false]
    rfl

/-! ### The resolution -/

/-- A resolution succeeds exactly if all its stages do. -/
theorem resolve_eq_ok_iff {r : Resolution} :
    (resolve files source environment).outcome = .ok r ↔
      (userProvider files source environment).outcome = .ok r.provider ∧
      r.provider.firstMissing? mandatoryOptions = none ∧
      Settings.read (.table (r.provider.join defaultsLayer).merged) = .ok r.document ∧
      Settings.version r.document = Settings.supportedVersion := by
  rcases r with ⟨document, provider⟩
  simp only [resolve, Run.bind_eq, Run.outcome_bind_eq_ok, outcome_checkMandatory,
    outcome_extract, outcome_checkVersion, Run.pure_eq, Run.outcome_ok, Run.outcome_emit]
  constructor
  · -- each stage has one way to succeed, and hands on what it was given
    rintro ⟨P, hP, _, hmissing, extracted, hread, d, hversion, _, -, hr⟩
    obtain ⟨rfl, rfl⟩ : d = document ∧ P = provider := by simpa using hr
    rcases hm : P.firstMissing? mandatoryOptions with - | option
    · rcases hx : Settings.read (.table (P.join defaultsLayer).merged) with issues | e
      · simp [hx] at hread
      · obtain rfl : e = extracted := by simpa [hx] using hread
        by_cases hv : Settings.version e = Settings.supportedVersion
        · obtain rfl : e = d := by simpa [hv] using hversion
          exact ⟨hP, rfl, rfl, hv⟩
        · simp [hv] at hversion
    · simp [hm] at hmissing
  · rintro ⟨hP, hmissing, hread, hversion⟩
    refine ⟨provider, hP, (), ?_, document, ?_, document, ?_, (), trivial, rfl⟩
    · simp [hmissing]
    · simp [hread]
    · simp [hversion]

/-- Layers of the user that miss no mandatory option are resolved to the document that they
describe, if it declares the version that is read. -/
theorem exists_resolve {P : Provider} (facts : Document → Bool)
    (hP : (userProvider files source environment).outcome = .ok P)
    (hmissing : P.firstMissing? mandatoryOptions = none)
    (hread : ((Settings.read (.table (P.join defaultsLayer).merged)).map fun d =>
      decide (Settings.version d = Settings.supportedVersion) && facts d) = .ok true) :
    ∃ r, (resolve files source environment).outcome = .ok r ∧ r.provider = P ∧
      facts r.document = true := by
  rcases hd : Settings.read (.table (P.join defaultsLayer).merged) with issues | d
  · rw [hd] at hread
    cases hread
  · rw [hd] at hread
    obtain ⟨hversion, hfacts⟩ := Bool.and_eq_true_iff.1 (Except.ok.inj hread)
    exact ⟨⟨d, P⟩, resolve_eq_ok_iff.2 ⟨hP, hmissing, hd, of_decide_eq_true hversion⟩, rfl, hfacts⟩

/-- The first missing option is how a resolution ends, whatever else is wrong. -/
theorem resolve_of_firstMissing {P : Provider} {option : String}
    (hP : (userProvider files source environment).outcome = .ok P)
    (h : P.firstMissing? mandatoryOptions = some option) :
    (resolve files source environment).outcome =
      .error (.reported (Report.of (.missingOption option) none)) := by
  rw [resolve, Run.bind_eq, Run.outcome_bind_of_ok hP, Run.bind_eq]
  apply Run.outcome_bind_of_error
  rw [outcome_checkMandatory, h]

/-- With all mandatory options there, a resolution ends with the reading of the tree or with the
check of the version. -/
theorem outcome_resolve_of_supplied {P : Provider}
    (hP : (userProvider files source environment).outcome = .ok P)
    (h : P.firstMissing? mandatoryOptions = none) :
    (resolve files source environment).outcome =
      match Settings.read (.table (P.join defaultsLayer).merged) with
      | .error issues => .error (unfitFailure (P.join defaultsLayer) issues)
      | .ok d =>
          if Settings.version d = Settings.supportedVersion then .ok ⟨d, P⟩
          else .error (.reported (Report.of (.unsupportedVersion (Settings.version d)) none)) := by
  -- the first two stages succeed, and the outcome is that of the other two
  have hmandatory : (checkMandatory P mandatoryOptions).outcome = .ok () := by
    rw [outcome_checkMandatory, h]
  rw [resolve, Run.bind_eq, Run.outcome_bind_of_ok hP, Run.bind_eq,
    Run.outcome_bind_of_ok hmandatory, Run.bind_eq]
  have hextract := outcome_extract (P.join defaultsLayer)
  rcases hread : Settings.read (.table (P.join defaultsLayer).merged) with issues | d
  · rw [hread] at hextract
    exact Run.outcome_bind_of_error hextract
  · rw [hread] at hextract
    rw [Run.outcome_bind_of_ok hextract, Run.bind_eq]
    -- a document that could be read still has to declare the right version
    have hversion := outcome_checkVersion d
    dsimp only
    split at hversion
    · rename_i hsupported
      rw [Run.outcome_bind_of_ok hversion, if_pos hsupported]
      rfl
    · rename_i hother
      rw [if_neg hother]
      exact Run.outcome_bind_of_error hversion

/-- A run ends with the report of a missing option. -/
def Run.ReportsMissing {α : Type} (x : Run Failure α) : Prop :=
  ∃ report option, x.outcome = .error (.reported report) ∧ report.problem = .missingOption option

/-- Nothing but the check of the mandatory options reports one as missing. -/
theorem reportsMissing_resolve_iff {P : Provider}
    (hP : (userProvider files source environment).outcome = .ok P) :
    (resolve files source environment).ReportsMissing ↔
      ∃ option ∈ mandatoryOptions, P.contains (Path.ofText option) = false := by
  constructor
  · rintro ⟨report, option, houtcome, hproblem⟩
    rcases hm : P.firstMissing? mandatoryOptions with - | first
    · -- the stages after the check report other problems
      exfalso
      rw [resolve, Run.bind_eq, Run.outcome_bind_of_ok hP, Run.bind_eq,
        Run.outcome_bind_of_ok (a := ()) (by rw [outcome_checkMandatory, hm]),
        Run.bind_eq, Run.outcome_bind_eq_error] at houtcome
      rcases houtcome with hextract | ⟨d, -, hrest⟩
      · rw [outcome_extract] at hextract
        split at hextract
        · cases hextract
        · rw [unfitFailure_eq_reported (Except.error.inj hextract)] at hproblem
          cases hproblem
      · rw [Run.bind_eq, Run.outcome_bind_eq_error] at hrest
        rcases hrest with hversion | ⟨_, -, hlog⟩
        · rw [outcome_checkVersion] at hversion
          split at hversion
          · cases hversion
          · obtain rfl : Report.of _ _ = report := by simpa using hversion
            simp [Report.of] at hproblem
        · simp [Run.outcome_bind_eq_error] at hlog
    · have hfirst := List.find?_some hm
      exact ⟨first, List.mem_of_find?_eq_some hm, by simpa using hfirst⟩
  · rintro ⟨option, hmem, habsent⟩
    have hsome : (P.firstMissing? mandatoryOptions).isSome := by
      rw [Provider.firstMissing?, List.find?_isSome]
      exact ⟨option, hmem, by simp [habsent]⟩
    obtain ⟨first, hfirst⟩ := Option.isSome_iff_exists.1 hsome
    exact ⟨_, first, resolve_of_firstMissing hP hfirst, rfl⟩

end LayeredSettings
