/-
LayeredSettings/Proofs/Escaping.lean

Failures that no report covers.

A resolution ends with settings, with a report, or with one of a few failures that
no report covers.  They come from a path that holds a null character, from a
decimal integer of too many digits in the document or in the value of an override,
and from an integer in front of an option of text that has no text.  `Escapes`
lists them in the order of the stages, each with what the stages before it did.

Two limits lie outside: how deep calls may nest, which the machine sets and a
document nested hundreds of levels deep can exceed while it is parsed or copied,
and texts with half a surrogate pair, since a text here is a list of Unicode scalar
values.  That there are no other failures is said up to these.

Each stage is described by how it fails: loading (`Source.load_escaped_iff`), the
collection of overrides, which stops at the first variable in the order of names
that has no value (`collectOverrides_eq_error_iff`), and reading the tree
(`Schema.overlongs_read_iff`).  Main result: `resolve_failures`.
-/
import LayeredSettings.Proofs.DigitLimit
import LayeredSettings.Proofs.Mandatory
import LayeredSettings.Proofs.TextLimit

namespace LayeredSettings

variable {files : Files} {source : Source} {environment : Environment} {e : Escape}
  {report : Report} {f : Failure} {start separator : String}

/-! ### Documents -/

namespace Source

variable {text : String}

/-- The text of the document of a source. -/
def Holds (files : Files) (source : Source) (text : String) : Prop :=
  source.inline = some text ∨
    source.inline = none ∧ (readFile files source.path).outcome = .ok text

theorem outcome_readFile (files : Files) (path : String) :
    (readFile files path).outcome =
      if path.toList.contains '\x00' then .error (.escaped .nullInPath)
      else
        match fileCause files path with
        | .ok text => .ok (String.ofList text)
        | .error cause => .error (.reported (Report.of (.unreadableFile path) (some cause))) := by
  rw [readFile]
  split
  · rfl
  · rcases fileCause files path with cause | text <;> rfl

theorem parse_escaped_iff {name kind : String} :
    parse text name kind = .error (.escaped e) ↔
      ∃ digits, Toml.parse text = .error (.longInteger digits) ∧ e = .longInteger digits := by
  rw [parse]
  rcases Toml.parse text with (⟨fault, position⟩ | digits) | t
  · simp
  · simp [eq_comm]
  · simp

theorem load_inline_error (h : source.inline = some text) :
    (load files source).outcome = .error f ↔ parse text inlineName inlineLayer = .error f := by
  simp only [load, h, Run.bind_eq, Run.outcome_bind_eq_error]
  constructor
  · rintro (hparse | ⟨data, -, hemit | ⟨_, -, hdone⟩⟩)
    · exact hparse
    · cases hemit
    · cases hdone
  · exact .inl

theorem load_file_error (h : source.inline = none) :
    (load files source).outcome = .error f ↔
      (readFile files source.path).outcome = .error f ∨
      ∃ text, (readFile files source.path).outcome = .ok text ∧
        parse text source.path fileLayer = .error f := by
  simp only [load, h, Run.bind_eq, Run.outcome_bind_eq_error]
  constructor
  · rintro (hread | ⟨text, hread, hparse | ⟨data, -, hemit | ⟨_, -, hdone⟩⟩⟩)
    · exact .inl hread
    · exact .inr ⟨text, hread, hparse⟩
    · cases hemit
    · cases hdone
  · rintro (hread | ⟨text, hread, hparse⟩)
    · exact .inl hread
    · exact .inr ⟨text, hread, .inl hparse⟩

theorem readFile_escaped_iff {path : String} :
    (readFile files path).outcome = .error (.escaped e) ↔
      '\x00' ∈ path.toList ∧ e = .nullInPath := by
  rw [outcome_readFile]
  by_cases hnull : '\x00' ∈ path.toList
  · simp [hnull, eq_comm]
  · rcases fileCause files path with cause | text <;> simp [hnull]

/-- A document escapes the reports by the path of its file or by an integer of too many digits. -/
theorem load_escaped_iff :
    (load files source).outcome = .error (.escaped e) ↔
      (source.inline = none ∧ '\x00' ∈ source.path.toList ∧ e = .nullInPath) ∨
      ∃ text digits, source.Holds files text ∧
        Toml.parse text = .error (.longInteger digits) ∧ e = .longInteger digits := by
  rcases hinline : source.inline with - | given
  · -- a file: its path may hold a null character, or its text an integer of too many digits
    rw [load_file_error hinline, readFile_escaped_iff]
    constructor
    · rintro (⟨hnull, he⟩ | ⟨text, hread, hparse⟩)
      · exact .inl ⟨rfl, hnull, he⟩
      · obtain ⟨digits, hstop, he⟩ := parse_escaped_iff.1 hparse
        exact .inr ⟨text, digits, .inr ⟨hinline, hread⟩, hstop, he⟩
    · rintro (⟨-, hnull, he⟩ | ⟨text, digits, hgiven | ⟨-, hread⟩, hstop, he⟩)
      · exact .inl ⟨hnull, he⟩
      · rw [hinline] at hgiven
        cases hgiven
      · exact .inr ⟨text, hread, parse_escaped_iff.2 ⟨digits, hstop, he⟩⟩
  · -- a text, of which only the parser can complain
    rw [load_inline_error hinline, parse_escaped_iff]
    constructor
    · rintro ⟨digits, hstop, he⟩
      exact .inr ⟨given, digits, .inl hinline, hstop, he⟩
    · rintro (⟨hfile, -⟩ | ⟨text, digits, hgiven | ⟨hfile, -⟩, hstop, he⟩)
      · cases hfile
      · obtain rfl := Option.some.inj (hinline.symm.trans hgiven)
        exact ⟨digits, hstop, he⟩
      · rw [hinline] at hfile
        cases hfile

end Source

/-! ### Overrides -/

/-- A variable applies, and its text has no value. -/
def Spoils (start separator : String) (entry : String × String) (e : Escape) : Prop :=
  ∃ p, overridePath? start separator entry.1 = .ok (some p) ∧ overrideValue entry.2 = .error e

section

variable {c : Collected} {entry : String × String} {entries : List (String × String)}

theorem Collected.take_eq_error_iff (hseparator : separator.toList ≠ []) :
    (c.take start separator entry).outcome = .error f ↔
      ∃ e, Spoils start separator entry e ∧ f = .escaped e := by
  rw [outcome_take]
  rcases hp : overridePath? start separator entry.1 with e | - | p
  · exact absurd hp (overridePath?_ne_error hseparator _ e)
  · simp [Spoils, hp]
  · rcases hv : overrideValue entry.2 with e | v
    · simp [Spoils, hp, hv, eq_comm]
    · simp [Spoils, hp, hv]

/-- Variables are taken up to the first one whose text has no value. -/
theorem Collected.takeAll_eq_error_iff (hseparator : separator.toList ≠ []) :
    (takeAll start separator entries c).outcome = .error f ↔
      ∃ before entry after e, entries = before ++ entry :: after ∧
        (∀ b ∈ before, ∀ e, ¬ Spoils start separator b e) ∧
        Spoils start separator entry e ∧ f = .escaped e := by
  induction entries generalizing c with
  | nil => simp [takeAll]
  | cons x rest ih =>
    rw [takeAll, Run.bind_eq, Run.outcome_bind_eq_error, take_eq_error_iff hseparator]
    constructor
    · -- the first variable spoils the collection, or it is taken and one of the others does
      rintro (⟨e, hspoils, hf⟩ | ⟨c₁, htake, hrest⟩)
      · exact ⟨[], x, rest, e, rfl, by simp, hspoils, hf⟩
      · obtain ⟨before, entry, after, e, rfl, hbefore, hspoils, hf⟩ := ih.1 hrest
        refine ⟨x :: before, entry, after, e, rfl, fun b hb e' hb' => ?_, hspoils, hf⟩
        rcases List.mem_cons.1 hb with rfl | hb
        · -- a variable that was taken does not spoil anything
          have herror := (take_eq_error_iff (c := c) hseparator).2 ⟨e', hb', rfl⟩
          rw [htake] at herror
          cases herror
        · exact hbefore b hb e' hb'
    · rintro ⟨before, entry, after, e, hsplit, hbefore, hspoils, hf⟩
      rcases before with - | ⟨b, before⟩
      · obtain ⟨rfl, rfl⟩ := List.cons.inj hsplit
        exact .inl ⟨e, hspoils, hf⟩
      · obtain ⟨rfl, rfl⟩ := List.cons.inj hsplit
        rcases htake : (c.take start separator x).outcome with f' | c₁
        · -- the first variable is not the one that spoils the collection, so it was taken
          obtain ⟨e', hx, -⟩ := (take_eq_error_iff hseparator).1 htake
          exact absurd hx (hbefore x List.mem_cons_self e')
        · exact .inr ⟨c₁, rfl, ih.2 ⟨before, entry, after, e, rfl,
            fun b hb => hbefore b (List.mem_cons_of_mem x hb), hspoils, hf⟩⟩

end

theorem collectOverrides_eq_error_iff (hseparator : separator.toList ≠ []) :
    (collectOverrides environment start separator).outcome = .error f ↔
      ∃ before entry after e, environment.sorted = before ++ entry :: after ∧
        (∀ b ∈ before, ∀ e, ¬ Spoils start separator b e) ∧
        Spoils start separator entry e ∧ f = .escaped e := by
  rw [← Collected.takeAll_eq_error_iff hseparator (c := ⟨[], []⟩), outcome_collectOverrides]
  rcases (Collected.takeAll start separator environment.sorted ⟨[], []⟩).outcome with g | c
  · simp [Except.map]
  · simp [Except.map]

/-! ### Resolutions -/

/-- How a resolution ends in a failure that no report covers: at the path of the document, at its
text, at the first variable without a value in the order of names, or at an integer in front of an
option of text, once no mandatory option is missing. -/
inductive Escapes (files : Files) (source : Source) (environment : Environment) : Escape → Prop
  | path (hfile : source.inline = none) (hnull : '\x00' ∈ source.path.toList) :
      Escapes files source environment .nullInPath
  | document {text : String} {digits : Nat} (hholds : source.Holds files text)
      (hstop : Toml.parse text = .error (.longInteger digits)) :
      Escapes files source environment (.longInteger digits)
  | override {document : Layer} {before after : List (String × String)}
      {entry : String × String} {e : Escape}
      (hload : (source.load files).outcome = .ok document)
      (hsplit : environment.sorted = before ++ entry :: after)
      (hbefore : ∀ b ∈ before, ∀ e, ¬ Spoils overridePrefix overrideSeparator b e)
      (hspoils : Spoils overridePrefix overrideSeparator entry e) :
      Escapes files source environment e
  | text {P : Provider} (hP : (userProvider files source environment).outcome = .ok P)
      (hsupplied : ∀ option ∈ mandatoryOptions, P.contains (Path.ofText option) = true)
      (hlong : Settings.schema.Overlong (.table (P.join defaultsLayer).merged)) :
      Escapes files source environment .longText

/-- The layers of the user fail with the document or with the overrides. -/
theorem userProvider_eq_error_iff :
    (userProvider files source environment).outcome = .error f ↔
      (source.load files).outcome = .error f ∨
      ∃ document, (source.load files).outcome = .ok document ∧
        (collectOverrides environment overridePrefix overrideSeparator).outcome = .error f := by
  simp only [userProvider, Run.bind_eq, Run.outcome_bind_eq_error]
  constructor
  · -- loading fails or the collection does; what comes after them cannot
    rintro (hload | ⟨document, hload, hcollect | ⟨overrides, -, hdone⟩⟩)
    · exact .inl hload
    · exact .inr ⟨document, hload, hcollect⟩
    · cases hdone
  · rintro (hload | ⟨document, hload, hcollect⟩)
    · exact .inl hload
    · exact .inr ⟨document, hload, .inl hcollect⟩

theorem overrideSeparator_ne_nil : overrideSeparator.toList ≠ [] := by decide

theorem unfitFailure_eq_escaped_iff {P : Provider} {issues : List Issue} :
    unfitFailure P issues = .escaped e ↔ holdsOverlong issues = true ∧ e = .longText := by
  rw [unfitFailure]
  rcases holdsOverlong issues with - | - <;> simp [eq_comm]

theorem userProvider_escaped_iff :
    (userProvider files source environment).outcome = .error (.escaped e) ↔
      (source.load files).outcome = .error (.escaped e) ∨
      ∃ document before entry after, (source.load files).outcome = .ok document ∧
        environment.sorted = before ++ entry :: after ∧
        (∀ b ∈ before, ∀ e, ¬ Spoils overridePrefix overrideSeparator b e) ∧
        Spoils overridePrefix overrideSeparator entry e := by
  simp only [userProvider_eq_error_iff, collectOverrides_eq_error_iff overrideSeparator_ne_nil]
  constructor
  · rintro (hload | ⟨document, hload, before, entry, after, e', hsplit, hbefore, hspoils, he⟩)
    · exact .inl hload
    · obtain rfl := Failure.escaped.inj he
      exact .inr ⟨document, before, entry, after, hload, hsplit, hbefore, hspoils⟩
  · rintro (hload | ⟨document, before, entry, after, hload, hsplit, hbefore, hspoils⟩)
    · exact .inl hload
    · exact .inr ⟨document, hload, before, entry, after, e, hsplit, hbefore, hspoils, rfl⟩

/-- A resolution escapes as the layers of the user do, or once they are there, by an integer that
has no text. -/
theorem escapes_iff :
    Escapes files source environment e ↔
      (userProvider files source environment).outcome = .error (.escaped e) ∨
      ∃ P, (userProvider files source environment).outcome = .ok P ∧
        (∀ option ∈ mandatoryOptions, P.contains (Path.ofText option) = true) ∧
        Settings.schema.Overlong (.table (P.join defaultsLayer).merged) ∧ e = .longText := by
  -- the stages of the user's layers give the first three ways, reading the merged tree gives the
  -- fourth
  rw [userProvider_escaped_iff, Source.load_escaped_iff]
  constructor
  · rintro (⟨hfile, hnull⟩ | ⟨hholds, hstop⟩ | ⟨hload, hsplit, hbefore, hspoils⟩ |
      ⟨hP, hsupplied, hlong⟩)
    · exact .inl (.inl (.inl ⟨hfile, hnull, rfl⟩))
    · exact .inl (.inl (.inr ⟨_, _, hholds, hstop, rfl⟩))
    · exact .inl (.inr ⟨_, _, _, _, hload, hsplit, hbefore, hspoils⟩)
    · exact .inr ⟨_, hP, hsupplied, hlong, rfl⟩
  · rintro (((⟨hfile, hnull, rfl⟩ | ⟨text, digits, hholds, hstop, rfl⟩) |
      ⟨document, before, entry, after, hload, hsplit, hbefore, hspoils⟩) |
      ⟨P, hP, hsupplied, hlong, rfl⟩)
    · exact .path hfile hnull
    · exact .document hholds hstop
    · exact .override hload hsplit hbefore hspoils
    · exact .text hP hsupplied hlong

/-- Once the layers of the user are there, only an integer that has no text escapes. -/
theorem resolve_escaped_of_userProvider {P : Provider}
    (hP : (userProvider files source environment).outcome = .ok P) :
    (resolve files source environment).outcome = .error (.escaped e) ↔
      (∀ option ∈ mandatoryOptions, P.contains (Path.ofText option) = true) ∧
      Settings.schema.Overlong (.table (P.join defaultsLayer).merged) ∧ e = .longText := by
  rw [← Provider.firstMissing?_eq_none_iff]
  rcases hmissing : P.firstMissing? mandatoryOptions with - | option
  · rw [outcome_resolve_of_supplied hP hmissing, ← Schema.overlongs_read_iff]
    have hread : Settings.read (.table (P.join defaultsLayer).merged) =
        Settings.schema.read (.table (P.join defaultsLayer).merged) := rfl
    rw [← hread]
    rcases Settings.read (.table (P.join defaultsLayer).merged) with issues | d
    · simp [Schema.overlongs_error, unfitFailure_eq_escaped_iff]
    · -- a document that can be read may still have another version, and that is reported
      have hchecked : (if Settings.version d = Settings.supportedVersion
          then (.ok ⟨d, P⟩ : Except Failure Resolution)
          else .error (.reported (Report.of (.unsupportedVersion (Settings.version d)) none))) ≠
          .error (.escaped e) := by
        split <;> nofun
      simp [Schema.not_overlongs_ok, hchecked]
  · -- a missing option ends the resolution before the tree is read
    rw [resolve_of_firstMissing hP hmissing]
    simp

/-- A resolution ends in a failure that no report covers exactly in the ways of `Escapes`. -/
theorem resolve_escaped_iff :
    (resolve files source environment).outcome = .error (.escaped e) ↔
      Escapes files source environment e := by
  rw [escapes_iff]
  rcases hP : (userProvider files source environment).outcome with f | P
  · have hresolve : (resolve files source environment).outcome = .error f := by
      rw [resolve, Run.bind_eq]
      exact Run.outcome_bind_of_error hP
    simp [hresolve]
  · rw [resolve_escaped_of_userProvider hP]
    simp

/-! ### Reports -/

/-- The names of the problems that a resolution reports. -/
def resolutionProblems : List String :=
  ["UnableToLoadFromConfigFile", "ConfigError", "MissingMandatoryOption", "UnsupportedVersion"]

theorem Source.name_of_load (h : (source.load files).outcome = .error (.reported report)) :
    report.problem.name ∈ resolutionProblems := by
  -- the text of either kind of source is parsed, and what is wrong with it is reported in one way
  have hparse : ∀ {text name kind}, parse text name kind = .error (.reported report) →
      report.problem.name ∈ resolutionProblems := by
    intro text name kind hparse
    rw [parse] at hparse
    split at hparse
    · cases hparse
    · cases hparse
    · cases hparse
      show "ConfigError" ∈ resolutionProblems
      decide
  rcases hinline : source.inline with - | given
  · rcases (load_file_error hinline).1 h with hread | ⟨text, -, htext⟩
    · rw [outcome_readFile] at hread
      split at hread
      · cases hread
      · split at hread
        · cases hread
        · cases hread
          show "UnableToLoadFromConfigFile" ∈ resolutionProblems
          decide
    · exact hparse htext
  · exact hparse ((load_inline_error hinline).1 h)

theorem name_of_userProvider
    (h : (userProvider files source environment).outcome = .error (.reported report)) :
    report.problem.name ∈ resolutionProblems := by
  rcases userProvider_eq_error_iff.1 h with hload | ⟨document, -, hcollect⟩
  · exact Source.name_of_load hload
  · -- overrides are never reported
    obtain ⟨_, _, _, _, -, -, -, hf⟩ :=
      (collectOverrides_eq_error_iff overrideSeparator_ne_nil).1 hcollect
    cases hf

theorem name_of_resolve
    (h : (resolve files source environment).outcome = .error (.reported report)) :
    report.problem.name ∈ resolutionProblems := by
  rcases hP : (userProvider files source environment).outcome with f | P
  · have hresolve : (resolve files source environment).outcome = .error f := by
      rw [resolve, Run.bind_eq]
      exact Run.outcome_bind_of_error hP
    obtain rfl : f = .reported report := Except.error.inj (hresolve.symm.trans h)
    exact name_of_userProvider hP
  · -- the three stages behind the layers: the mandatory options, the schema and the version
    rcases hmissing : P.firstMissing? mandatoryOptions with - | option
    · rw [outcome_resolve_of_supplied hP hmissing] at h
      split at h
      · rw [unfitFailure_eq_reported (Except.error.inj h)]
        show "ConfigError" ∈ resolutionProblems
        decide
      · split at h
        · cases h
        · cases h
          show "UnsupportedVersion" ∈ resolutionProblems
          decide
    · rw [resolve_of_firstMissing hP hmissing] at h
      cases h
      show "MissingMandatoryOption" ∈ resolutionProblems
      decide

/-- What a resolution reports is a problem of settings. -/
theorem concernsSettings_of_mem {problem : Problem} (h : problem.name ∈ resolutionProblems) :
    problem.concernsSettings = true := by
  cases problem with
  | general message =>
    have hnot : "TorrentIndexError" ∉ resolutionProblems := by decide
    exact absurd h hnot
  | _ => rfl

/-! ### All failures -/

theorem overrideValue_eq_error {raw : String} (h : overrideValue raw = .error e) :
    ∃ digits, e = .longInteger digits ∧
      Toml.parseChars ("value = ".toList ++ raw.toList) = .error (.longInteger digits) := by
  rw [overrideValue] at h
  split at h
  · split at h
    · cases h
    · cases h
    · rename_i digits hstop
      exact ⟨digits, (Except.error.inj h).symm, hstop⟩
  · cases h

/-- What no report covers is a null character or an integer of too many digits. -/
theorem Escapes.cases (h : Escapes files source environment e) :
    e = .nullInPath ∨ e = .longText ∨ ∃ digits, e = .longInteger digits ∧
      Toml.digitLimit < digits := by
  cases h with
  | path hfile hnull => exact .inl rfl
  | document hholds hstop => exact .inr (.inr ⟨_, rfl, Toml.digits_of_longInteger hstop⟩)
  | override hload hsplit hbefore hspoils =>
    obtain ⟨p, -, hvalue⟩ := hspoils
    obtain ⟨digits, rfl, hstop⟩ := overrideValue_eq_error hvalue
    exact .inr (.inr ⟨digits, rfl, Toml.digits_of_longInteger hstop⟩)
  | text hP hsupplied hlong => exact .inr (.inl rfl)

/-- **How a resolution fails.**  It fails without a report in the ways of `Escapes` and, up to the
depth to which calls may nest and texts that are no lists of Unicode scalar values, in no other.
These ways are a null character in a path and integers of too many digits.  And whatever it reports
is a problem of settings, and one of four. -/
theorem resolve_failures (files : Files) (source : Source) (environment : Environment) :
    (∀ e, (resolve files source environment).outcome = .error (.escaped e) ↔
      Escapes files source environment e) ∧
    (∀ e, Escapes files source environment e → e = .nullInPath ∨ e = .longText ∨
      ∃ digits, e = .longInteger digits ∧ Toml.digitLimit < digits) ∧
    ∀ report, (resolve files source environment).outcome = .error (.reported report) →
      report.problem.concernsSettings = true ∧ report.problem.name ∈ resolutionProblems := by
  refine ⟨fun e => resolve_escaped_iff, fun e => Escapes.cases, fun report hreport => ?_⟩
  have hname := name_of_resolve hreport
  exact ⟨concernsSettings_of_mem hname, hname⟩

/-- A source whose path no file system takes. -/
def nullSource : Source := ⟨none, "a\x00b"⟩

theorem resolve_null :
    (resolve noFiles nullSource []).outcome = .error (.escaped .nullInPath) := by
  decide +kernel

/-- A null character in the path of the document ends a resolution without a report, and a
malformed document is reported. -/
theorem resolve_failures_met :
    (resolve noFiles nullSource []).outcome = .error (.escaped .nullInPath) ∧
    Escapes noFiles nullSource [] .nullInPath ∧
    ∃ report, (resolve noFiles ⟨some "a =", ""⟩ []).outcome = .error (.reported report) ∧
      report.problem.concernsSettings = true ∧ report.problem.name ∈ resolutionProblems := by
  obtain ⟨hescapes, -, -⟩ := resolve_failures noFiles nullSource []
  obtain ⟨-, -, hreports⟩ := resolve_failures noFiles ⟨some "a =", ""⟩ []
  have hmalformed : ∃ report,
      (resolve noFiles ⟨some "a =", ""⟩ []).outcome = .error (.reported report) :=
    ⟨_, by rfl⟩
  obtain ⟨report, hreport⟩ := hmalformed
  exact ⟨resolve_null, (hescapes _).1 resolve_null, report, hreport, hreports report hreport⟩

/-- Not every failure is a report: the null character in the path is not one. -/
theorem resolve_failures_unreported :
    ¬ ∀ files source environment f, (resolve files source environment).outcome = .error f →
      ∃ report, f = .reported report ∧ report.problem.concernsSettings = true := by
  intro h
  obtain ⟨report, hreport, -⟩ := h noFiles nullSource [] _ resolve_null
  cases hreport

end LayeredSettings
