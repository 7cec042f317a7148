/-
LayeredSettings/Proofs/Mandatory.lean

Mandatory options are looked for before there are defaults.

The check sees the two layers of the user; the schema reads a tree of three,
with the defaults below.  Main result: `resolve_mandatory_before_default`.  An
option that the user does not supply ends the resolution, although the defaults
hold a value for it; and what a resolution that succeeds has read at a mandatory
option is what the user supplied.

The second half rests on two facts.  A layer that joins below all others only
fills gaps (`Provider.find?_join`), but a table of the user may still gain keys;
and a mandatory option is an option of the schema (`schema_of_mandatory`), which
is never filled with a table.
-/
import LayeredSettings.Proofs.Joining
import LayeredSettings.Proofs.Reading
import LayeredSettings.Proofs.Stages

namespace LayeredSettings

variable {files : Files} {source : Source} {environment : Environment} {P : Provider}

/-! ### Mandatory options -/

/-- The schema has an option at each mandatory path. -/
theorem schema_of_mandatory {option : String} (h : option ∈ mandatoryOptions) :
    ∃ kind presence initial,
      Settings.schema.below? (Path.ofText option) = some (.option kind presence initial) := by
  simp only [mandatoryOptions, List.mem_cons, List.not_mem_nil, or_false] at h
  rcases h with rfl | rfl | rfl | rfl <;> exact ⟨_, _, _, rfl⟩

/-- The defaults hold a value for each mandatory option. -/
theorem defaults_of_mandatory :
    ∀ option ∈ mandatoryOptions,
      (defaultsLayer.find? (Path.ofText option)).isSome = true := by
  decide

theorem Provider.contains_eq_true_iff {p : Path} :
    P.contains p = true ↔ ∃ v, P.find? p = some v := by
  rw [Provider.contains, Option.isSome_iff_exists]

/-- The first missing option stands behind supplied ones only. -/
theorem Provider.firstMissing?_eq_some_iff {options : List String} {option : String} :
    P.firstMissing? options = some option ↔
      P.contains (Path.ofText option) = false ∧
        ∃ before after, options = before ++ option :: after ∧
          ∀ o ∈ before, P.contains (Path.ofText o) = true := by
  simp [Provider.firstMissing?, List.find?_eq_some_iff_append]

theorem Provider.firstMissing?_eq_none_iff {options : List String} :
    P.firstMissing? options = none ↔ ∀ o ∈ options, P.contains (Path.ofText o) = true := by
  simp [Provider.firstMissing?]

/-! ### No default stands in -/

/-- What a tree that fits holds at a mandatory option is what the layers above the defaults
hold there. -/
theorem find?_join_of_mandatory {l : Layer} {d : Document} {option : String} {v : Value}
    (hread : Settings.read (.table (P.join l).merged) = .ok d) (h : option ∈ mandatoryOptions)
    (hv : P.find? (Path.ofText option) = some v) :
    (P.join l).find? (Path.ofText option) = some v := by
  rcases ht : v.isTable with - | -
  · exact Provider.find?_join hv ht l
  · -- a table would still be one with the layer below, and no option is filled with a table
    exfalso
    obtain ⟨w, hw, hwt⟩ := Provider.exists_find?_join hv ht l
    obtain ⟨kind, presence, initial, hschema⟩ := schema_of_mandatory h
    have hn : w.isTable = false := Schema.not_table_of_read hread hschema hw
    rw [hwt] at hn
    cases hn

/-- **Mandatory before default.**  With an option missing in the layers of the
user, the resolution reports the first such option; and if it succeeds, the tree
that the schema read holds at each mandatory option what the user supplied. -/
theorem resolve_mandatory_before_default
    (hP : (userProvider files source environment).outcome = .ok P) :
    ((∃ option ∈ mandatoryOptions, P.contains (Path.ofText option) = false) →
      ∃ before option after, mandatoryOptions = before ++ option :: after ∧
        (∀ o ∈ before, P.contains (Path.ofText o) = true) ∧
        P.contains (Path.ofText option) = false ∧
        (defaultsLayer.find? (Path.ofText option)).isSome = true ∧
        (resolve files source environment).outcome =
          .error (.reported (Report.of (.missingOption option) none))) ∧
    (∀ r, (resolve files source environment).outcome = .ok r →
      r.provider = P ∧
      Settings.read (.table (P.join defaultsLayer).merged) = .ok r.document ∧
      ∀ option ∈ mandatoryOptions, ∃ v,
        P.find? (Path.ofText option) = some v ∧
        (P.join defaultsLayer).find? (Path.ofText option) = some v) := by
  constructor
  · rintro ⟨missing, hmem, habsent⟩
    -- an option is missing, so there is a first one
    have hsome : P.firstMissing? mandatoryOptions ≠ none := by
      intro hnone
      rw [Provider.firstMissing?_eq_none_iff] at hnone
      rw [hnone missing hmem] at habsent
      cases habsent
    obtain ⟨option, hfirst⟩ := Option.ne_none_iff_exists'.1 hsome
    obtain ⟨hoption, before, after, hsplit, hbefore⟩ :=
      Provider.firstMissing?_eq_some_iff.1 hfirst
    have hdefault := defaults_of_mandatory option (by simp [hsplit])
    exact ⟨before, option, after, hsplit, hbefore, hoption, hdefault,
      resolve_of_firstMissing hP hfirst⟩
  · intro r hr
    obtain ⟨hprovider, hmissing, hread, -⟩ := resolve_eq_ok_iff.1 hr
    obtain rfl : P = r.provider := Except.ok.inj (hP.symm.trans hprovider)
    refine ⟨rfl, hread, fun option hmem => ?_⟩
    obtain ⟨v, hv⟩ := Provider.contains_eq_true_iff.1
      (Provider.firstMissing?_eq_none_iff.1 hmissing option hmem)
    exact ⟨v, hv, find?_join_of_mandatory hread hmem hv⟩

/-- A system without files. -/
def noFiles : Files := fun _ => .error .missing

/-- A document with a wrong version and a misfit, and without three mandatory options. -/
def poorSource : Source := ⟨some "metadata.schema_version = '1'\nmail = 'off'\n", ""⟩

/-- A document with the mandatory options and nothing else. -/
def leastText : String :=
  "metadata.schema_version = '2.0.0'\nlogging.threshold = 'debug'\n" ++
  "auth.user_claim_token_pepper = 'p'\ntracker.token = 't'\n"

/-- The least document, given as it is. -/
def leastSource : Source := ⟨some leastText, Source.defaultPath⟩

/-- The layers of the user for the poor document. -/
def poorProvider : Provider :=
  ⟨[⟨"inline", [("metadata", .table [("schema_version", .text "1")]), ("mail", .text "off")]⟩,
    ⟨"env-overrides", []⟩]⟩

/-- The poor document is reported for its first missing option only, and the least one is
resolved with the threshold of the user in place of the default. -/
theorem resolve_poor_and_least :
    ((userProvider noFiles poorSource []).outcome = .ok poorProvider ∧
      (∃ option ∈ mandatoryOptions, poorProvider.contains (Path.ofText option) = false) ∧
      (resolve noFiles poorSource []).outcome =
        .error (.reported (Report.of (.missingOption "auth.user_claim_token_pepper") none))) ∧
    (∃ r, (userProvider noFiles leastSource []).outcome = .ok r.provider ∧
      (resolve noFiles leastSource []).outcome = .ok r ∧
      ∃ v, r.provider.find? (Path.ofText "logging.threshold") = some v ∧
        (r.provider.join defaultsLayer).find? (Path.ofText "logging.threshold") = some v) := by
  have hpoor : (userProvider noFiles poorSource []).outcome = .ok poorProvider := by
    decide +kernel
  have habsent : ∃ option ∈ mandatoryOptions,
      poorProvider.contains (Path.ofText option) = false := by decide
  refine ⟨⟨hpoor, habsent, ?_⟩, ?_⟩
  · obtain ⟨before, option, after, hsplit, hbefore, -, -, hreport⟩ :=
      (resolve_mandatory_before_default hpoor).1 habsent
    -- the first mandatory option is missing already
    rcases before with - | ⟨first, rest⟩
    · obtain rfl : "auth.user_claim_token_pepper" = option := (List.cons.inj hsplit).1
      exact hreport
    · obtain rfl : "auth.user_claim_token_pepper" = first := (List.cons.inj hsplit).1
      exact absurd (hbefore _ List.mem_cons_self) (by decide)
  · obtain ⟨r, hr⟩ : ∃ r, (resolve noFiles leastSource []).outcome = .ok r :=
      exists_eq_ok_of_isOk (by decide +kernel)
    have hP := (resolve_eq_ok_iff.1 hr).1
    exact ⟨r, hP, hr,
      ((resolve_mandatory_before_default hP).2 r hr).2.2 "logging.threshold" (by decide)⟩

end LayeredSettings
