/-
LayeredSettings/Proofs/Origin.lean

Where a value comes from, and whether it is there.

`origin?` asks each layer by itself, `contains` looks in the merged tree.  What
is there has an origin (`Provider.origin?_ne_none_of_contains`), but a value that
one layer holds may be hidden by a layer above that blocks its path.  This is
the only way in which the two differ (`Provider.shadowed_iff`).

The command line tells by origins which mandatory options the user supplies, the
resolution by the merged tree.  Main result: `mandatory_check_agrees_iff`.  The
two agree exactly if no mandatory option is shadowed; in
`mandatory_check_passes_shadowed` one is.
-/
import LayeredSettings.Console
import LayeredSettings.Proofs.Mandatory
import LayeredSettings.Proofs.Precedence

namespace LayeredSettings

/-! ### Origins -/

namespace Provider

variable {P : Provider} {p : Path}

theorem origin?_eq_none_iff : P.origin? p = none ↔ ∀ l ∈ P.layers, l.find? p = none := by
  simp [origin?]

theorem Highest.mem {l : Layer} (h : P.Highest p l) : l ∈ P.layers := by
  obtain ⟨below, above, hlayers, -, -⟩ := h
  simp [hlayers]

/-- What is there has an origin. -/
theorem origin?_ne_none_of_contains (hp : p ≠ []) (h : P.contains p = true) :
    P.origin? p ≠ none := by
  obtain ⟨l, hl, v, hv⟩ := (exists_find?_iff_highest hp).1 (contains_eq_true_iff.1 h)
  intro hnone
  rw [origin?_eq_none_iff.1 hnone l hl.mem] at hv
  cases hv

/-- A layer holds a value at a path, and the highest layer that touches the path blocks it. -/
def Shadowed (P : Provider) (p : Path) : Prop :=
  (∃ l ∈ P.layers, ∃ v, l.find? p = some v) ∧ ∃ l, P.Highest p l ∧ l.Blocks p

/-- A value with an origin is not there exactly if it is shadowed. -/
theorem shadowed_iff (hp : p ≠ []) :
    P.Shadowed p ↔ P.origin? p ≠ none ∧ P.contains p = false := by
  have hcontains : P.contains p = false ↔ P.find? p = none := by simp [contains]
  rw [hcontains, find?_eq_none_iff_highest hp]
  constructor
  · rintro ⟨⟨l, hl, v, hv⟩, hblocked⟩
    refine ⟨fun hnone => ?_, .inr hblocked⟩
    rw [origin?_eq_none_iff.1 hnone l hl] at hv
    cases hv
  · -- a layer holds something at the path, so it is not untouched
    rintro ⟨horigin, huntouched | hblocked⟩
    · exfalso
      refine horigin (origin?_eq_none_iff.2 fun l hl => ?_)
      exact Option.eq_none_iff_forall_ne_some.2 fun v hv => huntouched l hl (.inl ⟨v, hv⟩)
    · refine ⟨?_, hblocked⟩
      by_contra hnone
      refine horigin (origin?_eq_none_iff.2 fun l hl => ?_)
      exact Option.eq_none_iff_forall_ne_some.2 fun v hv => hnone ⟨l, hl, v, hv⟩

end Provider

/-! ### The check of the mandatory options -/

variable {files : Files} {source : Source} {environment : Environment} {P : Provider}

theorem path_of_mandatory_ne_nil : ∀ option ∈ mandatoryOptions, Path.ofText option ≠ [] := by
  decide

/-- What the check prints and how it ends, by the origins of the mandatory options. -/
theorem checkOptions_of_userProvider
    (hsource : (Source.ofEnvironment environment Source.defaultPath).outcome = .ok source)
    (hP : (userProvider files source environment).outcome = .ok P) :
    (Console.checkOptions files environment).text =
      String.join ((P.origins mandatoryOptions).map fun e => Console.originLine e ++ "\n") ∧
    ((Console.checkOptions files environment).status = 0 ↔
      ∀ option ∈ mandatoryOptions, P.origin? (Path.ofText option) ≠ none) := by
  -- the command finds the source and then the layers, which both succeed
  have hrun : ((Source.ofEnvironment environment Source.defaultPath).bind fun source =>
      userProvider files source environment).outcome = .ok P :=
    (Run.outcome_bind_of_ok hsource).trans hP
  constructor
  · simp only [Console.checkOptions, Console.Output.ofRun, Run.bind_eq, hrun,
      Console.Output.ofLines, List.map_map]
    rfl
  · simp only [Console.checkOptions, Console.Output.ofRun, Run.bind_eq, hrun,
      Console.Output.ofLines, Provider.origins, List.any_map]
    split
    · rename_i h
      simp only [List.any_eq_true, Function.comp_apply, Option.isNone_iff_eq_none] at h
      obtain ⟨option, hmem, hnone⟩ := h
      simp only [Nat.one_ne_zero, false_iff, not_forall, not_not]
      exact ⟨option, hmem, hnone⟩
    · rename_i h
      simpa using h

/-- **The check against the resolution.**  An option that the check misses is
missing for the resolution.  The other way round, the options that the two find
missing are the same exactly if no mandatory option is shadowed; and the status
of the check tells whether the resolution reports a missing option unless all
mandatory options have an origin and one of them is shadowed. -/
theorem mandatory_check_agrees_iff
    (hsource : (Source.ofEnvironment environment Source.defaultPath).outcome = .ok source)
    (hP : (userProvider files source environment).outcome = .ok P) :
    (∀ option ∈ mandatoryOptions,
      P.origin? (Path.ofText option) = none → P.contains (Path.ofText option) = false) ∧
    ((∀ option ∈ mandatoryOptions,
        (P.origin? (Path.ofText option) = none ↔ P.contains (Path.ofText option) = false)) ↔
      ∀ option ∈ mandatoryOptions, ¬ P.Shadowed (Path.ofText option)) ∧
    (((Console.checkOptions files environment).status = 0 ↔
        ¬ (resolve files source environment).ReportsMissing) ↔
      ¬ ((∀ option ∈ mandatoryOptions, P.origin? (Path.ofText option) ≠ none) ∧
        ∃ option ∈ mandatoryOptions, P.Shadowed (Path.ofText option))) := by
  -- where no layer holds the option by itself the merged tree has nothing either
  have hmissed : ∀ option ∈ mandatoryOptions,
      P.origin? (Path.ofText option) = none → P.contains (Path.ofText option) = false := by
    intro option hmem hnone
    by_contra hcontains
    exact Provider.origin?_ne_none_of_contains (path_of_mandatory_ne_nil option hmem)
      (by simpa using hcontains) hnone
  -- what is left is an option that one layer holds and a higher one blocks
  have hshadowed : ∀ option ∈ mandatoryOptions, (P.Shadowed (Path.ofText option) ↔
      P.origin? (Path.ofText option) ≠ none ∧ P.contains (Path.ofText option) = false) :=
    fun option hmem => Provider.shadowed_iff (path_of_mandatory_ne_nil option hmem)
  refine ⟨hmissed, ?_, ?_⟩
  · constructor
    · intro hagree option hmem hs
      obtain ⟨horigin, habsent⟩ := (hshadowed option hmem).1 hs
      exact horigin ((hagree option hmem).2 habsent)
    · intro hclear option hmem
      refine ⟨hmissed option hmem, fun habsent => ?_⟩
      by_contra horigin
      exact hclear option hmem ((hshadowed option hmem).2 ⟨horigin, habsent⟩)
  · rw [(checkOptions_of_userProvider hsource hP).2, reportsMissing_resolve_iff hP]
    constructor
    · rintro hagree ⟨hall, option, hmem, hs⟩
      exact hagree.1 hall ⟨option, hmem, ((hshadowed option hmem).1 hs).2⟩
    · intro hclear
      constructor
      · rintro hall ⟨option, hmem, habsent⟩
        exact hclear ⟨hall, option, hmem, (hshadowed option hmem).2 ⟨hall option hmem, habsent⟩⟩
      · intro hpresent option hmem hnone
        exact hpresent ⟨option, hmem, hmissed option hmem hnone⟩

/-- The layer of the least document. -/
def leastLayer : Layer :=
  ⟨"inline", [("metadata", .table [("schema_version", .text "2.0.0")]),
    ("logging", .table [("threshold", .text "debug")]),
    ("auth", .table [("user_claim_token_pepper", .text "p")]),
    ("tracker", .table [("token", .text "t")])]⟩

/-- The least document and nothing over it: the check and the resolution agree. -/
theorem mandatory_check_agrees_least :
    let environment : Environment := [(Source.inlineVariable, leastText)]
    (Source.ofEnvironment environment Source.defaultPath).outcome = .ok leastSource ∧
    (userProvider noFiles leastSource environment).outcome
      = .ok ⟨[leastLayer, ⟨"env-overrides", []⟩]⟩ ∧
    ((Console.checkOptions noFiles environment).status = 0 ↔
      ¬ (resolve noFiles leastSource environment).ReportsMissing) := by
  intro environment
  have hsource : (Source.ofEnvironment environment Source.defaultPath).outcome
      = .ok leastSource := by decide +kernel
  have hP : (userProvider noFiles leastSource environment).outcome
      = .ok ⟨[leastLayer, ⟨"env-overrides", []⟩]⟩ := by decide +kernel
  refine ⟨hsource, hP, (mandatory_check_agrees_iff hsource hP).2.2.2 ?_⟩
  rintro ⟨-, option, hmem, hs⟩
  rw [Provider.shadowed_iff (path_of_mandatory_ne_nil option hmem)] at hs
  have hclear : ∀ option ∈ mandatoryOptions,
      Provider.contains ⟨[leastLayer, ⟨"env-overrides", []⟩]⟩ (Path.ofText option) = true := by
    decide
  rw [hclear option hmem] at hs
  cases hs.2

/-- A variable that puts a text over a whole section hides the mandatory option in it: the check
finds all options supplied, and the resolution reports the hidden one as missing. -/
theorem mandatory_check_passes_shadowed :
    let environment : Environment :=
      [("TORRUST_INDEX_CONFIG_OVERRIDE_TRACKER", "off"), (Source.inlineVariable, leastText)]
    let P : Provider := ⟨[leastLayer, ⟨"env-overrides", [("tracker", .text "off")]⟩]⟩
    (Source.ofEnvironment environment Source.defaultPath).outcome = .ok leastSource ∧
    (userProvider noFiles leastSource environment).outcome = .ok P ∧
    P.origin? (Path.ofText "tracker.token") = some "inline" ∧
    P.contains (Path.ofText "tracker.token") = false ∧
    (Console.checkOptions noFiles environment).status = 0 ∧
    (resolve noFiles leastSource environment).outcome =
      .error (.reported (Report.of (.missingOption "tracker.token") none)) := by
  intro environment P
  have hsource : (Source.ofEnvironment environment Source.defaultPath).outcome
      = .ok leastSource := by decide +kernel
  have hsorted : environment.sorted = environment := List.mergeSort_of_pairwise (by decide)
  have hoverrides : (collectOverrides environment overridePrefix overrideSeparator).outcome
      = .ok ⟨"env-overrides", [("tracker", .text "off")]⟩ := by
    rw [collectOverrides, hsorted]
    decide +kernel
  have hP : (userProvider noFiles leastSource environment).outcome = .ok P :=
    userProvider_eq_ok_iff.2 ⟨leastLayer, _, by decide +kernel, hoverrides, rfl⟩
  have horigins : ∀ option ∈ mandatoryOptions, P.origin? (Path.ofText option) ≠ none := by
    decide
  -- the text in place of the table blocks the token
  have hfirst : P.firstMissing? mandatoryOptions = some "tracker.token" := by decide
  exact ⟨hsource, hP, by decide, by decide, (checkOptions_of_userProvider hsource hP).2.2 horigins,
    resolve_of_firstMissing hP hfirst⟩

end LayeredSettings
