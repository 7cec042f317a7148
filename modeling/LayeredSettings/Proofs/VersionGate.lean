/-
LayeredSettings/Proofs/VersionGate.lean

The gate for the version of a document.

The version is an option of text, so a number may be declared too and counts by
its text.  But no number has the text of the version that is read, which has two
points: an integer has none in its text, and any other number has one at most
(`Value.count_point_numeral?`).  Since the version is mandatory, what the document
declares is what the user supplied, and the default that is equal to the version
never stands in.

Main result: `resolve_version_gate`.
-/
import LayeredSettings.Proofs.Kinds
import LayeredSettings.Proofs.Mandatory

namespace LayeredSettings

/-! ### Points in the texts of numbers -/

theorem point_notMem_toDigits (n : Nat) : '.' ∉ Nat.toDigits 10 n := by
  intro h
  have hdigit := Nat.isDigit_of_mem_toDigits (by decide) (by decide) h
  exact absurd hdigit (by decide)

theorem count_point_integerText (n : Int) : (integerText n).toList.count '.' = 0 := by
  rw [integerText, String.toList_ofList, List.count_eq_zero]
  split
  · simpa using point_notMem_toDigits n.natAbs
  · exact point_notMem_toDigits n.natAbs

namespace Binary64

variable {ds : List Char}

theorem point_notMem_leading (d : Decimal) : '.' ∉ d.leading.1 := by
  intro h
  rw [Decimal.leading, List.mem_reverse] at h
  have hmem := (List.dropWhile_sublist _).subset h
  exact point_notMem_toDigits d.digits (List.mem_reverse.1 hmem)

theorem count_point_replicate (n : Nat) : (List.replicate n '0').count '.' = 0 := by
  simp [List.count_replicate]

theorem count_point_positional (h : '.' ∉ ds) (k : Int) : (positional ds k).count '.' = 1 := by
  have hds : ds.count '.' = 0 := List.count_eq_zero.2 h
  rw [positional]
  split
  · simp [List.count_append, count_point_replicate, hds]
  · -- the digits are padded with zeros and cut where the point goes
    have hpadded : '.' ∉ ds ++ List.replicate (k.toNat + 1 - ds.length) '0' := by
      simp [h]
    have hwhole := List.count_eq_zero.2 fun hmem =>
      hpadded ((List.take_sublist (k.toNat + 1) _).subset hmem)
    have hfraction := List.count_eq_zero.2 fun hmem =>
      hpadded ((List.drop_sublist (k.toNat + 1) _).subset hmem)
    simp only [List.count_append, List.count_cons, hwhole]
    split
    · rfl
    · simp [hfraction]

theorem count_point_exponentText (k : Int) : (exponentText k).count '.' = 0 := by
  have hds := List.count_eq_zero.2 (point_notMem_toDigits k.natAbs)
  rw [exponentText]
  split <;> simp [List.count_append, count_point_replicate, hds]

theorem count_point_scientific (h : '.' ∉ ds) (k : Int) :
    (scientific ds k).count '.' ≤ 1 := by
  have hds : ds.count '.' = 0 := List.count_eq_zero.2 h
  rw [scientific.eq_def]
  split
  · -- several digits: one point stands behind the first of them
    rename_i d r rs
    have hrest : (r :: rs).count '.' = 0 := List.count_eq_zero.2 (List.not_mem_of_not_mem_cons h)
    have hd : d ≠ '.' := Ne.symm (List.ne_of_not_mem_cons h)
    rw [List.cons_append, List.count_cons_of_ne hd, List.cons_append, List.count_cons_self,
      List.count_append, hrest, count_point_exponentText]
  · rw [List.count_append, hds, count_point_exponentText]
    exact Nat.zero_le 1

theorem count_point_text (x : Binary64) : x.text.toList.count '.' ≤ 1 := by
  rcases x with - | negative | ⟨negative, m, e⟩
  · decide
  · cases negative <;> decide
  · have hdigits := point_notMem_leading (shortest m e)
    -- a sign in front adds no point
    have hsigned : ∀ body : List Char, body.count '.' ≤ 1 →
        (if negative then '-' :: body else body).count '.' ≤ 1 := by
      intro body hbody
      split
      · rwa [List.count_cons_of_ne (by decide)]
      · exact hbody
    rw [text, String.toList_ofList]
    apply hsigned
    split
    · decide
    · dsimp only
      split
      · exact (count_point_positional hdigits _).le
      · exact count_point_scientific hdigits _

end Binary64

namespace Value

/-- The text of a number has one point at most. -/
theorem count_point_numeral? {v : Value} {s : String} (h : v.numeral? = some s) :
    s.toList.count '.' ≤ 1 := by
  -- an integer has no point, and a number with a fraction at most one
  cases v with
  | integer n =>
    rw [numeral?] at h
    split at h
    · cases h
    · rw [← Option.some.inj h, count_point_integerText]
      exact Nat.zero_le 1
  | float x =>
    rw [numeral?] at h
    rw [← Option.some.inj h]
    exact x.count_point_text
  | _ => cases h

/-- No number declares the version that is read. -/
theorem numeral?_ne_supportedVersion {v : Value} :
    v.numeral? ≠ some Settings.supportedVersion := by
  intro h
  exact absurd (count_point_numeral? h) (by decide)

/-- The text that a value becomes as an option of text: a text as it is, and a number as its
decimal text. -/
def asText? : Value → Option String
  | .text s => some s
  | v => v.numeral?

theorem asText?_eq_supportedVersion {v : Value} :
    v.asText? = some Settings.supportedVersion ↔ v = .text Settings.supportedVersion := by
  constructor
  · intro h
    cases v with
    | text s => exact congrArg text (Option.some.inj h)
    -- the version has two points, which no number has
    | _ =>
      rw [asText?] at h
      · exact absurd h numeral?_ne_supportedVersion
      · nofun
  · rintro rfl
    rfl

/-- What an option of text is filled with is the text that the value becomes. -/
theorem asText?_of_readText {overlong : Misfit} {v w : Value}
    (h : Kind.readText overlong v = .ok w) : ∃ s, w = .text s ∧ v.asText? = some s := by
  obtain ⟨s, hw, hs⟩ := Kind.readText_eq_ok h
  refine ⟨s, hw, ?_⟩
  rcases hs with rfl | hs
  · rfl
  · cases v with
    | text t => cases hs
    | _ => exact hs

end Value

/-! ### The gate -/

namespace Settings

/-- Where the version of a document is. -/
def versionPath : Path := ["metadata", "schema_version"]

/-- A document declares the version that the value in its tree becomes. -/
theorem version_of_read {t : Table} {d : Document} {v : Value}
    (hread : read (.table t) = .ok d) (hv : t.find? versionPath = some v) :
    v.asText? = some (version d) := by
  -- the version is a plain option of text
  have hschema : schema.below? versionPath =
      some (.option .text .required (.text supportedVersion)) := rfl
  obtain ⟨w, hw, hfind⟩ := Schema.find?_read hread hschema hv
  rw [Schema.read] at hw
  obtain ⟨-, hpresence⟩ | ⟨-, hkind⟩ := Schema.readOption_eq_ok hw
  · exact absurd rfl hpresence
  · rw [Kind.read] at hkind
    obtain ⟨s, rfl, hs⟩ := Value.asText?_of_readText hkind
    have hversion : version d = s := by
      rw [version, textAt, textAt?, show d.find? ["metadata", "schema_version"] = _ from hfind]
      rfl
    rw [hs, hversion]

end Settings

variable {files : Files} {source : Source} {environment : Environment} {P : Provider}

/-- **The version gate.**  A resolution that succeeds found the very text of the version that is
read in the layers of the user.  And where these supply all mandatory options and the tree with the
defaults below fits the schema, the value of the user becomes a text; with the version that is read
the resolution succeeds, and any other text is what it reports. -/
theorem resolve_version_gate (hP : (userProvider files source environment).outcome = .ok P) :
    (∀ r, (resolve files source environment).outcome = .ok r →
      P.find? Settings.versionPath = some (.text Settings.supportedVersion)) ∧
    ∀ d, (∀ option ∈ mandatoryOptions, P.contains (Path.ofText option) = true) →
      Settings.read (.table (P.join defaultsLayer).merged) = .ok d →
      ∃ v t, P.find? Settings.versionPath = some v ∧ v.asText? = some t ∧
        (t = Settings.supportedVersion →
          (resolve files source environment).outcome = .ok ⟨d, P⟩) ∧
        (t ≠ Settings.supportedVersion →
          (resolve files source environment).outcome =
            .error (.reported (Report.of (.unsupportedVersion t) none))) := by
  -- what the user gives for the version is what the document declares: the defaults lie below it
  have hversion : ∀ d, P.contains Settings.versionPath = true →
      Settings.read (.table (P.join defaultsLayer).merged) = .ok d →
      ∃ v, P.find? Settings.versionPath = some v ∧ v.asText? = some (Settings.version d) := by
    intro d hsupplied hread
    obtain ⟨v, hv⟩ := Provider.contains_eq_true_iff.1 hsupplied
    have hmandatory : "metadata.schema_version" ∈ mandatoryOptions := by decide
    have hjoined : (P.join defaultsLayer).find? Settings.versionPath = some v :=
      find?_join_of_mandatory hread hmandatory hv
    exact ⟨v, hv, Settings.version_of_read hread hjoined⟩
  refine ⟨fun r hr => ?_, fun d hsupplied hread => ?_⟩
  · obtain ⟨hprovider, hmissing, hread, hsupported⟩ := resolve_eq_ok_iff.1 hr
    obtain rfl : P = r.provider := Except.ok.inj (hP.symm.trans hprovider)
    have hsupplied := Provider.firstMissing?_eq_none_iff.1 hmissing "metadata.schema_version"
      (by decide)
    obtain ⟨v, hv, htext⟩ := hversion r.document hsupplied hread
    rw [hsupported, Value.asText?_eq_supportedVersion] at htext
    rw [hv, htext]
  · obtain ⟨v, hv, htext⟩ := hversion d (hsupplied "metadata.schema_version" (by decide)) hread
    have hmissing := Provider.firstMissing?_eq_none_iff.2 hsupplied
    refine ⟨v, Settings.version d, hv, htext, fun hsupported => ?_, fun hother => ?_⟩
    · rw [outcome_resolve_of_supplied hP hmissing, hread]
      exact if_pos hsupported
    · rw [outcome_resolve_of_supplied hP hmissing, hread]
      exact if_neg hother

/-- A document with the mandatory options, of which the version is a number. -/
def numberedSource : Source :=
  ⟨some ("metadata.schema_version = 2.0\nlogging.threshold = 'debug'\n" ++
    "auth.user_claim_token_pepper = 'p'\ntracker.token = 't'\n"), Source.defaultPath⟩

/-- The layers of the user for this document. -/
def numberedProvider : Provider :=
  ⟨[⟨"inline",
    [("metadata", .table [("schema_version", .float (.finite false 4503599627370496 (-51)))]),
      ("logging", .table [("threshold", .text "debug")]),
      ("auth", .table [("user_claim_token_pepper", .text "p")]),
      ("tracker", .table [("token", .text "t")])]⟩,
    ⟨"env-overrides", []⟩]⟩

/-- The least document passes the gate with the text of the version, and the one with a number is
reported for the text of the number. -/
theorem resolve_version_gate_numbered :
    (∃ r, (userProvider noFiles leastSource []).outcome = .ok r.provider ∧
      (resolve noFiles leastSource []).outcome = .ok r ∧
      r.provider.find? Settings.versionPath = some (.text Settings.supportedVersion)) ∧
    (userProvider noFiles numberedSource []).outcome = .ok numberedProvider ∧
    (∀ option ∈ mandatoryOptions, numberedProvider.contains (Path.ofText option) = true) ∧
    (∃ d, Settings.read (.table (numberedProvider.join defaultsLayer).merged) = .ok d) ∧
    (resolve noFiles numberedSource []).outcome =
      .error (.reported (Report.of (.unsupportedVersion "2.0") none)) := by
  refine ⟨?_, ?_⟩
  · obtain ⟨r, hr⟩ : ∃ r, (resolve noFiles leastSource []).outcome = .ok r :=
      exists_eq_ok_of_isOk (by decide +kernel)
    have hP := (resolve_eq_ok_iff.1 hr).1
    exact ⟨r, hP, hr, (resolve_version_gate hP).1 r hr⟩
  · have hP : (userProvider noFiles numberedSource []).outcome = .ok numberedProvider := by
      decide +kernel
    have hsupplied : ∀ option ∈ mandatoryOptions,
        numberedProvider.contains (Path.ofText option) = true := by decide
    obtain ⟨d, hd⟩ : ∃ d, Settings.read (.table (numberedProvider.join defaultsLayer).merged)
        = .ok d := exists_eq_ok_of_isOk (by decide +kernel)
    obtain ⟨v, t, hv, ht, -, hother⟩ := (resolve_version_gate hP).2 d hsupplied hd
    -- the float that is nearest to 2.0, whose text has one zero behind the point
    have hfind : numberedProvider.find? Settings.versionPath
        = some (.float (.finite false 4503599627370496 (-51))) := by decide +kernel
    obtain rfl := Option.some.inj (hv.symm.trans hfind)
    have htext : t = "2.0" := Option.some.inj (ht.symm.trans (by decide +kernel))
    rw [htext] at hother
    exact ⟨hP, hsupplied, ⟨d, hd⟩, hother (by decide)⟩

end LayeredSettings
