/-
LayeredSettings/Proofs/Ignoring.lean

Overrides for options that do not exist.

One more variable is one more assignment somewhere in the order of names
(`collectOverrides_cons`), so the merged trees differ at its path alone, and they
describe the same document unless the path is one of the exceptions of
`Schema.Harmless`.  For the settings these are paths that open a section that is
unset (`Settings.OpensUnset`), and the field of the sender of mail.  Both are
real: see `resolve_unknown_override_obeyed`.

No mandatory option is lost on the way, so if there is no document, it is the
reading of the tree that fails.  Main result: `resolve_unknown_override`.
-/
import LayeredSettings.Proofs.Provenance
import LayeredSettings.Proofs.TextLimit
import Mathlib.Data.List.Infix

namespace LayeredSettings

/-! ### One more variable -/

section

open Value (Astray)

variable {start separator : String} {entry : String × String} {entries : List (String × String)}
  {environment : Environment} {c b c' : Collected} {p : Path} {x : Value} {escape : Escape}

theorem astray_assign {s t : Table} {q : Path} (h : Astray x p (some (.table s)) (some (.table t)))
    (hq : q ≠ []) (y : Value) :
    Astray x p (some (.table (Table.assign s q y))) (some (.table (Table.assign t q y))) := by
  rcases q with - | ⟨key, rest⟩
  · exact absurd rfl hq
  · exact h.assigned (key :: rest) y

/-- Variables that follow keep the difference. -/
theorem Collected.takeAll_astray
    (h : Astray x p (some (.table c.tree)) (some (.table b.tree)))
    (hall : (takeAll start separator entries c).outcome = .ok c') :
    ∃ b', (takeAll start separator entries b).outcome = .ok b' ∧
      Astray x p (some (.table c'.tree)) (some (.table b'.tree)) := by
  induction entries generalizing c b with
  | nil =>
    obtain rfl := Except.ok.inj hall
    exact ⟨b, rfl, h⟩
  | cons e entries ih =>
    simp only [takeAll, Run.bind_eq, Run.outcome_bind_eq_ok] at hall ⊢
    obtain ⟨c₁, htake, hrest⟩ := hall
    -- both trees get the same assignment, after which one still differs from the other below the
    -- path only
    rcases take_eq_ok htake with ⟨hnone, rfl⟩ | ⟨q, y, hq, hy, rfl⟩
    · obtain ⟨b', hb', hastray⟩ := ih h hrest
      exact ⟨b', ⟨b, by rw [outcome_take, hnone], hb'⟩, hastray⟩
    · obtain ⟨b', hb', hastray⟩ :=
        ih (b := ⟨b.tree.assign q y, b.paths ++ [q]⟩)
          (astray_assign h (overridePath?_ne_nil hq) y) hrest
      exact ⟨b', ⟨_, by rw [outcome_take, hq, hy], hb'⟩, hastray⟩

/-- A variable more is an assignment more, before those that follow in the order of names. -/
theorem collectOverrides_cons {l : Layer}
    (h : (collectOverrides environment start separator).outcome = .ok l)
    (hp : overridePath? start separator entry.1 = .ok (some p)) :
    (∀ x, overrideValue entry.2 = .ok x →
      ∃ l', (collectOverrides (entry :: environment) start separator).outcome = .ok l' ∧
        Astray x p (some (.table l.data)) (some (.table l'.data))) ∧
    (∀ e, overrideValue entry.2 = .error e →
      (collectOverrides (entry :: environment) start separator).outcome
        = .error (.escaped e)) := by
  obtain ⟨c, hall, rfl⟩ := collectOverrides_eq_ok_iff.1 h
  obtain ⟨before, after, hmore, hsorted⟩ := Environment.sorted_cons entry environment
  rw [hsorted, Collected.takeAll_append] at hall
  obtain ⟨m, hbefore, hafter⟩ := hall
  refine ⟨fun x hx => ?_, fun e he => ?_⟩
  · -- the variables before it are taken alike; then it assigns its value, and the others follow on
    -- both trees
    have hassigned : Astray x p (some (.table m.tree)) (some (.table (m.tree.assign p x))) := by
      rcases p with - | ⟨key, rest⟩
      · exact .stop _ _
      · exact Value.astray_assigned (key :: rest) (some (.table m.tree)) x
    obtain ⟨b, hb, hastray⟩ :=
      Collected.takeAll_astray (b := ⟨m.tree.assign p x, m.paths ++ [p]⟩) hassigned hafter
    refine ⟨_, collectOverrides_eq_ok_iff.2 ⟨b, ?_, rfl⟩, hastray⟩
    rw [hmore, Collected.outcome_takeAll_append _ _ hbefore, Collected.takeAll, Run.bind_eq,
      Run.outcome_bind_of_ok (by rw [Collected.outcome_take, hp, hx])]
    exact hb
  · -- the variables before it are taken as before, and then the collection stops
    rw [collectOverrides, Run.bind_eq]
    apply Run.outcome_bind_of_error
    rw [hmore, Collected.outcome_takeAll_append _ _ hbefore, Collected.takeAll, Run.bind_eq]
    apply Run.outcome_bind_of_error
    rw [Collected.outcome_take, hp, he]

end

/-! ### Unknown paths -/

namespace Settings

/-- A path leads into a section by a key that no member of the section has, and the section, or
one around it, is unset in a document. -/
def OpensUnset (d : Document) (p : Path) : Prop :=
  ∃ q key rest title optional members, p = q ++ key :: rest ∧
    schema.below? q = some (.group title optional members) ∧
    schema.below? (q ++ [key]) = none ∧ ∃ o, o <+: q ∧ d.find? o = some .null

theorem harmless_of_not_opensUnset {d : Document} {p : Path} {v : Option Value}
    (hp : schema.below? p = none) (hset : ¬ OpensUnset d p)
    (hsender : ["mail", "from_"] <+: p → (v.bind (Value.find? ["mail", "from"])).isSome) :
    schema.Harmless p v d := by
  refine ⟨fun r title members hr hsection hnull => ?_, fun a ha => ?_, fun a ha hprefix => ?_⟩
  · refine (Schema.belowOption_or_unknown hp).resolve_right ?_
    rintro ⟨q, key, rest, title', optional', members', rfl, hq, hunknown⟩
    -- the section that is unset lies on the way to the unknown key
    have hrq : r <+: q := by
      have hqp : q ++ [key] <+: q ++ key :: rest := ⟨rest, by simp⟩
      rcases List.prefix_or_prefix_of_prefix hr hqp with hprefix | ⟨tail, rfl⟩
      · rcases List.prefix_concat_iff.1 hprefix with rfl | hprefix
        · rw [hunknown] at hsection
          cases hsection
        · exact hprefix
      · rw [Schema.below?_append, hunknown] at hsection
        cases hsection
    exact hset ⟨q, key, rest, title', optional', members', rfl, hq, hunknown, r, hrq, hnull⟩
  · rw [aliases_schema, List.mem_singleton] at ha
    subst ha
    exact ⟨.text, .required, initialSender, rfl⟩
  · rw [aliases_schema, List.mem_singleton] at ha
    subst ha
    exact hsender hprefix

end Settings

/-! ### The resolution with one more variable -/

section

open Value (Astray Strays mergeOptional)

variable {files : Files} {source : Source} {environment : Environment}
  {entry : String × String} {r : Resolution} {L O O' : Layer} {P : Provider} {p : Path}
  {x : Value} {d : Document}

/-- What merged trees hold at a path that the difference does not lie on is still there. -/
theorem Provider.contains_merge_astray {q : Path}
    (h : Astray x p (some (.table O.data)) (some (.table O'.data))) (hq : ¬ p <+: q)
    (hheld : (P.merge O).contains q = true) : (P.merge O').contains q = true := by
  have hstrays := h.merge (some (.table P.merged))
  simp only [mergeOptional, Value.merge_table] at hstrays
  rw [contains, find?, merged_merge, Table.find?] at hheld ⊢
  exact hstrays.isSome_find? hq hheld

theorem Provider.read_merge_astray
    (h : Astray x p (some (.table O.data)) (some (.table O'.data)))
    (hp : Settings.schema.below? p = none)
    (hread : Settings.read (.table (P.merge O).merged) = .ok d)
    (hset : ¬ Settings.OpensUnset d p)
    (hsender : ["mail", "from_"] <+: p → (P.merge O).contains ["mail", "from"] = true)
    {e : Document} (he : Settings.read (.table (P.merge O').merged) = .ok e) : e = d := by
  have hstrays := h.merge (some (.table P.merged))
  simp only [mergeOptional, Value.merge_table, ← merged_merge] at hstrays
  exact Settings.schema_sound.read_strays hstrays hp
    (Settings.harmless_of_not_opensUnset hp hset hsender) hread he

/-- No option of text meets an integer that is too long for it, if none did before. -/
theorem Provider.holdsOverlong_merge_astray
    (h : Astray x p (some (.table O.data)) (some (.table O'.data)))
    (hp : Settings.schema.below? p = none)
    (hread : Settings.read (.table (P.merge O).merged) = .ok d)
    (hset : ¬ Settings.OpensUnset d p)
    (hsender : ["mail", "from_"] <+: p → (P.merge O).contains ["mail", "from"] = true)
    (hnull : (Value.table (P.merge O).merged).NullFree) {issues : List Issue}
    (hissues : Settings.read (.table (P.merge O').merged) = .error issues) :
    holdsOverlong issues = false := by
  have hstrays := h.merge (some (.table P.merged))
  simp only [mergeOptional, Value.merge_table, ← merged_merge] at hstrays
  -- what strays at an unknown path is harmless, so it brings no integer of too many digits to an
  -- option
  have hnot : ¬ Settings.schema.Overlong (.table (P.merge O').merged) :=
    Settings.schema_sound.not_overlong_of_strays hstrays hp
      (Settings.harmless_of_not_opensUnset hp hset hsender)
      (fun u hu => Option.some.inj hu ▸ hnull) hread
  rcases hlong : holdsOverlong issues with - | -
  · rfl
  · exact absurd (Schema.overlongs_read_iff.1 ⟨issues, hissues, hlong⟩) hnot

/-- A mandatory option does not lie behind a path that the schema does not know. -/
theorem not_prefix_of_mandatory {option : String} (hp : Settings.schema.below? p = none)
    (h : option ∈ mandatoryOptions) : ¬ p <+: Path.ofText option := by
  rintro ⟨rest, hrest⟩
  obtain ⟨kind, presence, initial, hschema⟩ := schema_of_mandatory h
  rw [← hrest, Schema.below?_append, hp] at hschema
  cases hschema

/-- **A variable for an option that does not exist.**  Let a resolution succeed, and let one more
variable override a path that the schema does not know.  If its text writes an integer that is too
long, the resolution fails with that.  Else it describes the same document or reports that the tree
does not fit; unless the path opens a section that is unset, or goes through the field of the
sender of mail while the sender is not there under its key. -/
theorem resolve_unknown_override
    (hr : (resolve files source environment).outcome = .ok r)
    (hp : overridePath? overridePrefix overrideSeparator entry.1 = .ok (some p))
    (hunknown : Settings.schema.below? p = none) :
    (∀ e, overrideValue entry.2 = .error e →
      (resolve files source (entry :: environment)).outcome = .error (.escaped e)) ∧
    (∀ x, overrideValue entry.2 = .ok x → ¬ Settings.OpensUnset r.document p →
      (["mail", "from_"] <+: p →
        (r.provider.join defaultsLayer).contains ["mail", "from"] = true) →
      (∃ r', (resolve files source (entry :: environment)).outcome = .ok r' ∧
        r'.document = r.document) ∨
      ∃ report, (resolve files source (entry :: environment)).outcome
          = .error (.reported report) ∧ report.problem.name = "ConfigError") := by
  obtain ⟨hP, hmissing, hread, hversion⟩ := resolve_eq_ok_iff.1 hr
  obtain ⟨L, O, hL, hO, hprovider⟩ := userProvider_eq_ok_iff.1 hP
  obtain ⟨hvalue, hescape⟩ := collectOverrides_cons hO hp
  refine ⟨fun e he => ?_, fun x hx hset hsender => ?_⟩
  · rw [resolve, Run.bind_eq]
    apply Run.outcome_bind_of_error
    rw [userProvider, Run.bind_eq, Run.outcome_bind_of_ok hL, Run.bind_eq]
    exact Run.outcome_bind_of_error (hescape e he)
  · obtain ⟨O', hO', hastray⟩ := hvalue x hx
    have hP' : (userProvider files source (entry :: environment)).outcome = .ok ⟨[L, O']⟩ :=
      userProvider_eq_ok_iff.2 ⟨L, O', hL, hO', rfl⟩
    have hnull := nullFree_join hP
    rw [hprovider] at hmissing hread hsender hnull
    -- the mandatory options are still there, so only the reading of the tree can fail
    have hmissing' : (Provider.mk [L, O']).firstMissing? mandatoryOptions = none := by
      rw [Provider.firstMissing?_eq_none_iff] at hmissing ⊢
      exact fun option hmem => Provider.contains_merge_astray (P := ⟨[L]⟩) hastray
        (not_prefix_of_mandatory hunknown hmem) (hmissing option hmem)
    rcases hread' : Settings.read (.table ((Provider.mk [L, O']).join defaultsLayer).merged)
      with issues | e
    · refine .inr ⟨unfitReport ((Provider.mk [L, O']).join defaultsLayer) issues, ?_, rfl⟩
      rw [resolve, Run.bind_eq, Run.outcome_bind_of_ok hP', Run.bind_eq,
        Run.outcome_bind_of_ok (a := ()) (by rw [outcome_checkMandatory, hmissing']), Run.bind_eq]
      apply Run.outcome_bind_of_error
      have hreported : holdsOverlong issues = false :=
        Provider.holdsOverlong_merge_astray (P := (Provider.mk [defaultsLayer]).merge L) hastray
          hunknown hread hset hsender hnull hread'
      rw [outcome_extract, hread']
      simp [unfitFailure, hreported]
    · have hsame : e = r.document :=
        Provider.read_merge_astray (P := (Provider.mk [defaultsLayer]).merge L) hastray hunknown
          hread hset hsender hread'
      refine .inl ⟨⟨e, ⟨[L, O']⟩⟩, resolve_eq_ok_iff.2 ⟨hP', hmissing', hread', ?_⟩, hsame⟩
      rw [hsame]
      exact hversion

end

/-- A variable for an option of the website that does not exist. -/
def unknownOption : String × String := ("TORRUST_INDEX_CONFIG_OVERRIDE_WEBSITE__NOPE", "1")

/-- A variable for something below the token of the tracker. -/
def belowToken : String × String := ("TORRUST_INDEX_CONFIG_OVERRIDE_TRACKER__TOKEN__NOPE", "1")

/-- The layers of the user for the least document, with a tree of overrides. -/
def leastWith (overrides : Table) : Provider := ⟨[leastLayer, ⟨overridesLayer, overrides⟩]⟩

theorem userProvider_least :
    (userProvider noFiles leastSource []).outcome = .ok (leastWith []) := by
  decide +kernel

/-- A section on the way to a path is one of the parts of the path. -/
theorem Settings.not_opensUnset {d : Document} {p : Path}
    (h : ∀ o ∈ p.inits, d.find? o ≠ some .null) : ¬ OpensUnset d p := by
  rintro ⟨q, key, rest, title, optional, members, rfl, -, -, o, ho, hnull⟩
  exact h o ((List.mem_inits o _).2 (ho.trans (List.prefix_append q _))) hnull

/-- The one variable is ignored, and the other one makes the tree misfit. -/
theorem resolve_unknown_override_least :
    ∃ r, (resolve noFiles leastSource []).outcome = .ok r ∧
      (overridePath? overridePrefix overrideSeparator unknownOption.1
          = .ok (some ["website", "nope"]) ∧
        Settings.schema.below? ["website", "nope"] = none ∧
        overrideValue unknownOption.2 = .ok (.text "1") ∧
        ¬ Settings.OpensUnset r.document ["website", "nope"] ∧
        ((∃ r', (resolve noFiles leastSource [unknownOption]).outcome = .ok r' ∧
            r'.document = r.document) ∨
          ∃ report, (resolve noFiles leastSource [unknownOption]).outcome
              = .error (.reported report) ∧ report.problem.name = "ConfigError")) ∧
      overridePath? overridePrefix overrideSeparator belowToken.1
          = .ok (some ["tracker", "token", "nope"]) ∧
      Settings.schema.below? ["tracker", "token", "nope"] = none ∧
      overrideValue belowToken.2 = .ok (.text "1") ∧
      ¬ Settings.OpensUnset r.document ["tracker", "token", "nope"] ∧
      ((∃ r', (resolve noFiles leastSource [belowToken]).outcome = .ok r' ∧
          r'.document = r.document) ∨
        ∃ report, (resolve noFiles leastSource [belowToken]).outcome
            = .error (.reported report) ∧ report.problem.name = "ConfigError") := by
  obtain ⟨r, hr, -, hfacts⟩ := exists_resolve
    (fun d => decide (∀ o ∈ List.inits ["website", "nope"] ++
      List.inits ["tracker", "token", "nope"], d.find? o ≠ some .null))
    userProvider_least (by decide) (by decide +kernel)
  -- no section on the way to either path is unset
  have hset := of_decide_eq_true hfacts
  have hoption : overridePath? overridePrefix overrideSeparator unknownOption.1
      = .ok (some ["website", "nope"]) := by decide +kernel
  have hbelow : overridePath? overridePrefix overrideSeparator belowToken.1
      = .ok (some ["tracker", "token", "nope"]) := by decide +kernel
  have hvalue : overrideValue "1" = .ok (.text "1") := by decide +kernel
  have hwebsite : ¬ Settings.OpensUnset r.document ["website", "nope"] :=
    Settings.not_opensUnset fun o ho => hset o (List.mem_append_left _ ho)
  have htracker : ¬ Settings.OpensUnset r.document ["tracker", "token", "nope"] :=
    Settings.not_opensUnset fun o ho => hset o (List.mem_append_right _ ho)
  exact ⟨r, hr,
    ⟨hoption, rfl, hvalue, hwebsite, (resolve_unknown_override hr hoption rfl).2 _ hvalue hwebsite
      fun hprefix => absurd hprefix (by decide)⟩,
    hbelow, rfl, hvalue, htracker, (resolve_unknown_override hr hbelow rfl).2 _ hvalue htracker
      fun hprefix => absurd hprefix (by decide)⟩

/-- A variable for an option of the notice of a demo that does not exist. -/
def unknownNotice : String × String := ("TORRUST_INDEX_CONFIG_OVERRIDE_WEBSITE__DEMO__NOPE", "1")

/-- A variable for an option on mail. -/
def replyTo : String × String := ("TORRUST_INDEX_CONFIG_OVERRIDE_MAIL__REPLY_TO", "r@example.org")

/-- A variable that names the sender of mail by its field. -/
def senderField : String × String := ("TORRUST_INDEX_CONFIG_OVERRIDE_MAIL__FROM_", "s@example.org")

/-- The least document with a text in place of the section on mail. -/
def mailOffSource : Source := ⟨some (leastText ++ "mail = 'off'\n"), Source.defaultPath⟩

/-- Its layer, and the overrides of some options on mail. -/
def mailOffWith (options : Table) : Provider :=
  ⟨[⟨"inline", leastLayer.data ++ [("mail", .text "off")]⟩,
    ⟨overridesLayer, [("mail", .table options)]⟩]⟩

theorem load_mailOff : (mailOffSource.load noFiles).outcome
    = .ok ⟨"inline", leastLayer.data ++ [("mail", .text "off")]⟩ := by
  decide +kernel

/-- Both exceptions occur: an unknown key in the section on a demo, which is unset, sets the
section, and the field of the sender is read where nothing is left under its key. -/
theorem resolve_unknown_override_obeyed :
    (∃ r r', (resolve noFiles leastSource []).outcome = .ok r ∧
      overridePath? overridePrefix overrideSeparator unknownNotice.1
        = .ok (some ["website", "demo", "nope"]) ∧
      Settings.schema.below? ["website", "demo", "nope"] = none ∧
      (resolve noFiles leastSource [unknownNotice]).outcome = .ok r' ∧
      r.document.find? ["website", "demo"] = some .null ∧
      r'.document.find? ["website", "demo", "warning"] = some (.text Settings.demoWarning)) ∧
    ∃ r r', (resolve noFiles mailOffSource [replyTo]).outcome = .ok r ∧
      overridePath? overridePrefix overrideSeparator senderField.1
        = .ok (some ["mail", "from_"]) ∧
      Settings.schema.below? ["mail", "from_"] = none ∧
      (resolve noFiles mailOffSource [senderField, replyTo]).outcome = .ok r' ∧
      r.document.find? ["mail", "from"] = some (.text "example@email.com") ∧
      r'.document.find? ["mail", "from"] = some (.text "s@example.org") := by
  constructor
  · -- a table opened at an unset section sets the section
    have hnotice : (userProvider noFiles leastSource [unknownNotice]).outcome
        = .ok (leastWith [("website", .table [("demo", .table [("nope", .text "1")])])]) := by
      decide +kernel
    obtain ⟨r, hr, -, hunset⟩ := exists_resolve
      (fun d => decide (d.find? ["website", "demo"] = some .null))
      userProvider_least (by decide) (by decide +kernel)
    obtain ⟨r', hr', -, hset⟩ := exists_resolve
      (fun d => decide (d.find? ["website", "demo", "warning"]
        = some (.text Settings.demoWarning)))
      hnotice (by decide) (by decide +kernel)
    exact ⟨r, r', hr, by decide +kernel, rfl, hr', of_decide_eq_true hunset,
      of_decide_eq_true hset⟩
  · -- the name of a field counts where the document has no entry under its key
    have hreply : (userProvider noFiles mailOffSource [replyTo]).outcome
        = .ok (mailOffWith [("reply_to", .text "r@example.org")]) :=
      userProvider_eq_ok_iff.2 ⟨_, _, load_mailOff, by decide +kernel, rfl⟩
    have hsorted : Environment.sorted [senderField, replyTo] = [senderField, replyTo] :=
      List.mergeSort_of_pairwise (by decide +kernel)
    have hsender : (userProvider noFiles mailOffSource [senderField, replyTo]).outcome
        = .ok (mailOffWith
          [("from_", .text "s@example.org"), ("reply_to", .text "r@example.org")]) := by
      refine userProvider_eq_ok_iff.2 ⟨_, _, load_mailOff, ?_, rfl⟩
      rw [collectOverrides, hsorted]
      decide +kernel
    obtain ⟨r, hr, -, hinitial⟩ := exists_resolve
      (fun d => decide (d.find? ["mail", "from"] = some (.text "example@email.com")))
      hreply (by decide) (by decide +kernel)
    obtain ⟨r', hr', -, hobeyed⟩ := exists_resolve
      (fun d => decide (d.find? ["mail", "from"] = some (.text "s@example.org")))
      hsender (by decide) (by decide +kernel)
    exact ⟨r, r', hr, by decide +kernel, rfl, hr', of_decide_eq_true hinitial,
      of_decide_eq_true hobeyed⟩

end LayeredSettings
