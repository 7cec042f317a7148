/-
LayeredSettings/Proofs/Interchange.lean

The text of a variable and a value of the document.

An option can be set in the document or by a variable.  The value takes another way,
through another layer and as a text, but ends at the same path of the merged tree,
which is the same beside it.  An option makes the same of a value and of the text
that spells it, so the schema makes the same of both trees, issues included
(`Schema.Sound.read_interchange`).

The stages before the schema see no difference either: the same variables have no
value, the same options are there, and the layers have the same names
(`outcome_resolve_interchange`).  Main result: `resolve_override_interchange`.
-/
import LayeredSettings.Proofs.Beside
import LayeredSettings.Proofs.Overriding
import LayeredSettings.Proofs.Spelling

namespace LayeredSettings

open Value (SameBeside)

/-! ### Reading -/

namespace Schema

variable {kind : Kind} {presence : Presence} {initial : Value} {s : Schema} {p : Path}
  {v w x y : Value}

/-- **Trees that are the same beside an option are read the same** if the option makes the same of
what they hold for it. -/
theorem Sound.read_interchange (hs : s.Sound)
    (hp : s.below? p = some (.option kind presence initial))
    (h : SameBeside p (some v) (some w)) (hx : v.find? p = some x) (hy : w.find? p = some y)
    (hxy : readOption kind presence x = readOption kind presence y) : s.read v = s.read w := by
  induction p generalizing s v w with
  | nil =>
    obtain rfl := Option.some.inj hp
    obtain rfl := Option.some.inj ((Value.find?_nil v).symm.trans hx)
    obtain rfl := Option.some.inj ((Value.find?_nil w).symm.trans hy)
    exact hxy
  | cons key rest ih =>
    rcases s with ⟨kind', presence', initial'⟩ | ⟨title, optional, members⟩
    · cases hp
    · obtain ⟨m, hm, rfl, hbelow⟩ := exists_member_of_below? hp
      obtain ⟨hdistinct, hsound⟩ := sound_group_iff.1 hs
      obtain ⟨t, -, rfl, -⟩ := Value.exists_table_of_find? (Option.isSome_of_eq_some hx)
      obtain ⟨u, -, rfl, -⟩ := Value.exists_table_of_find? (Option.isSome_of_eq_some hy)
      rw [Table.find?_cons, Option.bind_eq_some_iff] at hx hy
      obtain ⟨a, ha, hax⟩ := hx
      obtain ⟨b, hb, hby⟩ := hy
      -- below the key the trees are the same beside the rest of the path
      have hsame : m.2.read a = m.2.read b := by
        have hentries := h.entries
        simp only [Value.entries, ha, hb] at hentries
        exact ih (hsound m hm) hbelow hentries hax hby
      rw [read, read, readMembers_congr fun n hn => ?_]
      -- the member of the key is read alike by induction, the others look beside the path
      by_cases hkey : n.1.key = m.1.key
      · obtain rfl := eq_of_key_eq hdistinct.1 hn hm hkey
        simp only [readMember, locate_of_get? ha, locate_of_get? hb, hsame]
      · exact readMember_beside hdistinct hm hn hkey h

end Schema

/-! ### Providers -/

/-- Two providers with the same names of layers that are the same beside a path, where each holds a
value of its own. -/
structure Provider.Interchange (p : Path) (a b : Value) (P P' : Provider) : Prop where
  names : P.names = P'.names
  beside : P.merged.SameBeside p P'.merged
  left : P.find? p = some a
  right : P'.find? p = some b

section

variable {p : Path} {a b : Value} {P P' : Provider} {L O O' : Layer}

/-- The same paths lead to something. -/
theorem Provider.Interchange.contains (h : Interchange p a b P P') (ha : a.isTable = false)
    (hb : b.isTable = false) (q : Path) : P.contains q = P'.contains q :=
  h.beside.isSome_find? h.left ha h.right hb q

theorem Provider.Interchange.firstMissing? (h : Interchange p a b P P') (ha : a.isTable = false)
    (hb : b.isTable = false) (options : List String) :
    P.firstMissing? options = P'.firstMissing? options := by
  simp only [Provider.firstMissing?, h.contains ha hb]

theorem Provider.Interchange.nameList (h : Interchange p a b P P') : P.nameList = P'.nameList := by
  rw [Provider.nameList, Provider.nameList, h.names]

/-- A value set in a document that does not block its path, or set by the layer above. -/
theorem Provider.interchange_merge (hp : p ≠ []) (hL : L.contact p ≠ .blocks)
    (hO : O.find? p = some a) (ha : a.isTable = false) (hO' : O'.contact p = .misses)
    (hb : b.isTable = false) (h : O.SameBeside p O') (B : Provider) :
    Interchange p a b ((B.merge L).merge O) ((B.merge ⟨L.name, L.data.assign p b⟩).merge O') := by
  have hassigned : Layer.find? ⟨L.name, L.data.assign p b⟩ p = some b := Table.find?_assign hp b
  refine ⟨?_, ?_, ?_, ?_⟩
  · simp only [Provider.names, merge, List.map_append, List.map_cons, h.name]
  · have hL' : Layer.contact ⟨L.name, L.data.assign p b⟩ p ≠ .blocks :=
      Value.not_blocks_of_find? hassigned
    have hOfree : O.contact p ≠ .blocks := Value.not_blocks_of_find? hO
    have hOfree' : O'.contact p ≠ .blocks := by
      rw [hO']
      exact Contact.noConfusion
    -- layer by layer: neither the values assigned nor those of the overrides block the path
    have hlower := SameBeside.merge (.refl p (some (.table B.merged)))
      (Table.SameBeside.assign_self hp L.data b) hL hL'
    have hupper := SameBeside.merge hlower h.data hOfree hOfree'
    simp only [Value.merge_table] at hupper
    simpa only [merged_merge] using hupper
  · exact find?_merge_of_not_table hO ha
  · rw [find?_merge, hO']
    exact find?_merge_of_not_table hassigned hb

end

/-! ### Runs -/

section

variable {start separator : String} {p : Path} {entries : List (String × String)}
  {c c' : Collected}

/-- A path that no variable meets is missing from what is collected. -/
theorem Collected.contact_takeAll
    (hfree : ∀ e ∈ entries, ∀ q, overridePath? start separator e.1 = .ok (some q) →
      ¬ Path.Meets q p)
    (hc : Value.contact p (.table c.tree) = .misses)
    (h : (takeAll start separator entries c).outcome = .ok c') :
    Value.contact p (.table c'.tree) = .misses := by
  induction entries generalizing c with
  | nil =>
    obtain rfl := Except.ok.inj h
    exact hc
  | cons e rest ih =>
    rw [takeAll, Run.bind_eq, Run.outcome_bind_eq_ok] at h
    obtain ⟨m, htake, hrest⟩ := h
    refine ih (fun e' he' => hfree e' (List.mem_cons_of_mem e he')) ?_ hrest
    -- a variable whose path does not meet this one leaves it out of the tree
    rcases take_eq_ok htake with ⟨-, rfl⟩ | ⟨q, v, hq, -, rfl⟩
    · exact hc
    · have hmeets : ¬ Path.Meets p q := fun hpq =>
        hfree e List.mem_cons_self q hq (Path.meets_comm.1 hpq)
      rcases q with - | ⟨key, rest⟩
      · exact absurd (Path.meets_nil_right p) hmeets
      · exact Value.contact_assigned hc hmeets v

end

variable {files files' : Files} {source source' : Source} {environment environment' : Environment}
  {P P' : Provider} {p : Path} {kind : Kind} {presence : Presence} {initial a b : Value}

theorem outcome_userProvider_of_load {L : Layer} (hL : (source.load files).outcome = .ok L)
    (environment : Environment) :
    (userProvider files source environment).outcome =
      (collectOverrides environment overridePrefix overrideSeparator).outcome.map
        fun O => ⟨[L, O]⟩ := by
  rw [userProvider, Run.bind_eq, Run.outcome_bind_of_ok hL, Run.bind_eq]
  rcases hO : (collectOverrides environment overridePrefix overrideSeparator).outcome with f | O
  · exact Run.outcome_bind_of_error hO
  · exact Run.outcome_bind_of_ok hO

/-- The report of a tree that does not fit tells the names of the layers and the issues. -/
theorem unfitFailure_congr (h : P.nameList = P'.nameList) (issues : List Issue) :
    unfitFailure P issues = unfitFailure P' issues := by
  simp only [unfitFailure, unfitReport, h]

/-- Layers of the user that differ in two values of which an option makes the same are resolved to
the same document, or fail alike. -/
theorem outcome_resolve_interchange
    (hP : (userProvider files source environment).outcome = .ok P)
    (hP' : (userProvider files' source' environment').outcome = .ok P')
    (hp : Settings.schema.below? p = some (.option kind presence initial))
    (h : P.Interchange p a b P')
    (hfull : Provider.Interchange p a b (P.join defaultsLayer) (P'.join defaultsLayer))
    (ha : a.isTable = false) (hb : b.isTable = false)
    (hab : Schema.readOption kind presence a = Schema.readOption kind presence b) :
    (resolve files source environment).outcome.map (·.document) =
      (resolve files' source' environment').outcome.map (·.document) := by
  -- both sides hold a value at the path and agree beside it, so they miss the same options
  have hmissing := h.firstMissing? ha hb mandatoryOptions
  rcases hfirst : P.firstMissing? mandatoryOptions with - | option
  · have hread : Settings.read (.table (P.join defaultsLayer).merged) =
        Settings.read (.table (P'.join defaultsLayer).merged) :=
      Settings.schema_sound.read_interchange hp hfull.beside hfull.left hfull.right hab
    rw [outcome_resolve_of_supplied hP hfirst,
      outcome_resolve_of_supplied hP' (hmissing.symm.trans hfirst), ← hread]
    rcases Settings.read (.table (P.join defaultsLayer).merged) with issues | d
    · dsimp only
      rw [unfitFailure_congr hfull.nameList]
    · dsimp only
      split <;> rfl
  · rw [resolve_of_firstMissing hP hfirst, resolve_of_firstMissing hP' (hmissing.symm.trans hfirst)]

/-! ### One more variable -/

section

variable {entry : String × String} {raw : String} {O O' : Layer}
  (hentry : overridePath? overridePrefix overrideSeparator entry.1 = .ok (some p))
  (hothers : ∀ e ∈ environment, ∀ q,
    overridePath? overridePrefix overrideSeparator e.1 = .ok (some q) → ¬ Path.Meets q p)

include hentry hothers

/-- One more variable for a path that the others do not meet is seen at the path alone. -/
theorem collectOverrides_more {w : Value} (hw : overrideValue entry.2 = .ok w) :
    Agree (Layer.SameBeside p)
      (collectOverrides (entry :: environment) overridePrefix overrideSeparator).outcome
      (collectOverrides environment overridePrefix overrideSeparator).outcome := by
  have hnone : ∀ e ∈ environment,
      overridePath? overridePrefix overrideSeparator e.1 ≠ .ok (some p) := fun e he hpath =>
    hothers e he p hpath (.inl (List.prefix_refl p))
  refine collectOverrides_beside (fun e he hpath => ?_)
    (fun e he hpath => absurd hpath (hnone e he)) ?_
  · rcases List.mem_cons.1 he with rfl | he
    · exact ⟨w, hw⟩
    · exact absurd hpath (hnone e he)
  · -- the new variable stands somewhere among the others, and is left out
    obtain ⟨before, after, hmore, hsorted⟩ := Environment.sorted_cons entry environment
    have hdropped : leavesAlone overridePrefix overrideSeparator p entry = false :=
      leavesAlone_eq_false_iff.2 hentry
    rw [hmore, hsorted, List.filter_append, List.filter_append,
      List.filter_cons_of_neg (by simp [hdropped])]

/-- The new variable decides what is at its path. -/
theorem find?_collectOverrides_more {w : Value} (hw : overrideValue entry.2 = .ok w)
    (hO : (collectOverrides (entry :: environment) overridePrefix overrideSeparator).outcome
      = .ok O) : O.find? p = some w := by
  refine find?_collectOverrides hO ⟨List.mem_cons_self, hentry, fun e he q hq hmeets => ?_⟩ hw
  rcases List.mem_cons.1 he with rfl | he
  · exact .inl rfl
  · exact absurd (Path.meets_comm.1 hmeets) (hothers e he q hq)

omit hentry in
/-- Without it nothing is there. -/
theorem contact_collectOverrides_less (hp : p ≠ [])
    (hO' : (collectOverrides environment overridePrefix overrideSeparator).outcome = .ok O') :
    O'.contact p = .misses := by
  obtain ⟨c, hall, rfl⟩ := collectOverrides_eq_ok_iff.1 hO'
  refine Collected.contact_takeAll (fun e he => ?_) ?_ hall
  · exact hothers e (environment.sorted_perm.mem_iff.1 he)
  · rcases p with - | ⟨key, rest⟩
    · exact absurd rfl hp
    · rfl

/-- **The text of a variable and a value of the document are interchangeable.**  Take a document
that has nothing but tables on the way to an option, and variables of which none meets it.  One more
variable for the option gives the same document as the value that its text spells, set in the
document; or both fail alike. -/
theorem resolve_override_interchange {L : Layer} {x : Value}
    (hp : Settings.schema.below? p = some (.option kind presence initial))
    (hL : (source.load files).outcome = .ok L)
    (hL' : (source'.load files').outcome = .ok ⟨L.name, L.data.assign p x⟩)
    (htables : ∀ q v, q <+: p → q ≠ p → L.find? q = some v → v.isTable = true)
    (hspells : Spells kind entry.2 x) :
    (resolve files source (entry :: environment)).outcome.map (·.document) =
      (resolve files' source' environment).outcome.map (·.document) := by
  have hne : p ≠ [] := overridePath?_ne_nil hentry
  have hfree : L.contact p ≠ .blocks := by
    intro hblocks
    obtain ⟨q, rest, v, hsplit, hrest, hv, hplain⟩ := Layer.blocks_iff.2 hblocks
    have hproper : q ≠ p := by
      rintro rfl
      exact hrest (List.self_eq_append_right.1 hsplit)
    rw [htables q v ⟨rest, hsplit.symm⟩ hproper hv] at hplain
    cases hplain
  have hP := outcome_userProvider_of_load hL (entry :: environment)
  have hP' := outcome_userProvider_of_load hL' environment
  have hagree := collectOverrides_more hentry hothers hspells.value
  generalize hx : (collectOverrides (entry :: environment) overridePrefix overrideSeparator).outcome
    = x₁ at hagree hP
  generalize hy : (collectOverrides environment overridePrefix overrideSeparator).outcome
    = x₂ at hagree hP'
  rcases hagree with hbeside | f
  · rename_i O O'
    have hO := find?_collectOverrides_more hentry hothers hspells.value hx
    have hO' := contact_collectOverrides_less hothers hne hy
    -- the layers differ in the same way over nothing and over the defaults
    have hlayers := fun B =>
      Provider.interchange_merge hne hfree hO rfl hO' hspells.isTable hbeside B
    exact outcome_resolve_interchange hP hP' hp (hlayers ⟨[]⟩) (hlayers ⟨[defaultsLayer]⟩) rfl
      hspells.isTable (hspells.readOption_eq presence)
  · -- another variable has no value
    rw [resolve, resolve, Run.bind_eq, Run.bind_eq, Run.outcome_bind_of_error hP,
      Run.outcome_bind_of_error hP']

end

/-- The least document with one more line. -/
def leastSourceWith (line : String) : Source := ⟨some (leastText ++ line), Source.defaultPath⟩

/-- A variable beside those that are added. -/
def siteVariable : String × String := ("TORRUST_INDEX_CONFIG_OVERRIDE_WEBSITE__NAME", "Index")

/-- A negative number of a port, a truth value and a password that only looks like an array. -/
theorem resolve_override_interchange_least :
    (resolve noFiles leastSource
        [("TORRUST_INDEX_CONFIG_OVERRIDE_MAIL__SMTP__PORT", "-25"), siteVariable]).outcome.map
          (·.document) =
      (resolve noFiles (leastSourceWith "mail.smtp.port = -25\n") [siteVariable]).outcome.map
        (·.document) ∧
    (resolve noFiles leastSource
        [("TORRUST_INDEX_CONFIG_OVERRIDE_TRACKER__PRIVATE", "true"), siteVariable]).outcome.map
          (·.document) =
      (resolve noFiles (leastSourceWith "tracker.private = true\n") [siteVariable]).outcome.map
        (·.document) ∧
    (resolve noFiles leastSource
        [("TORRUST_INDEX_CONFIG_OVERRIDE_MAIL__SMTP__CREDENTIALS__PASSWORD", "[7"),
          siteVariable]).outcome.map (·.document) =
      (resolve noFiles (leastSourceWith "mail.smtp.credentials.password = '[7'\n")
        [siteVariable]).outcome.map (·.document) := by
  have hleast : (leastSource.load noFiles).outcome = .ok leastLayer := by decide +kernel
  have hsite : ∀ p, ¬ Path.Meets ["website", "name"] p → ∀ e ∈ [siteVariable], ∀ q,
      overridePath? overridePrefix overrideSeparator e.1 = .ok (some q) → ¬ Path.Meets q p := by
    intro p hp e he q hq
    obtain rfl := List.mem_singleton.1 he
    have hpath : overridePath? overridePrefix overrideSeparator siteVariable.1 =
        .ok (some ["website", "name"]) := by decide +kernel
    obtain rfl : ["website", "name"] = q := by simpa [hpath] using hq
    exact hp
  -- only the beginnings of the path have to be looked at, and these are finitely many
  have htables : ∀ p : Path, (∀ q ∈ p.inits, q ≠ p → ∀ v ∈ leastLayer.find? q, v.isTable = true) →
      ∀ q v, q <+: p → q ≠ p → leastLayer.find? q = some v → v.isTable = true :=
    fun p hp q v hq hne hv => hp q ((List.mem_inits q p).2 hq) hne v hv
  have hnumber : Spells (.integer 0 (some 65535)) "-25" (.integer (-25)) := by
    have htext : integerText (-25) = "-25" := by decide +kernel
    exact htext ▸ .integer 0 (some 65535) (by decide)
  have htruth : Spells .flag "true" (.boolean true) := .flag true
  have hkept : Spells .secret "[7" (.text "[7") := .text .secret (by decide +kernel)
  have hload : ((leastSourceWith "mail.smtp.port = -25\n").load noFiles).outcome =
      .ok ⟨leastLayer.name, leastLayer.data.assign ["mail", "smtp", "port"] (.integer (-25))⟩ := by
    decide +kernel
  have hload₁ : ((leastSourceWith "tracker.private = true\n").load noFiles).outcome =
      .ok ⟨leastLayer.name, leastLayer.data.assign ["tracker", "private"] (.boolean true)⟩ := by
    decide +kernel
  have hload₂ : ((leastSourceWith "mail.smtp.credentials.password = '[7'\n").load
      noFiles).outcome = .ok ⟨leastLayer.name,
        leastLayer.data.assign ["mail", "smtp", "credentials", "password"] (.text "[7")⟩ := by
    decide +kernel
  -- a number in text, a truth value in text, and a text that only looks like an array
  refine ⟨?_, ?_, ?_⟩
  · exact resolve_override_interchange (by decide +kernel) (hsite _ (by decide)) rfl hleast hload
      (htables _ (by decide)) hnumber
  · exact resolve_override_interchange (by decide +kernel) (hsite _ (by decide)) rfl hleast hload₁
      (htables _ (by decide)) htruth
  · exact resolve_override_interchange (by decide +kernel) (hsite _ (by decide)) rfl hleast hload₂
      (htables _ (by decide)) hkept

end LayeredSettings
