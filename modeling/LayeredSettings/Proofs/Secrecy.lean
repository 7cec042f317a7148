/-
LayeredSettings/Proofs/Secrecy.lean

Secrets leave no trace in what is reported.

Two environments may give different texts to the variables of secrets.  The runs of
a resolution are compared stage by stage (`Run.Agrees`): the events are the same,
and both end with the same failure or with results that differ in secrets at most,
which is what the next stage asks for.  The variables are taken in the order of
their names, which is the same for both (`Environment.SameButSecrets.forall₂_sorted`).

Main result: `resolve_hides_secrets`.
-/
import LayeredSettings.Proofs.Assignment
import LayeredSettings.Proofs.Origin
import LayeredSettings.Proofs.Veiled

namespace LayeredSettings

open Value (Veiled)

/-! ### Runs -/

/-- Two runs with the same events that end the same. -/
structure Run.Agrees {ε α : Type} (R : α → α → Prop) (x y : Run ε α) : Prop where
  events : x.events = y.events
  outcome : Agree R x.outcome y.outcome

namespace Run.Agrees

variable {ε α β : Type} {R : α → α → Prop} {S : β → β → Prop}

theorem refl (h : ∀ a, R a a) (x : Run ε α) : x.Agrees R x := ⟨rfl, .refl h _⟩

/-- Results without events. -/
theorem ok {a b : α} (h : R a b) : (Run.ok a : Run ε α).Agrees R (Run.ok b) := ⟨rfl, .ok h⟩

/-- One computation after the other. -/
theorem bind {x y : Run ε α} {f g : α → Run ε β} (h : x.Agrees R y)
    (hfg : ∀ a b, R a b → (f a).Agrees S (g b)) : (x.bind f).Agrees S (y.bind g) := by
  rcases x with ⟨events, x⟩
  rcases y with ⟨events', y⟩
  obtain ⟨hevents, houtcome⟩ := h
  simp only at hevents houtcome
  rcases houtcome with hR | e
  · obtain ⟨hevents', houtcome'⟩ := hfg _ _ hR
    exact ⟨by simp only [Run.bind, hevents, hevents'], houtcome'⟩
  · exact ⟨hevents, .error e⟩

end Run.Agrees

/-! ### Environments -/

namespace Settings

/-- The paths of the secrets. -/
def secretPaths : List Path :=
  [["tracker", "token"], ["auth", "user_claim_token_pepper"],
    ["mail", "smtp", "credentials", "password"]]

theorem hides_secretPaths : schema.Hides (· ∈ secretPaths) := by
  intro p hp
  simp only [secretPaths, List.mem_cons, List.not_mem_nil, or_false] at hp
  rcases hp with rfl | rfl | rfl <;> exact ⟨_, _, rfl⟩

-- no other option holds a secret
example : ((schema.options.filter fun o => o.kind = .secret).map (·.path)).Perm secretPaths := by
  decide

end Settings

open Settings (secretPaths)

/-- A text for a secret: it is not empty, and as the text of a variable it stands for itself. -/
structure SecretText (raw : String) : Prop where
  ne_empty : raw ≠ ""
  value : overrideValue raw = .ok (.text raw)

/-- Two variables of one name that have the same text, or texts for the secret at their path. -/
structure AlikeVariables (entry entry' : String × String) : Prop where
  name : entry.1 = entry'.1
  text : entry.2 = entry'.2 ∨
    ∃ p ∈ secretPaths, overridePath? overridePrefix overrideSeparator entry.1 = .ok (some p) ∧
      SecretText entry.2 ∧ SecretText entry'.2

/-- Two environments with variables of the same names, each of them once, and with the same texts
but for those of secrets. -/
structure Environment.SameButSecrets (environment environment' : Environment) : Prop where
  nodup : environment.names.Nodup
  nodup' : environment'.names.Nodup
  names : ∀ name, name ∈ environment.names ↔ name ∈ environment'.names
  texts : ∀ entry ∈ environment, ∀ entry' ∈ environment', entry.1 = entry'.1 →
    AlikeVariables entry entry'

namespace Environment

variable {environment environment' : Environment}

/-- The names are taken in the same order. -/
theorem SameButSecrets.names_sorted (h : environment.SameButSecrets environment') :
    environment.sorted.names = environment'.sorted.names := by
  have hperm : environment.names.Perm environment'.names :=
    (List.perm_ext_iff_of_nodup h.nodup h.nodup').2 h.names
  have hsorted : environment.sorted.names.Perm environment'.sorted.names :=
    (environment.sorted_perm.map _).trans (hperm.trans (environment'.sorted_perm.map _).symm)
  have hordered : ∀ e : Environment, e.sorted.names.Pairwise (· ≤ ·) := fun e =>
    e.sorted_pairwise.map _ fun _ _ h => h
  exact hsorted.eq_of_pairwise' (hordered environment) (hordered environment')

theorem SameButSecrets.forall₂_sorted (h : environment.SameButSecrets environment') :
    List.Forall₂ AlikeVariables environment.sorted environment'.sorted := by
  -- the names are the same in both, so sorting puts the variables into the same order
  have hnames : List.Forall₂ (fun a b : String × String => a.1 = b.1) environment.sorted
      environment'.sorted := by
    have hsame := h.names_sorted
    rwa [Environment.names, Environment.names, ← List.forall₂_eq_eq_eq,
      List.forall₂_map_left_iff, List.forall₂_map_right_iff] at hsame
  obtain ⟨hlength, hzip⟩ := List.forall₂_iff_zip.1 hnames
  refine List.forall₂_iff_zip.2 ⟨hlength, fun {entry entry'} hmem => ?_⟩
  obtain ⟨hentry, hentry'⟩ := List.of_mem_zip hmem
  exact h.texts entry (environment.sorted_perm.mem_iff.1 hentry) entry'
    (environment'.sorted_perm.mem_iff.1 hentry') (hzip hmem)

end Environment

/-! ### Collection -/

/-- Two tables that differ in secrets at most. -/
abbrev Table.VeiledSecrets (s t : Table) : Prop :=
  Veiled (· ∈ secretPaths) (some (.table s)) (some (.table t))

/-- The same paths are collected, and the trees differ in secrets at most. -/
structure Collected.Alike (c c' : Collected) : Prop where
  paths : c.paths = c'.paths
  tree : c.tree.VeiledSecrets c'.tree

theorem Table.VeiledSecrets.assign {s t : Table} (h : s.VeiledSecrets t) {p : Path} (hp : p ≠ [])
    {x y : Value} (hxy : Veiled (fun q => p ++ q ∈ secretPaths) (some x) (some y)) :
    (s.assign p x).VeiledSecrets (t.assign p y) := by
  rcases p with - | ⟨key, rest⟩
  · exact absurd rfl hp
  · exact Veiled.assigned h hxy

/-- A variable is left out of both trees, stops both runs, or is assigned to the same path. -/
theorem Collected.take_agrees {c c' : Collected} {entry entry' : String × String}
    (hc : c.Alike c') (he : AlikeVariables entry entry') :
    (c.take overridePrefix overrideSeparator entry).Agrees Collected.Alike
      (c'.take overridePrefix overrideSeparator entry') := by
  rcases entry with ⟨name, raw⟩
  rcases entry' with ⟨name', raw'⟩
  obtain ⟨hname, htext⟩ := he
  simp only at hname htext
  subst hname
  simp only [Collected.take]
  rcases hpath : overridePath? overridePrefix overrideSeparator name with e | (- | p)
  · exact ⟨rfl, .error _⟩
  · -- the warning names the variable and nothing of its text
    simp only
    split
    · exact ⟨rfl, .ok hc⟩
    · exact ⟨rfl, .ok hc⟩
  have hp : p ≠ [] := overridePath?_ne_nil hpath
  have hpaths : c.paths ++ [p] = c'.paths ++ [p] := by rw [hc.paths]
  simp only
  rcases htext with rfl | ⟨q, hq, hpath', hraw, hraw'⟩
  · rcases overrideValue raw with e | v
    · exact ⟨rfl, .error _⟩
    · exact .ok ⟨hpaths, hc.tree.assign hp (.same _)⟩
  · -- both texts are assigned as they are, at the path of a secret
    obtain rfl : p = q := by simpa [hpath] using hpath'
    have hsecret : p ++ [] ∈ secretPaths := by rwa [List.append_nil]
    rw [hraw.value, hraw'.value]
    exact .ok ⟨hpaths, hc.tree.assign hp (.secret hsecret hraw.ne_empty hraw'.ne_empty)⟩

theorem Collected.takeAll_agrees {entries entries' : List (String × String)}
    (h : List.Forall₂ AlikeVariables entries entries') {c c' : Collected} (hc : c.Alike c') :
    (Collected.takeAll overridePrefix overrideSeparator entries c).Agrees Collected.Alike
      (Collected.takeAll overridePrefix overrideSeparator entries' c') := by
  induction h generalizing c c' with
  | nil => exact .ok hc
  | cons hentry hrest ih =>
    simp only [Collected.takeAll, Run.bind_eq]
    exact (Collected.take_agrees hc hentry).bind fun _ _ => ih

/-- Two layers of one name whose trees differ in secrets at most. -/
structure Layer.Alike (l l' : Layer) : Prop where
  name : l.name = l'.name
  data : l.data.VeiledSecrets l'.data

section

variable {environment environment' : Environment} (h : environment.SameButSecrets environment')

include h

theorem collectOverrides_agrees :
    (collectOverrides environment overridePrefix overrideSeparator).Agrees Layer.Alike
      (collectOverrides environment' overridePrefix overrideSeparator) := by
  simp only [collectOverrides, Run.bind_eq]
  refine (Collected.takeAll_agrees h.forall₂_sorted ⟨rfl, .same _⟩).bind fun c c' hc => ?_
  rw [hc.paths]
  split
  · exact ⟨rfl, .ok ⟨rfl, hc.tree⟩⟩
  · exact ⟨rfl, .ok ⟨rfl, hc.tree⟩⟩

end

/-! ### Providers -/

/-- Two providers whose highest layers differ in secrets at most, over the same layers. -/
inductive Provider.Alike : Provider → Provider → Prop
  | merge (below : Provider) {l l' : Layer} (h : l.Alike l') :
      Alike (below.merge l) (below.merge l')

namespace Provider.Alike

variable {P P' : Provider} (h : P.Alike P')

include h

theorem join (l : Layer) : (P.join l).Alike (P'.join l) := by
  rcases h with ⟨below, h⟩
  exact .merge (below.join l) h

theorem nameList : P.nameList = P'.nameList := by
  rcases h with ⟨below, h⟩
  simp only [Provider.nameList, names, Provider.merge, List.map_append, List.map_cons, h.name]

theorem merged : P.merged.VeiledSecrets P'.merged := by
  rcases h with ⟨below, h⟩
  have hmerge := h.data.merge (some (.table below.merged))
  simp only [Value.mergeOptional, Value.merge_table] at hmerge
  rwa [merged_merge, merged_merge]

theorem contains (p : Path) : P.contains p = P'.contains p := (h.merged.find? p).isSome_eq

theorem firstMissing? (options : List String) :
    P.firstMissing? options = P'.firstMissing? options := by
  simp only [Provider.firstMissing?, h.contains]

theorem origin? (p : Path) : P.origin? p = P'.origin? p := by
  rcases h with ⟨below, h⟩
  have hfind := (h.data.find? p).isSome_eq
  simp only [Option.bind_some] at hfind
  simp only [Provider.origin?, Provider.merge, List.reverse_append, List.reverse_cons,
    List.reverse_nil, List.nil_append, List.singleton_append, List.find?_cons, Layer.find?,
    Table.find?, hfind]
  split
  · simp only [Option.map_some, h.name]
  · rfl

end Provider.Alike

/-! ### Documents -/

/-- Two documents that differ in secrets at most and are shown the same. -/
abbrev Settings.ShownAlike (d e : Document) : Prop := schema.MaskedAlike (· ∈ secretPaths) d e

/-- The version is no secret. -/
theorem Settings.ShownAlike.version {d e : Document} (h : ShownAlike d e) :
    Settings.version d = Settings.version e := by
  have hfind := h.veiled.find? ["metadata", "schema_version"]
  simp only [Option.bind_some] at hfind
  generalize hd : Value.find? ["metadata", "schema_version"] d = x at hfind
  generalize he : Value.find? ["metadata", "schema_version"] e = y at hfind
  simp only [Settings.version, Settings.textAt, Settings.textAt?, hd, he]
  rcases hfind with v | hsecret | htables
  · rfl
  · exact absurd hsecret (by decide)
  · rfl

section

variable {P P' : Provider}

theorem extract_agrees (h : P.Alike P') :
    (extract P).Agrees Settings.ShownAlike (extract P') := by
  have hread := Settings.schema_sound.read_veiled Settings.hides_secretPaths h.merged
  simp only [extract, Settings.read, unfitReport, h.nameList]
  generalize Settings.schema.read (.table P.merged) = x at hread
  generalize Settings.schema.read (.table P'.merged) = y at hread
  rcases hread with hshown | issues
  · exact .ok hshown
  · -- the issues are the same, so both are reported or neither is
    dsimp only
    split
    · exact ⟨rfl, .error _⟩
    · exact ⟨rfl, .error _⟩

theorem checkVersion_agrees {d e : Document} (h : Settings.ShownAlike d e) :
    (checkVersion d).Agrees Settings.ShownAlike (checkVersion e) := by
  simp only [checkVersion, h.version]
  split
  · exact .ok h
  · exact ⟨rfl, .error _⟩

theorem checkMandatory_eq (h : P.Alike P') (options : List String) :
    checkMandatory P options = checkMandatory P' options := by
  simp only [checkMandatory, h.firstMissing? options, h.nameList]

end

/-! ### Resolutions -/

section

variable {environment environment' : Environment} (h : environment.SameButSecrets environment')
  (files : Files) (source : Source)

include h

theorem userProvider_agrees :
    (userProvider files source environment).Agrees Provider.Alike
      (userProvider files source environment') := by
  simp only [userProvider, Run.bind_eq]
  refine (Run.Agrees.refl (R := Eq) (fun _ => rfl) (source.load files)).bind ?_
  rintro document _ rfl
  exact (collectOverrides_agrees h).bind fun l l' hl => .ok (.merge ⟨[document]⟩ hl)

/-- The runs of two resolutions whose environments differ in secrets at most. -/
theorem resolve_agrees :
    (resolve files source environment).Agrees
      (fun r r' => Settings.ShownAlike r.document r'.document ∧ r.provider.Alike r'.provider)
      (resolve files source environment') := by
  simp only [resolve, Run.bind_eq]
  refine (userProvider_agrees h files source).bind fun P P' hP => ?_
  have hfull := hP.join defaultsLayer
  -- the check sees that a secret is there and not what it is, so it is one and the same run
  rw [checkMandatory_eq hP]
  refine (Run.Agrees.refl (R := fun _ _ => True) (fun _ => trivial) _).bind fun _ _ _ => ?_
  refine (extract_agrees hfull).bind fun d e hextracted => ?_
  refine (checkVersion_agrees hextracted).bind fun d e hshown => ?_
  rw [hfull.nameList, hshown.version]
  exact (Run.Agrees.refl (R := fun _ _ => True) (fun _ => trivial) _).bind fun _ _ _ =>
    .ok ⟨hshown, hP⟩

/-- **Secrets leave no trace.**  If two environments differ in the texts of secrets at most, the
resolutions of a source emit the same events.  They end with the same failure, or both succeed:
then the documents are the same once their secrets are masked, and each path has the same origin. -/
theorem resolve_hides_secrets :
    (resolve files source environment).events = (resolve files source environment').events ∧
    ((∃ e, (resolve files source environment).outcome = .error e ∧
        (resolve files source environment').outcome = .error e) ∨
      ∃ r r', (resolve files source environment).outcome = .ok r ∧
        (resolve files source environment').outcome = .ok r' ∧
        Settings.masked r.document = Settings.masked r'.document ∧
        ∀ p, r.provider.origin? p = r'.provider.origin? p) := by
  obtain ⟨hevents, houtcome⟩ := resolve_agrees h files source
  refine ⟨hevents, ?_⟩
  generalize (resolve files source environment).outcome = x at houtcome
  generalize (resolve files source environment').outcome = y at houtcome
  -- either both outcomes show the same but for the secrets, or both are one failure
  rcases houtcome with ⟨hshown, hprovider⟩ | e
  · exact .inr ⟨_, _, rfl, rfl, hshown.masked, hprovider.origin?⟩
  · exact .inl ⟨e, rfl, rfl⟩

end

/-- A variable for the token of the tracker and one for the name of the website. -/
def tokenEnvironment (token : String) : Environment :=
  [("TORRUST_INDEX_CONFIG_OVERRIDE_TRACKER__TOKEN", token),
    ("TORRUST_INDEX_CONFIG_OVERRIDE_WEBSITE__NAME", "Index")]

/-- The layers of the user with a token. -/
def tokenProvider (token : String) : Provider :=
  ⟨[leastLayer, ⟨overridesLayer,
    [("tracker", .table [("token", .text token)]), ("website", .table [("name", .text "Index")])]⟩]⟩

theorem overridePath?_token : overridePath? overridePrefix overrideSeparator
    "TORRUST_INDEX_CONFIG_OVERRIDE_TRACKER__TOKEN" = .ok (some ["tracker", "token"]) := by
  decide +kernel

theorem userProvider_token {token : String} (h : overrideValue token = .ok (.text token)) :
    (userProvider noFiles leastSource (tokenEnvironment token)).outcome
      = .ok (tokenProvider token) := by
  have hname : overridePath? overridePrefix overrideSeparator
      "TORRUST_INDEX_CONFIG_OVERRIDE_WEBSITE__NAME" = .ok (some ["website", "name"]) := by
    decide +kernel
  have hvalue : overrideValue "Index" = .ok (.text "Index") := by decide +kernel
  -- the two variables already stand in the order of their names
  have hsorted : (tokenEnvironment token).sorted = tokenEnvironment token := by
    have hnames : decide ("TORRUST_INDEX_CONFIG_OVERRIDE_TRACKER__TOKEN" ≤
        "TORRUST_INDEX_CONFIG_OVERRIDE_WEBSITE__NAME") = true := by decide +kernel
    exact List.mergeSort_of_pairwise (List.pairwise_pair.2 hnames)
  refine userProvider_eq_ok_iff.2 ⟨leastLayer, _, by decide +kernel, ?_, rfl⟩
  rw [collectOverrides, hsorted]
  simp only [tokenEnvironment, Collected.takeAll, Collected.take, overridePath?_token, hname, h,
    hvalue]
  rfl

/-- Two tokens lead to two documents that are shown the same. -/
theorem resolve_hides_secrets_tokens :
    (tokenEnvironment "first").SameButSecrets (tokenEnvironment "[second") ∧
    (resolve noFiles leastSource (tokenEnvironment "first")).events =
      (resolve noFiles leastSource (tokenEnvironment "[second")).events ∧
    ∃ r r', (resolve noFiles leastSource (tokenEnvironment "first")).outcome = .ok r ∧
      (resolve noFiles leastSource (tokenEnvironment "[second")).outcome = .ok r' ∧
      r.document.find? ["tracker", "token"] = some (.text "first") ∧
      r'.document.find? ["tracker", "token"] = some (.text "[second") ∧
      Settings.masked r.document = Settings.masked r'.document ∧
      ∀ p, r.provider.origin? p = r'.provider.origin? p := by
  have hkept : overrideValue "first" = .ok (.text "first") := by decide +kernel
  have hkept' : overrideValue "[second" = .ok (.text "[second") := by decide +kernel
  have htokens : (tokenEnvironment "first").SameButSecrets (tokenEnvironment "[second") := by
    refine ⟨by decide, by decide, fun _ => Iff.rfl, fun entry hentry entry' hentry' hname => ?_⟩
    simp only [tokenEnvironment, List.mem_cons, List.not_mem_nil, or_false] at hentry hentry'
    -- the variables of the token differ in a text that is kept, those of the name not at all
    rcases hentry with rfl | rfl <;> rcases hentry' with rfl | rfl
    · exact ⟨rfl, .inr ⟨_, by decide, overridePath?_token, ⟨by decide, hkept⟩,
        ⟨by decide, hkept'⟩⟩⟩
    · exact absurd hname (by decide)
    · exact absurd hname (by decide)
    · exact ⟨rfl, .inl rfl⟩
  obtain ⟨r, hr, -, hfirst⟩ := exists_resolve
    (fun d => decide (d.find? ["tracker", "token"] = some (.text "first")))
    (userProvider_token hkept) (by decide) (by decide +kernel)
  obtain ⟨r', hr', -, hsecond⟩ := exists_resolve
    (fun d => decide (d.find? ["tracker", "token"] = some (.text "[second")))
    (userProvider_token hkept') (by decide) (by decide +kernel)
  obtain ⟨hevents, ⟨e, he, -⟩ | ⟨s, s', hs, hs', hmasked, horigins⟩⟩ :=
    resolve_hides_secrets htokens noFiles leastSource
  · rw [hr] at he
    cases he
  · obtain rfl : r = s := Except.ok.inj (hr.symm.trans hs)
    obtain rfl : r' = s' := Except.ok.inj (hr'.symm.trans hs')
    exact ⟨htokens, hevents, r, r', hr, hr', of_decide_eq_true hfirst, of_decide_eq_true hsecond,
      hmasked, horigins⟩

end LayeredSettings
