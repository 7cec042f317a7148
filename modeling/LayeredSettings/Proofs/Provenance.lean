/-
LayeredSettings/Proofs/Provenance.lean

The origin of an option tells where its value is from.

Origins ask each layer alone, the document comes from the merged tree.  They
agree because the tree fits the schema:

* what the tree holds at an option is no table, so the layer on top of those that
  hold a value there holds all of it (`Schema.read_of_mergeOptional`);
* the upper layer does not block an option that is in the document, since what
  blocks it would unset the section (`Schema.isTable_of_prefix`);
* an option of which the tree holds nothing has its initial value, also in a
  section that is there for another reason (`Schema.Sound.find?_read_of_absent`),
  unless it was found under its field.

With a third layer of the user the second point would fail: a layer that blocks
could be opened again by the next one.

Main result: `resolve_origin`.
-/
import LayeredSettings.Proofs.Defaults
import LayeredSettings.Proofs.Leaves
import LayeredSettings.Proofs.Overriding

namespace LayeredSettings

namespace Schema

/-! ### Where nothing is -/

/-- In the initial document an option has its initial value, if it is there. -/
theorem Sound.find?_initial {s : Schema} (hs : s.Sound) {p : Path} {kind : Kind}
    {presence : Presence} {initial v : Value}
    (hp : s.below? p = some (.option kind presence initial)) (hv : s.initial.find? p = some v) :
    v = initial := by
  induction p generalizing s with
  | nil =>
    obtain rfl := Option.some.inj hp
    exact (Option.some.inj hv).symm
  | cons key rest ih =>
    rcases s with ⟨kind', presence', initial'⟩ | ⟨title, optional, members⟩
    · cases hp
    · obtain ⟨hdistinct, hsound⟩ := sound_group_iff.1 hs
      obtain ⟨m, hm, rfl, hbelow⟩ := exists_member_of_below? hp
      -- below an optional section nothing is found, since it is unset at first
      cases optional with
      | true => cases hv
      | false =>
        have hget := get?_initials hdistinct.1 hm
        exact ih (hsound m hm) hbelow (by simpa [Schema.initial, Value.find?, hget] using hv)

/-- **Where the tree holds nothing, an option has its initial value**, if it is in the document
and no member is held under its field. -/
theorem Sound.find?_read_of_absent {s : Schema} (hs : s.Sound) {p : Path} {kind : Kind}
    {presence : Presence} {initial v w d : Value} (h : s.read w = .ok d)
    (hfields : ∀ a ∈ s.aliases, w.find? (a.1 ++ [a.2.field]) = none)
    (hp : s.below? p = some (.option kind presence initial)) (hw : w.find? p = none)
    (hv : d.find? p = some v) : v = initial := by
  induction p generalizing s w d with
  | nil => cases hw
  | cons key rest ih =>
    rcases s with ⟨kind', presence', initial'⟩ | ⟨title, optional, members⟩
    · cases hp
    · obtain ⟨hdistinct, hsound⟩ := sound_group_iff.1 hs
      obtain ⟨m, hm, rfl, hbelow⟩ := exists_member_of_below? hp
      rcases w.eq_table_or_not_table with ⟨t, rfl⟩ | hnot
      · obtain ⟨entries, hentries, rfl⟩ := read_group_table.1 h
        obtain ⟨x, hx, hread⟩ := readMembers_member hdistinct.1 hentries hm
        have hxv : x.find? rest = some v := by simpa [Value.find?, hx] using hv
        rcases ht : Table.get? t m.1.key with - | u
        · -- the member is not there under its field either
          have hfield : Table.get? t m.1.field = none := by
            by_cases hsame : m.1.field = m.1.key
            · rw [hsame, ht]
            · have hnone := hfields ([], m.1) (mem_memberAliases hm hsame)
              rcases e : Table.get? t m.1.field with - | y
              · rfl
              · simp [Value.find?, e] at hnone
          obtain rfl : m.2.initial = x :=
            Except.ok.inj ((readMember_of_absent ht hfield).symm.trans hread)
          exact (hsound m hm).find?_initial hbelow hxv
        · refine ih (hsound m hm) ((readMember_of_get? ht).1 hread) (fun a ha => ?_) hbelow
            (by simpa [Value.find?, ht] using hw) hxv
          have hnone := hfields _ (mem_memberAliases_of_below hm ha)
          simpa [Value.find?, ht] using hnone
      · rw [(read_group_not_table hnot h).2] at hv
        cases hv

section

variable {s : Schema} {p : Path} {kind : Kind} {presence : Presence} {initial v w x d : Value}

/-- An option of the document is what its schema makes of what the tree holds there. -/
theorem read_of_find? (h : s.read w = .ok d)
    (hp : s.below? p = some (.option kind presence initial)) (hv : d.find? p = some v)
    (hx : w.find? p = some x) : (Schema.option kind presence initial).read x = .ok v := by
  obtain ⟨e, he, hfind⟩ := find?_read h hp hx
  obtain rfl : v = e := Option.some.inj (hv.symm.trans hfind)
  exact he

/-- What lies over the rest at an option is all that the option is made of. -/
theorem read_of_mergeOptional {below : Option Value} (h : s.read w = .ok d)
    (hp : s.below? p = some (.option kind presence initial)) (hv : d.find? p = some v)
    (hx : w.find? p = Value.mergeOptional below (some x)) :
    (Schema.option kind presence initial).read x = .ok v := by
  obtain ⟨y, hy⟩ : ∃ y, Value.mergeOptional below (some x) = some y := by
    rcases below with - | y
    · exact ⟨x, rfl⟩
    · exact ⟨Value.merge y x, rfl⟩
  -- what comes out at an option is no table, so the upper value has replaced the lower one
  have hplain : x.isTable = false := by
    rw [← Value.isTable_of_mergeOptional hy]
    exact not_table_of_read h hp (hx.trans hy)
  rw [Value.mergeOptional_of_not_table below hplain] at hx
  exact read_of_find? h hp hv hx

/-- On the way to an option that is in the document the tree holds tables only. -/
theorem isTable_of_prefix {q rest : Path} (h : s.read w = .ok d) (hrest : rest ≠ [])
    (hp : s.below? (q ++ rest) = some (.option kind presence initial))
    (hv : d.find? (q ++ rest) = some v) (hx : w.find? q = some x) : x.isTable = true := by
  rw [below?_append, Option.bind_eq_some_iff] at hp
  obtain ⟨below, hq, hbelow⟩ := hp
  obtain ⟨e, he, hfind⟩ := find?_read h hq hx
  rcases rest with - | ⟨key, rest⟩
  · exact absurd rfl hrest
  · rcases below with ⟨kind', presence', initial'⟩ | ⟨title, optional, members⟩
    · cases hbelow
    · -- a section that is no table in the tree has nothing set below it in the document
      by_contra hnot
      rw [Value.find?_append, hfind,
        (read_group_not_table (Bool.eq_false_iff.2 hnot) he).2] at hv
      cases hv

end

end Schema

/-! ### The sender of mail -/

/-- Layers that do not hold the sender of mail under its field hold no member under its field, nor
do the defaults. -/
theorem Provider.find?_field_eq_none {P : Provider}
    (h : ∀ l ∈ P.layers, l.find? ["mail", "from_"] = none) :
    ∀ a ∈ Settings.schema.aliases, (P.join defaultsLayer).find? (a.1 ++ [a.2.field]) = none := by
  intro a ha
  rw [Settings.aliases_schema, List.mem_singleton] at ha
  -- the sender of mail is the only option with a second name
  subst ha
  by_contra hsome
  obtain ⟨v, hv⟩ := Option.ne_none_iff_exists'.1 hsome
  refine origin?_ne_none_of_contains (by simp) (contains_eq_true_iff.2 ⟨v, hv⟩)
    (origin?_eq_none_iff.2 fun l hl => ?_)
  rcases List.mem_cons.1 hl with rfl | hl
  · decide
  · exact h l hl

/-! ### Two layers over the defaults -/

section

variable {L O : Layer} {d : Document} {p : Path} {kind : Kind} {presence : Presence}
  {initial v x : Value}

/-- What is found in one of two layers is found first in the upper one. -/
theorem Provider.origin?_pair (L O : Layer) (p : Path) :
    (Provider.mk [L, O]).origin? p =
      if (O.find? p).isSome then some O.name
      else if (L.find? p).isSome then some L.name else none := by
  by_cases hO : (O.find? p).isSome <;> by_cases hL : (L.find? p).isSome <;>
    simp [origin?, hO, hL]

theorem find?_join_pair (L O : Layer) (p : Path) :
    ((Provider.mk [L, O]).join defaultsLayer).find? p =
      match O.contact p with
      | .misses => ((Provider.mk [defaultsLayer]).merge L).find? p
      | .blocks => none
      | .holds x =>
          Value.mergeOptional (((Provider.mk [defaultsLayer]).merge L).find? p) (some x) :=
  Provider.find?_merge ((Provider.mk [defaultsLayer]).merge L) O p

variable
  (hread : Settings.read (.table ((Provider.mk [L, O]).join defaultsLayer).merged) = .ok d)
  (hp : Settings.schema.below? p = some (.option kind presence initial))
  (hv : d.find? p = some v)

include hread hp hv

/-- An option that the upper layer holds is made of its value. -/
theorem read_of_upper (hx : O.find? p = some x) :
    (Schema.option kind presence initial).read x = .ok v := by
  have hfind := find?_join_pair L O p
  rw [Layer.find?_eq_some_iff.1 hx] at hfind
  exact Schema.read_of_mergeOptional hread hp hv hfind

/-- The upper layer blocks no option of the document, since nothing shows through it. -/
theorem find?_join_of_upper (hO : O.find? p = none) :
    ((Provider.mk [L, O]).join defaultsLayer).find? p =
      ((Provider.mk [defaultsLayer]).merge L).find? p := by
  rw [find?_join_pair]
  rcases e : O.contact p with - | - | x
  · rfl
  · -- the upper layer cannot block the option: the section in its way would be no table, and the
    -- tree would not fit
    obtain ⟨q, rest, x, rfl, hrest, hx, hnot⟩ := Layer.blocks_iff.2 e
    have hthere : ((Provider.mk [L, O]).join defaultsLayer).find? q = some x :=
      Provider.find?_merge_of_not_table (P := (Provider.mk [defaultsLayer]).merge L) hx hnot
    have htable := Schema.isTable_of_prefix hread hrest hp hv hthere
    rw [hnot] at htable
    cases htable
  · rw [Layer.find?_eq_some_iff.2 e] at hO
    cases hO

/-- An option that the lower layer holds and the upper one does not is made of the lower value. -/
theorem read_of_lower (hO : O.find? p = none) (hx : L.find? p = some x) :
    (Schema.option kind presence initial).read x = .ok v := by
  have hfind := find?_join_of_upper hread hp hv hO
  rw [Provider.find?_merge, Layer.find?_eq_some_iff.1 hx] at hfind
  exact Schema.read_of_mergeOptional hread hp hv hfind

/-- An option that no layer holds has its initial value. -/
theorem eq_initial_of_layers (hfields : ∀ l ∈ [L, O], l.find? ["mail", "from_"] = none)
    (hO : O.find? p = none) (hL : L.find? p = none) : v = initial := by
  rcases hJ : ((Provider.mk [L, O]).join defaultsLayer).find? p with - | x
  · exact Settings.schema_sound.find?_read_of_absent hread
      (Provider.find?_field_eq_none hfields) hp hJ hv
  · -- the value is that of the defaults, which are read as the initial document
    have hx := Schema.read_of_find? hread hp hv hJ
    rw [find?_join_of_upper hread hp hv hO, Provider.find?_merge] at hJ
    have hdefault : defaultsLayer.find? p = some x := by
      rcases e : L.contact p with - | - | y
      · rw [e] at hJ
        rwa [Provider.find?, Provider.merged_single] at hJ
      · rw [e] at hJ
        cases hJ
      · rw [Layer.find?_eq_some_iff.2 e] at hL
        cases hL
    have hinitial : Settings.schema.read (.table defaultsLayer.data) = .ok Settings.initial :=
      Settings.schema_sound.read_default rfl
    obtain ⟨e, he, hfind⟩ := Schema.find?_read hinitial hp hdefault
    obtain rfl : v = e := Except.ok.inj (hx.symm.trans he)
    exact Settings.schema_sound.find?_initial hp hfind

end

/-! ### The origins of a resolution -/

variable {files : Files} {source : Source} {environment : Environment}

theorem Source.name_load {l : Layer} (h : (source.load files).outcome = .ok l) :
    l.name = inlineLayer ∨ l.name = fileLayer := by
  rw [load] at h
  split at h
  · simp only [Run.bind_eq, Run.outcome_bind_eq_ok] at h
    obtain ⟨data, -, _, -, hl⟩ := h
    exact .inl (congrArg Layer.name (Except.ok.inj hl).symm)
  · simp only [Run.bind_eq, Run.outcome_bind_eq_ok] at h
    obtain ⟨text, -, data, -, _, -, hl⟩ := h
    exact .inr (congrArg Layer.name (Except.ok.inj hl).symm)

theorem name_collectOverrides {start separator : String} {l : Layer}
    (h : (collectOverrides environment start separator).outcome = .ok l) :
    l.name = overridesLayer := by
  obtain ⟨c, -, rfl⟩ := collectOverrides_eq_ok_iff.1 h
  rfl

/-- The two layers of the user have different names. -/
theorem exists_pair_of_userProvider {P : Provider}
    (h : (userProvider files source environment).outcome = .ok P) :
    ∃ L O : Layer, P = ⟨[L, O]⟩ ∧ L.name ≠ O.name := by
  obtain ⟨L, O, hL, hO, rfl⟩ := userProvider_eq_ok_iff.1 h
  refine ⟨L, O, rfl, ?_⟩
  rw [name_collectOverrides hO]
  rcases Source.name_load hL with hname | hname <;> rw [hname] <;> decide

/-- **The origin of an option tells where its value is from.**  Let a resolution succeed in which
no layer of the user holds the sender of mail under its field.  A leaf of the document is a section
without entries, or an option.  An option without an origin has its initial value; one whose origin
is a layer is what the schema makes of the value that this layer alone holds. -/
theorem resolve_origin {r : Resolution}
    (hr : (resolve files source environment).outcome = .ok r)
    (hfields : ∀ l ∈ r.provider.layers, l.find? ["mail", "from_"] = none)
    {e : String × Value} (he : e ∈ Settings.leaves r.document) :
    e.2 = .table [] ∨ ∃ kind presence initial,
      Settings.schema.below? (Path.ofText e.1) = some (.option kind presence initial) ∧
      (r.provider.origin? (Path.ofText e.1) = none → e.2 = initial) ∧
      ∀ name, r.provider.origin? (Path.ofText e.1) = some name →
        ∃ l ∈ r.provider.layers, l.name = name ∧
          (∀ m ∈ r.provider.layers, m.name = name → m = l) ∧
          ∃ x, l.find? (Path.ofText e.1) = some x ∧
            (Schema.option kind presence initial).read x = .ok e.2 := by
  obtain ⟨hprovider, -, hread, -⟩ := resolve_eq_ok_iff.1 hr
  obtain ⟨L, O, hP, hnames⟩ := exists_pair_of_userProvider hprovider
  rw [hP] at hread hfields ⊢
  rcases Settings.option_of_mem_leaves (Settings.schema_sound.fits_of_read hread) he with
    hempty | ⟨p, kind, presence, initial, rfl, hp, hv, -⟩
  · exact .inl hempty
  · refine .inr ⟨kind, presence, initial, hp, fun hnone => ?_, fun name hname => ?_⟩
    · rw [Provider.origin?_eq_none_iff] at hnone
      exact eq_initial_of_layers hread hp hv hfields (hnone O (by simp)) (hnone L (by simp))
    · -- the overrides come first, and only then the document is asked; each read its own value
      rw [Provider.origin?_pair] at hname
      rcases hO : O.find? (Path.ofText e.1) with - | x
      · rcases hL : L.find? (Path.ofText e.1) with - | x
        · simp [hO, hL] at hname
        · obtain rfl : L.name = name := by simpa [hO, hL] using hname
          refine ⟨L, by simp, rfl, ?_, x, hL, read_of_lower hread hp hv hO hL⟩
          simpa using fun h : O.name = L.name => absurd h.symm hnames
      · obtain rfl : O.name = name := by simpa [hO] using hname
        refine ⟨O, by simp, rfl, ?_, x, hO, read_of_upper hread hp hv hO⟩
        simpa using fun h : L.name = O.name => absurd h hnames

/-- With the variables that contend for the name of the website, the name is from the overrides, the
token from the document, and the address of the index from nowhere. -/
theorem resolve_origin_contested :
    ∃ r, (resolve noFiles leastSource contested).outcome = .ok r ∧
      (∀ l ∈ r.provider.layers, l.find? ["mail", "from_"] = none) ∧
      (("website.name", Value.text "[kept as it is") ∈ Settings.leaves r.document ∧
        ∃ l ∈ r.provider.layers, l.name = "env-overrides" ∧
          ∃ x, l.find? (Path.ofText "website.name") = some x ∧
            (Schema.option .text .required (.text "Torrust")).read x
              = .ok (.text "[kept as it is")) ∧
      (("tracker.token", Value.text "t") ∈ Settings.leaves r.document ∧
        ∃ l ∈ r.provider.layers, l.name = "inline" ∧
          ∃ x, l.find? (Path.ofText "tracker.token") = some x ∧
            (Schema.option .secret .required (.text "MyAccessToken")).read x = .ok (.text "t")) ∧
      ∀ v, ("net.bind_address", v) ∈ Settings.leaves r.document → v = .text "0.0.0.0:3001" := by
  obtain ⟨r, hr, hP, hleaves⟩ := exists_resolve
    (fun d => decide (("website.name", Value.text "[kept as it is") ∈ Settings.leaves d ∧
      ("tracker.token", Value.text "t") ∈ Settings.leaves d ∧
      ("net.bind_address", Value.table []) ∉ Settings.leaves d))
    userProvider_contested (by decide) (by decide +kernel)
  obtain ⟨hname, htoken, haddress⟩ := of_decide_eq_true hleaves
  -- neither layer uses the second name of the sender
  have hfields : ∀ l ∈ r.provider.layers, l.find? ["mail", "from_"] = none := by
    rw [hP]
    decide
  refine ⟨r, hr, hfields, ⟨hname, ?_⟩, ⟨htoken, ?_⟩, fun v hv => ?_⟩
  · rcases resolve_origin hr hfields hname with hempty | ⟨kind, presence, initial, hp, -, horigin⟩
    · cases hempty
    · obtain ⟨rfl, rfl, rfl⟩ : _ = kind ∧ _ = presence ∧ _ = initial := by
        simpa using Option.some.inj hp
      obtain ⟨l, hl, hlname, -, hx⟩ := horigin "env-overrides" (by rw [hP]; decide)
      exact ⟨l, hl, hlname, hx⟩
  · rcases resolve_origin hr hfields htoken with hempty | ⟨kind, presence, initial, hp, -, horigin⟩
    · cases hempty
    · obtain ⟨rfl, rfl, rfl⟩ : _ = kind ∧ _ = presence ∧ _ = initial := by
        simpa using Option.some.inj hp
      obtain ⟨l, hl, hlname, -, hx⟩ := horigin "inline" (by rw [hP]; decide)
      exact ⟨l, hl, hlname, hx⟩
  · rcases resolve_origin hr hfields hv with hempty | ⟨kind, presence, initial, hp, hnone, -⟩
    · obtain rfl : v = .table [] := hempty
      exact absurd hv haddress
    · have hoption : Settings.schema.below? (Path.ofText "net.bind_address")
          = some (.option .text .required (.text "0.0.0.0:3001")) := rfl
      obtain ⟨-, -, rfl⟩ : _ = kind ∧ _ = presence ∧ _ = initial := by
        simpa using Option.some.inj (hoption.symm.trans hp)
      have horigin : contestedProvider.origin? (Path.ofText "net.bind_address") = none := by
        decide
      exact hnone (hP.symm ▸ horigin)

end LayeredSettings
