/-
LayeredSettings/Proofs/Veiled.lean

Trees that differ in secrets at most, and what a schema makes of them.

`Value.Veiled` compares two trees key by key: at each path there are the same
values, or tables in both, or, where a secret belongs, two texts that are not
empty.  Assignments and layers keep this (`Value.Veiled.assigned`,
`Value.Veiled.merge`), and a lookup cannot tell which of the trees it looks in,
unless it asks for a secret.

Secrets belong where the schema has them (`Schema.Hides`).  Then both trees have the
same issues, or they describe documents that are the same once their secrets are
masked.  Main result: `Schema.Sound.read_veiled`, by induction on the schema.
-/
import LayeredSettings.Proofs.RoundTrip
import LayeredSettings.Proofs.Straying

namespace LayeredSettings

open Value (assigned assigned_cons entries mergeOptional mergeOptional_of_not_table)

/-! ### Trees -/

/-- Two trees that differ at most in texts, none of them empty, at the paths of secrets. -/
inductive Value.Veiled : (Path → Prop) → Option Value → Option Value → Prop
  | same {secret : Path → Prop} (v : Option Value) : Veiled secret v v
  | secret {secret : Path → Prop} {a b : String} (h : secret []) (ha : a ≠ "") (hb : b ≠ "") :
      Veiled secret (some (.text a)) (some (.text b))
  | tables {secret : Path → Prop} {s t : Table}
      (h : ∀ key, Veiled (fun p => secret (key :: p)) (Table.get? s key) (Table.get? t key)) :
      Veiled secret (some (.table s)) (some (.table t))

namespace Value

variable {secret : Path → Prop} {v w : Option Value} {x y : Value}

theorem Veiled.mono {secret' : Path → Prop} (h : Veiled secret v w)
    (hsub : ∀ p, secret p → secret' p) : Veiled secret' v w := by
  induction h generalizing secret' with
  | same v => exact .same v
  | secret h ha hb => exact .secret (hsub [] h) ha hb
  | tables h ih => exact .tables fun key => ih key fun p => hsub (key :: p)

theorem Veiled.isSome_eq (h : Veiled secret v w) : v.isSome = w.isSome := by
  cases h <;> rfl

/-- Below a key. -/
theorem Veiled.entries (h : Veiled secret v w) (key : String) :
    Veiled (fun p => secret (key :: p)) (Table.get? (entries v) key)
      (Table.get? (entries w) key) := by
  cases h with
  | same => exact .same _
  | secret => exact .same _
  | tables h => exact h key

/-- At a path. -/
theorem Veiled.find? (h : Veiled secret v w) (p : Path) :
    Veiled (fun q => secret (p ++ q)) (v.bind (Value.find? p)) (w.bind (Value.find? p)) := by
  induction h generalizing p with
  | same v => exact .same _
  -- neither secret is a table, so nothing is found below them
  | secret h ha hb =>
    rcases p with - | ⟨key, rest⟩
    · exact .secret h ha hb
    · exact .same _
  | tables h ih =>
    rcases p with - | ⟨key, rest⟩
    · exact .tables h
    · simp only [Option.bind_some, Table.find?_cons]
      exact ih key rest

/-- An assignment of the same value, or of a secret at its path. -/
theorem Veiled.assigned {p : Path} (h : Veiled secret v w)
    (hxy : Veiled (fun q => secret (p ++ q)) (some x) (some y)) :
    Veiled secret (some (assigned v p x)) (some (assigned w p y)) := by
  -- by induction on the path, since what gives way to a table is compared with it anew
  induction p generalizing secret v w with
  | nil => exact hxy
  | cons key rest ih =>
    rw [assigned_cons, assigned_cons]
    refine .tables fun k => ?_
    rw [Table.get?_put, Table.get?_put]
    split
    · rename_i hk
      rw [← hk]
      exact ih (h.entries key) hxy
    · exact h.entries k

/-- Over the same tree. -/
theorem Veiled.merge (h : Veiled secret v w) (below : Option Value) :
    Veiled secret (mergeOptional below v) (mergeOptional below w) := by
  induction h generalizing below with
  | same v => exact .same _
  | secret h ha hb =>
    -- a text covers whatever is below
    rw [mergeOptional_of_not_table below rfl, mergeOptional_of_not_table below rfl]
    exact .secret h ha hb
  | @tables _ s t h ih =>
    rcases below with - | u
    · exact .tables h
    rcases u.eq_table_or_not_table with ⟨r, rfl⟩ | hu
    · simp only [mergeOptional, merge_table]
      refine .tables fun key => ?_
      rw [Table.get?_merge, Table.get?_merge]
      exact ih key (Table.get? r key)
    · simp only [mergeOptional, merge_of_not_table_left hu]
      exact .tables h

end Value

/-! ### Ways to end -/

/-- Two computations end the same: with the same failure, or with results that are related. -/
inductive Agree {ε α : Type} (R : α → α → Prop) : Except ε α → Except ε α → Prop
  | ok {a b : α} (h : R a b) : Agree R (.ok a) (.ok b)
  | error (e : ε) : Agree R (.error e) (.error e)

section

variable {ε α : Type} {R R' : α → α → Prop} {x y : Except ε α}

theorem Agree.refl (h : ∀ a, R a a) (x : Except ε α) : Agree R x x := by
  rcases x with e | a
  · exact .error e
  · exact .ok (h a)

theorem Agree.mono (h : Agree R x y) (hsub : ∀ a b, R a b → R' a b) : Agree R' x y := by
  rcases h with hR | e
  · exact .ok (hsub _ _ hR)
  · exact .error e

theorem Agree.symm (h : Agree R x y) : Agree (fun a b => R b a) y x := by
  rcases h with hR | e
  · exact .ok hR
  · exact .error e

theorem Agree.trans {S T : α → α → Prop} {z : Except ε α} (h : Agree R x y) (h' : Agree S y z)
    (hRS : ∀ a b c, R a b → S b c → T a c) : Agree T x z := by
  rcases h with hR | e
  · rcases h' with hS | -
    exact .ok (hRS _ _ _ hR hS)
  · rcases h' with - | -
    exact .error e

/-- One computation after the other. -/
theorem Agree.outcome_bind {β : Type} {S : β → β → Prop} {a b : Run ε α} {f g : α → Run ε β}
    (h : Agree R a.outcome b.outcome)
    (hfg : ∀ x y, R x y → Agree S (f x).outcome (g y).outcome) :
    Agree S (a.bind f).outcome (b.bind g).outcome := by
  generalize ha : a.outcome = x at h
  generalize hb : b.outcome = y at h
  rcases h with hR | e
  · rw [Run.outcome_bind_of_ok ha, Run.outcome_bind_of_ok hb]
    exact hfg _ _ hR
  · rw [Run.outcome_bind_of_error ha, Run.outcome_bind_of_error hb]
    exact .error e

end

/-! ### Reading -/

namespace Schema

open Value (Veiled)

variable {secret : Path → Prop} {s : Schema}

/-- What counts as a secret is a secret of the schema. -/
def Hides (s : Schema) (secret : Path → Prop) : Prop :=
  ∀ p, secret p → ∃ presence initial, s.below? p = some (.option .secret presence initial)

/-- Two documents that differ in secrets at most and are the same once these are masked. -/
structure MaskedAlike (s : Schema) (secret : Path → Prop) (d e : Value) : Prop where
  veiled : Veiled secret (some d) (some e)
  masked : s.masked d = s.masked e

theorem MaskedAlike.refl (s : Schema) (secret : Path → Prop) (d : Value) :
    s.MaskedAlike secret d d :=
  ⟨.same _, rfl⟩

theorem under_agree {R : Value → Value → Prop} {x y : Except (List Issue) Value}
    (h : Agree R x y) (key : String) : Agree R (under key x) (under key y) := by
  rcases h with hR | e
  · exact .ok hR
  · exact .error _

/-! #### Options -/

/-- Every table is a misfit in the same way. -/
theorem readOption_table_eq (kind : Kind) (presence : Presence) (t u : Table) :
    readOption kind presence (.table t) = readOption kind presence (.table u) := by
  cases presence <;> cases kind <;> rfl

/-- A text that is not empty is the value of a secret. -/
theorem readOption_secret {presence : Presence} {a : String} (ha : a ≠ "") :
    readOption .secret presence (.text a) = .ok (.text a) := by
  cases presence <;> simp [readOption, Kind.read, Kind.readText, ha]

theorem masked_secret {presence : Presence} {initial : Value} {a : String} (ha : a ≠ "") :
    (Schema.option .secret presence initial).masked (.text a) = .text Kind.mask := by
  simp [masked, Kind.masked, ha]

theorem read_option_veiled {kind : Kind} {presence : Presence} {initial v w : Value}
    (hhides : (Schema.option kind presence initial).Hides secret)
    (h : Veiled secret (some v) (some w)) :
    Agree ((Schema.option kind presence initial).MaskedAlike secret)
      ((Schema.option kind presence initial).read v)
      ((Schema.option kind presence initial).read w) := by
  simp only [read]
  cases h with
  | same => exact .refl (MaskedAlike.refl _ _) _
  | @secret _ a b hsecret ha hb =>
    -- only a secret takes two different texts, and both are read as they are
    obtain ⟨presence', initial', hoption⟩ := hhides [] hsecret
    cases hoption
    rw [readOption_secret ha, readOption_secret hb]
    exact .ok ⟨.secret hsecret ha hb, by rw [masked_secret ha, masked_secret hb]⟩
  | @tables _ t u =>
    rw [readOption_table_eq kind presence t u]
    exact .refl (MaskedAlike.refl _ _) _

/-! #### Sections -/

section

variable {title : String} {optional : Bool} {members : List (Name × Schema)} {t u : Table}

theorem Hides.member (hhides : (Schema.group title optional members).Hides secret)
    (hdistinct : Distinct members) {m : Name × Schema} (hm : m ∈ members) :
    m.2.Hides fun p => secret (m.1.key :: p) := by
  intro p hp
  obtain ⟨presence, initial, hbelow⟩ := hhides _ hp
  exact ⟨presence, initial, by rwa [below?_cons hdistinct.1 hm] at hbelow⟩

/-- No secret is held under a field that is called otherwise than its key. -/
theorem Hides.not_field (hhides : (Schema.group title optional members).Hides secret)
    {field : String} (hfield : field ∉ memberKeys members) (p : Path) :
    ¬ secret (field :: p) := by
  intro hp
  obtain ⟨presence, initial, hbelow⟩ := hhides _ hp
  obtain ⟨m, hm, hkey, -⟩ := exists_member_of_below? hbelow
  exact hfield (hkey ▸ key_mem_memberKeys hm)

/-- A member of two tables that differ in secrets at most. -/
theorem readMember_veiled (hhides : (Schema.group title optional members).Hides secret)
    (hdistinct : Distinct members) {m : Name × Schema} (hm : m ∈ members)
    (hread : ∀ secret : Path → Prop, m.2.Hides secret → ∀ v w, Veiled secret (some v) (some w) →
      Agree (m.2.MaskedAlike secret) (m.2.read v) (m.2.read w))
    (h : ∀ key, Veiled (fun p => secret (key :: p)) (Table.get? t key) (Table.get? u key)) :
    Agree (m.2.MaskedAlike fun p => secret (m.1.key :: p)) (readMember m t) (readMember m u) := by
  have hkey := h m.1.key
  have hfield := h m.1.field
  simp only [readMember, locate]
  rcases ht : Table.get? t m.1.key with - | v <;> rcases hu : Table.get? u m.1.key with - | w <;>
    rw [ht, hu] at hkey
  · rcases hdistinct.2 m hm with heq | hnone
    · rw [heq, ht, hu]
      exact .refl (MaskedAlike.refl _ _) _
    -- what the field holds is no secret, and is read as what the key would hold
    have hplain := hhides.not_field hnone
    rcases ht' : Table.get? t m.1.field with - | v <;>
      rcases hu' : Table.get? u m.1.field with - | w <;> rw [ht', hu'] at hfield
    · exact .refl (MaskedAlike.refl _ _) _
    · cases hfield.isSome_eq
    · cases hfield.isSome_eq
    · have hread' := hread _ (fun p hp => absurd hp (hplain p)) v w hfield
      refine (under_agree hread' m.1.field).mono fun d e hde => ⟨?_, hde.masked⟩
      exact hde.veiled.mono fun p hp => absurd hp (hplain p)
  · cases hkey.isSome_eq
  · cases hkey.isSome_eq
  · exact under_agree (hread _ (hhides.member hdistinct hm) v w hkey) m.1.key

/-- Two lists of members that differ in secrets at most and are the same once these are masked. -/
structure MembersAlike (members : List (Name × Schema)) (secret : Path → Prop)
    (t u : Table) : Prop where
  veiled : ∀ key, Veiled (fun p => secret (key :: p)) (Table.get? t key) (Table.get? u key)
  masked : maskedMembers members t = maskedMembers members u

theorem readMembers_veiled
    (h : ∀ m ∈ members, Agree (m.2.MaskedAlike fun p => secret (m.1.key :: p))
      (readMember m t) (readMember m u)) :
    Agree (MembersAlike members secret) (readMembers members t) (readMembers members u) := by
  induction members with
  | nil => exact .ok ⟨fun key => .same _, rfl⟩
  | cons m rest ih =>
    rw [readMembers_cons, readMembers_cons]
    have hmember := h m List.mem_cons_self
    have hrest := ih fun m' hm' => h m' (List.mem_cons_of_mem m hm')
    generalize readMember m t = x, readMember m u = y at hmember
    generalize readMembers rest t = x', readMembers rest u = y' at hrest
    -- both sides read the member and the rest, or they have the same issues
    rcases hmember with hmember | issues <;> rcases hrest with hrest | issues'
    · refine .ok ⟨fun key => ?_, ?_⟩
      · simp only [Table.get?]
        split
        · rename_i hkey
          rw [← hkey]
          exact hmember.veiled
        · exact hrest.veiled key
      · simp only [maskedMembers, hmember.masked, hrest.masked]
    · exact .error issues'
    · exact .error issues
    · exact .error (issues ++ issues')

end

/-- **What a schema makes of trees that differ in secrets.**  Both have the same issues, or describe
documents that differ in secrets at most and are the same once these are masked. -/
theorem Sound.read_veiled (hs : s.Sound) (hhides : s.Hides secret) {v w : Value}
    (h : Veiled secret (some v) (some w)) :
    Agree (s.MaskedAlike secret) (s.read v) (s.read w) := by
  induction s using Schema.induction generalizing secret v w with
  | option kind presence initial => exact read_option_veiled hhides h
  | group title optional members ih =>
    obtain ⟨hdistinct, hsound⟩ := sound_group_iff.1 hs
    cases h with
    | same => exact .refl (MaskedAlike.refl _ _) _
    | secret hsecret =>
      -- a section is no secret
      obtain ⟨presence, initial, hoption⟩ := hhides [] hsecret
      cases hoption
    | @tables _ t u htables =>
      have hmembers := readMembers_veiled fun m hm =>
        readMember_veiled hhides hdistinct hm
          (fun _ hhides' _ _ hvw => ih m hm (hsound m hm) hhides' hvw) htables
      simp only [read]
      generalize readMembers members t = x, readMembers members u = y at hmembers
      rcases hmembers with hentries | issues
      · exact .ok ⟨.tables hentries.veiled, by rw [masked, masked, hentries.masked]⟩
      · exact .error issues

end Schema

end LayeredSettings
