/-
LayeredSettings/Proofs/Shape.lean

The shape of documents.

A document has the shape of its schema (`Schema.Shaped`): each section is a table
with the members in the order of the schema, or null if it may be unset, and each
option has a value of which a certain thing holds.  Two such things matter:

    Fits      the option was made of some value
    Settled   the option is left as it is when it is read once more

A schema is sound if its names tell members apart, its initial values are settled
and what may be unset is unset at first (`Schema.Sound`, which is decided for the
settings in `Settings.schema_sound`).  For a sound schema whatever is read fits
(`Schema.Sound.fits_of_read`), and an assignment to a document that fits gives
one that fits (`Schema.Sound.fits_of_assign`).

Schemas nest through lists of members; `Schema.induction` is the induction that
the proofs of this part go by.
-/
import LayeredSettings.Proofs.Kinds
import LayeredSettings.Proofs.Options
import Mathlib.Data.List.Nodup

namespace LayeredSettings

/-! ### Tables -/

namespace Table

variable {t : Table} {key : String} {v : Value}

theorem keys_cons (k : String) (v : Value) (t : Table) : keys ((k, v) :: t) = k :: keys t := rfl

theorem exists_get?_of_mem_keys (h : key ∈ keys t) : ∃ v, get? t key = some v :=
  Option.ne_none_iff_exists'.1 fun hnone => get?_eq_none_iff.1 hnone h

theorem mem_keys_of_get? (h : get? t key = some v) : key ∈ keys t := by
  by_contra hkey
  rw [get?_eq_none_iff.2 hkey] at h
  cases h

/-- Setting a key that is there anew keeps the keys. -/
theorem keys_put (h : key ∈ keys t) (v : Value) : keys (put t key v) = keys t := by
  induction t with
  | nil => cases h
  | cons e rest ih =>
    rcases e with ⟨k, w⟩
    by_cases hk : k = key
    · simp [put, hk, keys_cons]
    · have hrest : key ∈ keys rest := by
        rw [keys_cons, List.mem_cons] at h
        exact h.resolve_left (Ne.symm hk)
      simp [put, hk, keys_cons, ih hrest]

end Table

namespace Schema

/-! ### Induction over schemas -/

/-- What holds of every option, and of a section if it holds of its members, holds of every
schema. -/
theorem induction {motive : Schema → Prop}
    (option : ∀ kind presence initial, motive (.option kind presence initial))
    (group : ∀ title optional members, (∀ m ∈ members, motive m.2) →
      motive (.group title optional members)) (s : Schema) : motive s :=
  @Schema.rec motive (fun members => ∀ m ∈ members, motive m.2) (fun m => motive m.2)
    option group (fun _ hm => absurd hm List.not_mem_nil)
    (fun _ _ hhead htail _ hm => (List.mem_cons.1 hm).elim (fun e => e ▸ hhead) (htail _))
    (fun _ _ h => h) s

/-! ### Members -/

/-- The keys of the members of a section. -/
def memberKeys (members : List (Name × Schema)) : List String := members.map fun m => m.1.key

/-- What the schema of a member makes of the value that a table holds for it; without one it is
the initial document. -/
def readMember (m : Name × Schema) (t : Table) : Except (List Issue) Value :=
  match locate m.1 t with
  | none => .ok m.2.initial
  | some (key, v) => under key (m.2.read v)

theorem readMembers_cons (m : Name × Schema) (rest : List (Name × Schema)) (t : Table) :
    readMembers (m :: rest) t = alongside m.1.key (readMember m t) (readMembers rest t) := by
  rw [readMembers]
  rfl

theorem readMembers_congr {members : List (Name × Schema)} {t u : Table}
    (h : ∀ m ∈ members, readMember m t = readMember m u) :
    readMembers members t = readMembers members u := by
  induction members with
  | nil => rfl
  | cons m rest ih =>
    rw [readMembers_cons, readMembers_cons, h m List.mem_cons_self,
      ih fun m' hm' => h m' (List.mem_cons_of_mem m hm')]

/-- The members of a section are read one by one, each under its key. -/
theorem readMembers_eq_ok_iff {members : List (Name × Schema)} {t entries : Table}
    (hnodup : (memberKeys members).Nodup) :
    readMembers members t = .ok entries ↔
      Table.keys entries = memberKeys members ∧
        ∀ m ∈ members, ∃ v, Table.get? entries m.1.key = some v ∧ readMember m t = .ok v := by
  induction members generalizing entries with
  | nil =>
    simp only [readMembers, memberKeys, List.map_nil, List.not_mem_nil, false_implies,
      implies_true, and_true, Except.ok.injEq]
    rcases entries with - | ⟨e, entries⟩ <;> simp [Table.keys]
  | cons m rest ih =>
    rw [memberKeys, List.map_cons, List.nodup_cons] at hnodup
    rw [readMembers_cons, alongside_eq_ok]
    constructor
    · rintro ⟨v, others, hv, hothers, rfl⟩
      obtain ⟨hkeys, hmembers⟩ := (ih hnodup.2).1 hothers
      refine ⟨by rw [Table.keys_cons, hkeys]; rfl, fun m' hm' => ?_⟩
      rcases List.mem_cons.1 hm' with rfl | hm'
      · exact ⟨v, by simp [Table.get?], hv⟩
      · obtain ⟨w, hw, hread⟩ := hmembers m' hm'
        -- the keys are distinct, so the first entry does not hide that of another member
        have hne : m.1.key ≠ m'.1.key := by
          intro hkey
          exact hnodup.1 (hkey ▸ List.mem_map_of_mem hm')
        exact ⟨w, by simpa [Table.get?, hne] using hw, hread⟩
    · rintro ⟨hkeys, hmembers⟩
      rcases entries with - | ⟨⟨k, x⟩, others⟩
      · cases hkeys
      · rw [Table.keys_cons, memberKeys, List.map_cons, List.cons.injEq] at hkeys
        obtain ⟨rfl, hkeys⟩ := hkeys
        obtain ⟨v, hv, hread⟩ := hmembers m List.mem_cons_self
        -- the first entry stands under the key of the first member, and it is what this one reads
        -- as
        obtain rfl : x = v := by simpa [Table.get?] using hv
        refine ⟨x, others, hread, (ih hnodup.2).2 ⟨hkeys, fun m' hm' => ?_⟩, rfl⟩
        obtain ⟨w, hw, hread'⟩ := hmembers m' (List.mem_cons_of_mem m hm')
        have hne : m.1.key ≠ m'.1.key := by
          intro hkey
          exact hnodup.1 (hkey ▸ List.mem_map_of_mem hm')
        exact ⟨w, by simpa [Table.get?, hne] using hw, hread'⟩

theorem readMembers_member {members : List (Name × Schema)} {t entries : Table}
    (hnodup : (memberKeys members).Nodup) (h : readMembers members t = .ok entries)
    {m : Name × Schema} (hm : m ∈ members) :
    ∃ v, Table.get? entries m.1.key = some v ∧ readMember m t = .ok v :=
  ((readMembers_eq_ok_iff hnodup).1 h).2 m hm

/-! ### Documents in the shape of a schema -/

/-- A document in the shape of a schema: a section that may be unset is null or a table, with the
members of the section in order, and each option has a value of a certain kind. -/
inductive Shaped (fits : Kind → Presence → Value → Prop) : Schema → Value → Prop
  | option {kind presence initial v} (h : fits kind presence v) :
      Shaped fits (.option kind presence initial) v
  | unset {title members} : Shaped fits (.group title true members) .null
  | group {title optional members entries}
      (hkeys : Table.keys entries = memberKeys members)
      (hmembers : ∀ m ∈ members, ∀ v, Table.get? entries m.1.key = some v →
        Shaped fits m.2 v) :
      Shaped fits (.group title optional members) (.table entries)

/-- Each option has a value that its schema has made of something. -/
abbrev Fits : Schema → Value → Prop :=
  Shaped fun kind presence v => ∃ w, readOption kind presence w = .ok v

/-- Each option has a value that its schema leaves as it is. -/
abbrev Settled : Schema → Value → Prop :=
  Shaped fun kind presence v => readOption kind presence v = .ok v

/-! ### Sound schemas -/

/-- Names that tell members apart: no two have the same key, and a field that is called otherwise
than its key has no name that is the key of a member. -/
def Distinct (members : List (Name × Schema)) : Prop :=
  (memberKeys members).Nodup ∧
    ∀ m ∈ members, m.1.field = m.1.key ∨ m.1.field ∉ memberKeys members

instance (members : List (Name × Schema)) : Decidable (Distinct members) :=
  inferInstanceAs (Decidable (_ ∧ _))

mutual

/-- What is to be expected of a schema: its names tell members apart, an initial value is left
as it is, and what may be unset is unset at first. -/
def Sound : Schema → Prop
  | .option kind presence initial =>
      readOption kind presence initial = .ok initial ∧
        (presence = .required ∨ initial = .null)
  | .group _ _ members => Distinct members ∧ SoundMembers members

/-- The schema of each member is as expected. -/
def SoundMembers : List (Name × Schema) → Prop
  | [] => True
  | (_, s) :: rest => s.Sound ∧ SoundMembers rest

end

theorem soundMembers_iff {members : List (Name × Schema)} :
    SoundMembers members ↔ ∀ m ∈ members, m.2.Sound := by
  induction members with
  | nil => simp [SoundMembers]
  | cons m rest ih => simp [SoundMembers, ih]

theorem sound_group_iff {title : String} {optional : Bool} {members : List (Name × Schema)} :
    (Schema.group title optional members).Sound ↔
      Distinct members ∧ ∀ m ∈ members, m.2.Sound := by
  rw [Sound, soundMembers_iff]

mutual

/-- Whether a schema is as expected. -/
def decideSound : (s : Schema) → Decidable s.Sound
  | .option _ _ _ => inferInstanceAs (Decidable (_ ∧ _))
  | .group _ _ members =>
      have := decideSoundMembers members
      inferInstanceAs (Decidable (_ ∧ _))

/-- Whether the schema of each member is as expected. -/
def decideSoundMembers : (members : List (Name × Schema)) → Decidable (SoundMembers members)
  | [] => isTrue trivial
  | (_, s) :: rest =>
      have := decideSound s
      have := decideSoundMembers rest
      inferInstanceAs (Decidable (_ ∧ _))

end

instance (s : Schema) : Decidable s.Sound := decideSound s

/-! ### Initial documents -/

theorem keys_initials (members : List (Name × Schema)) :
    Table.keys (initials members) = memberKeys members := by
  induction members with
  | nil => rfl
  | cons m rest ih => rw [initials, Table.keys_cons, ih]; rfl

theorem get?_initials {members : List (Name × Schema)} (hnodup : (memberKeys members).Nodup)
    {m : Name × Schema} (hm : m ∈ members) :
    Table.get? (initials members) m.1.key = some m.2.initial := by
  induction members with
  | nil => cases hm
  | cons n rest ih =>
    rw [memberKeys, List.map_cons, List.nodup_cons] at hnodup
    rcases List.mem_cons.1 hm with rfl | hrest
    · simp [initials, Table.get?]
    · have hne : n.1.key ≠ m.1.key := fun hkey => hnodup.1 (hkey ▸ List.mem_map_of_mem hrest)
      simpa [initials, Table.get?, hne] using ih hnodup.2 hrest

/-- The initial document is left as it is. -/
theorem Sound.settled_initial {s : Schema} (hs : s.Sound) : s.Settled s.initial := by
  induction s using Schema.induction with
  | option kind presence initial => exact .option hs.1
  | group title optional members ih =>
    obtain ⟨hdistinct, hmembers⟩ := sound_group_iff.1 hs
    -- an optional section is unset at first, any other one holds its members
    cases optional with
    | true => exact .unset
    | false =>
      refine .group (keys_initials members) fun m hm v hv => ?_
      rw [get?_initials hdistinct.1 hm] at hv
      obtain rfl := Option.some.inj hv
      exact ih m hm (hmembers m hm)

theorem Shaped.mono {fits fits' : Kind → Presence → Value → Prop} {s : Schema} {d : Value}
    (hd : s.Shaped fits d) (h : ∀ kind presence v, fits kind presence v → fits' kind presence v) :
    s.Shaped fits' d := by
  induction hd with
  | option hv => exact .option (h _ _ _ hv)
  | unset => exact .unset
  | group hkeys _ ih => exact .group hkeys ih

theorem Settled.fits {s : Schema} {d : Value} (hd : s.Settled d) : s.Fits d :=
  hd.mono fun _ _ v hv => ⟨v, hv⟩

/-! ### Reading and assigning -/

theorem readMember_eq_ok {m : Name × Schema} {t : Table} {d : Value}
    (h : readMember m t = .ok d) : d = m.2.initial ∨ ∃ v, m.2.read v = .ok d := by
  rw [readMember] at h
  split at h
  · exact .inl (Except.ok.inj h).symm
  · exact .inr ⟨_, under_eq_ok.1 h⟩

/-- What a schema has made of a value has its shape. -/
theorem Sound.fits_of_read {s : Schema} (hs : s.Sound) {v d : Value} (h : s.read v = .ok d) :
    s.Fits d := by
  induction s using Schema.induction generalizing v d with
  | option kind presence initial => exact .option ⟨v, h⟩
  | group title optional members ih =>
    obtain ⟨hdistinct, hmembers⟩ := sound_group_iff.1 hs
    rcases v.eq_table_or_not_table with ⟨t, rfl⟩ | hv
    · obtain ⟨entries, hentries, rfl⟩ := read_group_table.1 h
      obtain ⟨hkeys, hread⟩ := (readMembers_eq_ok_iff hdistinct.1).1 hentries
      refine .group hkeys fun m hm d hd => ?_
      obtain ⟨e, he, hmember⟩ := hread m hm
      obtain rfl : e = d := Option.some.inj (he.symm.trans hd)
      -- a member that is not there has its initial value, which fits because it is settled
      rcases readMember_eq_ok hmember with rfl | ⟨w, hw⟩
      · exact (hmembers m hm).settled_initial.fits
      · exact ih m hm (hmembers m hm) hw
    · cases v with
      | table t => cases hv
      | null =>
        cases optional with
        | true =>
          obtain rfl := Except.ok.inj h
          exact .unset
        | false => cases h
      | _ => cases h

theorem key_mem_memberKeys {members : List (Name × Schema)} {m : Name × Schema}
    (hm : m ∈ members) : m.1.key ∈ memberKeys members :=
  List.mem_map_of_mem hm

theorem eq_of_key_eq {members : List (Name × Schema)} (hnodup : (memberKeys members).Nodup)
    {m n : Name × Schema} (hm : m ∈ members) (hn : n ∈ members) (h : m.1.key = n.1.key) :
    m = n :=
  List.inj_on_of_nodup_map hnodup hm hn h

/-- A member set anew to a document of its schema. -/
theorem Shaped.put {fits : Kind → Presence → Value → Prop} {title : String} {optional : Bool}
    {members : List (Name × Schema)} {entries : Table}
    (hd : (Schema.group title optional members).Shaped fits (.table entries))
    (hnodup : (memberKeys members).Nodup) {m : Name × Schema} (hm : m ∈ members) {v : Value}
    (hv : m.2.Shaped fits v) :
    (Schema.group title optional members).Shaped fits (.table (Table.put entries m.1.key v)) := by
  cases hd with
  | group hkeys hmembers =>
    refine .group ?_ fun n hn w hw => ?_
    · rw [Table.keys_put (hkeys ▸ key_mem_memberKeys hm), hkeys]
    · rw [Table.get?_put] at hw
      split at hw
      · -- members of one key are the same member
        rename_i hkey
        obtain rfl := eq_of_key_eq hnodup hm hn hkey
        obtain rfl := Option.some.inj hw
        exact hv
      · exact hmembers n hn w hw

theorem Shaped.exists_member {fits : Kind → Presence → Value → Prop} {title : String}
    {optional : Bool} {members : List (Name × Schema)} {entries : Table}
    (hd : (Schema.group title optional members).Shaped fits (.table entries))
    {m : Name × Schema} (hm : m ∈ members) :
    ∃ v, Table.get? entries m.1.key = some v ∧ m.2.Shaped fits v := by
  cases hd with
  | group hkeys hmembers =>
    obtain ⟨v, hv⟩ := Table.exists_get?_of_mem_keys (hkeys ▸ key_mem_memberKeys hm)
    exact ⟨v, hv, hmembers m hm v hv⟩

/-- A section that is always there is a table. -/
theorem Shaped.exists_table {fits : Kind → Presence → Value → Prop} {title : String}
    {members : List (Name × Schema)} {d : Value}
    (hd : (Schema.group title false members).Shaped fits d) : ∃ entries, d = .table entries := by
  cases hd with
  | group => exact ⟨_, rfl⟩

/-- An assignment keeps the shape. -/
theorem Sound.fits_of_assign {s : Schema} (hs : s.Sound) {d e v : Value} {path : List String}
    (hd : s.Fits d) (h : s.assign d path v = .ok e) : s.Fits e := by
  induction path generalizing s d e with
  | nil => cases h
  | cons field rest ih =>
    cases hd with
    | option hw => cases h
    | unset => cases h
    | group hkeys hmembers =>
      rename_i title optional members entries
      have hgroup : (Schema.group title optional members).Fits (.table entries) :=
        .group hkeys hmembers
      obtain ⟨hdistinct, hsound⟩ := sound_group_iff.1 hs
      rcases hm : member? members field with - | m
      · rcases rest with - | ⟨next, rest⟩ <;> simp [assign, hm] at h
      · have hmem : m ∈ members := List.mem_of_find?_eq_some hm
        rcases rest with - | ⟨next, rest⟩
        · -- the field itself is assigned
          rcases hr : under field (m.2.read v) with issues | w
          · simp [assign, hm, hr] at h
          · obtain rfl : Value.table (Table.put entries m.1.key w) = e := by
              simpa [assign, hm, hr] using h
            exact hgroup.put hdistinct.1 hmem
              ((hsound m hmem).fits_of_read (under_eq_ok.1 hr))
        · -- the path goes on in a member, which fits and is put back in its place
          obtain ⟨u, hu, hfits⟩ := hgroup.exists_member hmem
          rcases hr : m.2.assign u (next :: rest) v with refusal | w
          · rw [assign.eq_def] at h
            simp [hm, hu, hr] at h
          · obtain rfl : Value.table (Table.put entries m.1.key w) = e := by
              rw [assign.eq_def] at h
              simpa [hm, hu, hr] using h
            exact hgroup.put hdistinct.1 hmem (ih (hsound m hmem) hfits hr)

end Schema

namespace Settings

theorem schema_sound : schema.Sound := by decide +kernel

end Settings

end LayeredSettings
