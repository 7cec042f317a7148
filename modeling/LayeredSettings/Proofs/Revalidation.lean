/-
LayeredSettings/Proofs/Revalidation.lean

Assigning to a document, and reading the whole document anew.

An assignment names a part of a document by fields, a tree by keys
(`Schema.keyPath?`).  It reads the value by the schema of the part and puts what
comes out in its place (`Schema.Sound.assign_eq_ok_iff`).  The other way to the same
document is to put the value itself into what is set of the document, and to read
all of it.  The part is read as before, and the rest is read as it was if its URLs
are given back (`Schema.Sound.read_assigned_present`).

Main result: `Settings.assign_agrees_with_read`.  An assignment and the reading
of the layer data with the same value in place succeed together, with the same
document, unless a URL elsewhere in the document is not given back by reading its
text.  `Settings.assign_apart_from_read` is such a document.
-/
import LayeredSettings.Proofs.Beside
import LayeredSettings.Proofs.Reachable
import Mathlib.Data.List.Infix

namespace LayeredSettings

open Value (assigned assigned_cons SameBeside)

/-! ### Sections on the way -/

/-- A tree has a section wherever a path goes on. -/
def Value.SectionsTo (keys : Path) (d : Value) : Prop :=
  ∀ q, q <+: keys → q ≠ keys → ∃ t, d.find? q = some (.table t)

namespace Value

variable {key : String} {rest : Path} {d u : Value} {t : Table}

instance (keys : Path) (d : Value) : Decidable (SectionsTo keys d) :=
  decidable_of_iff (∀ q ∈ keys.inits, q ≠ keys → (d.find? q).any isTable) <| by
    simp only [List.mem_inits]
    refine forall_congr' fun q => forall_congr' fun _ => forall_congr' fun _ => ?_
    rcases d.find? q with - | v
    · simp
    · rcases v.eq_table_or_not_table with ⟨t, rfl⟩ | hv
      · simp [isTable]
      · rw [Option.any_some, hv]
        refine iff_of_false Bool.false_ne_true ?_
        rintro ⟨t, ht⟩
        obtain rfl := Option.some.inj ht
        cases hv

theorem SectionsTo.exists_table (h : SectionsTo (key :: rest) d) : ∃ t, d = .table t := by
  obtain ⟨t, ht⟩ := h [] List.nil_prefix nofun
  exact ⟨t, Option.some.inj ((find?_nil d).symm.trans ht)⟩

/-- Below the first key the rest of the path is left. -/
theorem SectionsTo.below (h : SectionsTo (key :: rest) (.table t))
    (hu : Table.get? t key = some u) : SectionsTo rest u := by
  intro q hq hne
  obtain ⟨x, hx⟩ := h (key :: q) (List.cons_prefix_cons.2 ⟨rfl, hq⟩) fun hsame =>
    hne (List.cons.inj hsame).2
  rw [Table.find?_cons, hu] at hx
  exact ⟨x, hx⟩

end Value

namespace Schema

variable {s part : Schema} {fields : List String} {keys rest : Path} {d e v w : Value}

/-! ### Fields and keys -/

/-- The keys of the members that fields name. -/
def keyPath? : Schema → List String → Option Path
  | _, [] => some []
  | .group _ _ members, field :: rest =>
      match member? members field with
      | some (name, s) => (keyPath? s rest).map (name.key :: ·)
      | none => none
  | .option _ _ _, _ :: _ => none

/-- The first of some fields names a member of a section, and the rest go on from there. -/
theorem exists_member_of_keyPath? {field : String}
    (h : s.keyPath? (field :: fields) = some keys) :
    ∃ title optional members m rest, s = .group title optional members ∧
      member? members field = some m ∧ m ∈ members ∧ m.2.keyPath? fields = some rest ∧
      keys = m.1.key :: rest := by
  rcases s with ⟨kind, presence, initial⟩ | ⟨title, optional, members⟩
  · cases h
  · rcases hm : member? members field with - | m
    · simp [keyPath?, hm] at h
    · -- the key of the member goes in front of the path below it
      have hrest : (m.2.keyPath? fields).map (m.1.key :: ·) = some keys := by
        simpa [keyPath?, hm] using h
      obtain ⟨rest, hpath, rfl⟩ := Option.map_eq_some_iff.1 hrest
      exact ⟨title, optional, members, m, rest, rfl, hm, List.mem_of_find?_eq_some hm, hpath, rfl⟩

theorem ne_nil_of_keyPath? (hfields : fields ≠ []) (h : s.keyPath? fields = some keys) :
    keys ≠ [] := by
  rcases fields with - | ⟨field, fields⟩
  · exact absurd rfl hfields
  · obtain ⟨_, _, _, m, rest, -, -, -, -, rfl⟩ := exists_member_of_keyPath? h
    exact List.cons_ne_nil m.1.key rest

/-- The keys of fields lead to a part of the schema. -/
theorem Sound.exists_below?_of_keyPath? (hs : s.Sound) (h : s.keyPath? fields = some keys) :
    ∃ part, s.below? keys = some part := by
  induction fields generalizing s keys with
  | nil =>
    obtain rfl := Option.some.inj h
    exact ⟨s, rfl⟩
  | cons field fields ih =>
    obtain ⟨title, optional, members, m, rest, rfl, -, hm, hpath, rfl⟩ :=
      exists_member_of_keyPath? h
    obtain ⟨hdistinct, hsound⟩ := sound_group_iff.1 hs
    -- keys are distinct, so the key leads to the member whose field was named
    rw [below?_cons hdistinct.1 hm]
    exact ih (hsound m hm) hpath

/-! ### Assignments -/

/-- **An assignment** succeeds if the schema at its end can read the value, and puts what comes
out in place. -/
theorem Sound.assign_eq_ok_iff (hs : s.Sound) (hd : s.Fits d) (hfields : fields ≠ [])
    (hkeys : s.keyPath? fields = some keys) (hbelow : s.below? keys = some part)
    (hsections : d.SectionsTo keys) :
    s.assign d fields v = .ok e ↔ ∃ w, part.read v = .ok w ∧ e = assigned (some d) keys w := by
  induction fields generalizing s d e keys with
  | nil => exact absurd rfl hfields
  | cons field fields ih =>
    obtain ⟨title, optional, members, m, rest, rfl, hmember, hm, hpath, rfl⟩ :=
      exists_member_of_keyPath? hkeys
    obtain ⟨t, rfl⟩ := hsections.exists_table
    obtain ⟨hdistinct, hsound⟩ := sound_group_iff.1 hs
    rw [below?_cons hdistinct.1 hm] at hbelow
    obtain ⟨u, hu, hfits⟩ := hd.exists_member hm
    simp only [assigned_cons, Value.entries, hu]
    rcases fields with - | ⟨next, fields⟩
    · -- the field itself is assigned
      obtain rfl := Option.some.inj hpath
      obtain rfl := Option.some.inj hbelow
      rcases hr : m.2.read v with issues | w
      · simp [assign, hmember, hr, under]
      · simp [assign, hmember, hr, under, assigned, eq_comm]
    · -- the path goes on in a member, which is put back in its place
      have hnext : next :: fields ≠ [] := List.cons_ne_nil next fields
      have hrest := @ih m.2 rest u
      rw [assign.eq_def]
      simp only [hmember, hu, Option.getD_some]
      constructor
      · intro h
        rcases hr : m.2.assign u (next :: fields) v with refusal | x
        · simp [hr] at h
        · obtain ⟨w, hw, rfl⟩ := (hrest (hsound m hm) hfits hnext hpath hbelow
            (hsections.below hu)).1 hr
          refine ⟨w, hw, ?_⟩
          simpa [hr, eq_comm] using h
      · rintro ⟨w, hw, rfl⟩
        rw [(hrest (hsound m hm) hfits hnext hpath hbelow (hsections.below hu)).2 ⟨w, hw, rfl⟩]

/-! ### URLs beside a path -/

/-- Every URL that a tree holds where a schema has one is given back by reading its text, but for
those at or below a path. -/
def UrlsReadBackBeside (s : Schema) (keys : Path) (v : Value) : Prop :=
  ∀ p webOnly presence initial t, s.below? p = some (.option (.url webOnly) presence initial) →
    ¬ keys <+: p → v.find? p = some (.text t) → Url.ReadsBack t

section

variable {title : String} {optional : Bool} {members : List (Name × Schema)} {entries : Table}
  {m n : Name × Schema} {u x : Value}

/-- The member that the path goes on in. -/
theorem UrlsReadBackBeside.below (hnodup : (memberKeys members).Nodup)
    (hkeys : Table.keys entries = memberKeys members) (hm : m ∈ members)
    (h : (Schema.group title optional members).UrlsReadBackBeside (m.1.key :: rest)
      (Value.table entries).present) (hu : Table.get? entries m.1.key = some u) :
    m.2.UrlsReadBackBeside rest u.present := by
  intro p webOnly presence initial t hschema hbeside hfind
  refine h (m.1.key :: p) webOnly presence initial t (by rwa [below?_cons hnodup hm]) ?_
    (Table.find?_present_cons (hkeys ▸ hnodup) hu nofun hfind)
  intro hto
  exact hbeside (List.cons_prefix_cons.1 hto).2

/-- Any other member. -/
theorem UrlsReadBackBeside.other (hnodup : (memberKeys members).Nodup)
    (hkeys : Table.keys entries = memberKeys members) (hn : n ∈ members) {key : String}
    (hne : n.1.key ≠ key)
    (h : (Schema.group title optional members).UrlsReadBackBeside (key :: rest)
      (Value.table entries).present) (hx : Table.get? entries n.1.key = some x) :
    n.2.UrlsReadBack x.present := by
  intro p webOnly presence initial t hschema hfind
  refine h (n.1.key :: p) webOnly presence initial t (by rwa [below?_cons hnodup hn]) ?_
    (Table.find?_present_cons (hkeys ▸ hnodup) hx nofun hfind)
  intro hto
  exact hne (List.cons_prefix_cons.1 hto).1.symm

end

/-! ### Reading the whole -/

/-- One section: it is read from what is set of it, with one member set to what the schema of the
member makes something of. -/
theorem Sound.read_put_present {title : String} {optional : Bool} {members : List (Name × Schema)}
    {entries : Table} (hs : (Schema.group title optional members).Sound)
    (hd : (Schema.group title optional members).Fits (.table entries)) {m : Name × Schema}
    (hm : m ∈ members)
    (hurls : (Schema.group title optional members).UrlsReadBackBeside (m.1.key :: rest)
      (Value.table entries).present)
    (hread : m.2.read v = .ok w) :
    (Schema.group title optional members).read
        (.table (Table.put (Table.present entries) m.1.key v)) =
      .ok (.table (Table.put entries m.1.key w)) := by
  obtain ⟨hdistinct, hsound⟩ := sound_group_iff.1 hs
  cases hd with
  | group hkeys hmembers =>
    rw [read_group_table]
    refine ⟨_, readMembers_put_of_others hdistinct.1 hkeys hm (fun n hn hne => ?_) ?_, rfl⟩
    · -- any other member is not touched, and is read as it was
      obtain ⟨x, hx⟩ := Table.exists_get?_of_mem_keys (hkeys ▸ key_mem_memberKeys hn)
      have hsettled : n.2.Settled x := (hsound n hn).settled_of_fits (hmembers n hn x hx)
        (hurls.other hdistinct.1 hkeys hn hne hx)
      have hbeside : SameBeside [m.1.key] (some (.table (Table.present entries)))
          (some (.table (Table.put (Table.present entries) m.1.key v))) :=
        .assigned_self [m.1.key] _ _
      refine ⟨x, hx, ?_⟩
      rw [← readMember_beside hdistinct hm hn hne hbeside]
      exact readMember_present hdistinct hkeys hn (hsound n hn) hx hsettled
        ((hsound n hn).read_present hsettled)
    · rw [readMember_of_get? (by rw [Table.get?_put, if_pos rfl])]
      exact hread

/-- **Reading what is set, with a value in place of a part**, gives the document with what the
schema of the part makes of the value. -/
theorem Sound.read_assigned_present (hs : s.Sound) (hd : s.Fits d)
    (hbelow : s.below? keys = some part) (hsections : d.SectionsTo keys)
    (hurls : s.UrlsReadBackBeside keys d.present) (hread : part.read v = .ok w) :
    s.read (assigned (some d.present) keys v) = .ok (assigned (some d) keys w) := by
  induction keys generalizing s d with
  | nil =>
    obtain rfl := Option.some.inj hbelow
    exact hread
  | cons key rest ih =>
    obtain ⟨entries, rfl⟩ := hsections.exists_table
    have hwhole := hd
    cases hd with
    | option hfits => cases hbelow
    | group hkeys hmembers =>
      obtain ⟨hdistinct, hsound⟩ := sound_group_iff.1 hs
      obtain ⟨m, hm, rfl, hmbelow⟩ := exists_member_of_below? hbelow
      have hnodup : (Table.keys entries).Nodup := hkeys ▸ hdistinct.1
      obtain ⟨u, hu⟩ := Table.exists_get?_of_mem_keys (hkeys ▸ key_mem_memberKeys hm)
      have hmember : m.2.read (assigned (some u.present) rest v) =
          .ok (assigned (some u) rest w) :=
        ih (hsound m hm) (hmembers m hm u hu) hmbelow (hsections.below hu)
          (hurls.below hdistinct.1 hkeys hm hu)
      -- a member that is null is the part itself, whatever was there
      have hplace : assigned (Table.get? (Table.present entries) m.1.key) rest v =
          assigned (some u.present) rest v := by
        rcases rest with - | ⟨next, rest⟩
        · rfl
        · obtain ⟨t, rfl⟩ := (hsections.below hu).exists_table
          rw [Table.get?_present_of_ne_null hnodup hu nofun]
      simp only [assigned_cons, Value.present_table, Value.entries, hu, hplace]
      exact hs.read_put_present hwhole hm hurls hmember

/-- What is read of a tree with a value in place of a part has read the value. -/
theorem exists_read_of_read_assigned (hbelow : s.below? keys = some part) {x : Option Value}
    (h : s.read (assigned x keys v) = .ok e) : ∃ w, part.read v = .ok w := by
  obtain ⟨w, hw, -⟩ := find?_read h hbelow (Value.find?_assigned x keys v)
  exact ⟨w, hw⟩

/-- An option that is not at or below a path to a part of the schema does not meet the path. -/
theorem not_meets_of_option {p : Path} {kind : Kind} {presence : Presence} {initial : Value}
    (hp : s.below? p = some (.option kind presence initial)) (hbelow : s.below? keys = some part)
    (hbeside : ¬ keys <+: p) : ¬ Path.Meets p keys := by
  rintro (⟨rest, rfl⟩ | hto)
  · rw [eq_of_option_append hp hbelow, List.append_nil] at hbeside
    exact hbeside (List.prefix_refl p)
  · exact hbeside hto

/-- A value that is set, and no table, is in the document where it is in what is set. -/
theorem Sound.find?_of_find?_present (hs : s.Sound) (hd : s.Fits d) {p : Path} {x : Value}
    (h : d.present.find? p = some x) (hx : x.isTable = false) : d.find? p = some x := by
  induction p generalizing s d with
  | nil =>
    obtain rfl := Option.some.inj ((Value.find?_nil d.present).symm.trans h)
    rcases d.eq_table_or_not_table with ⟨t, rfl⟩ | hplain
    · cases hx
    · rw [Value.find?_nil, Value.present_of_not_table hplain]
  | cons key rest ih =>
    cases hd with
    | option hfits =>
      obtain ⟨w, hw⟩ := hfits
      -- an option holds no table, so it is shown as it is
      have hplain := isTable_of_readOption hw
      rwa [Value.present_of_not_table hplain] at h
    | unset => cases h
    | group hkeys hmembers =>
      rename_i title optional members entries
      obtain ⟨hdistinct, hsound⟩ := sound_group_iff.1 hs
      rw [Value.present_table, Table.find?_cons, Table.get?_present (hkeys ▸ hdistinct.1),
        Option.bind_eq_some_iff] at h
      obtain ⟨y, hy, hfind⟩ := h
      obtain ⟨u, hu, rfl⟩ := Option.map_eq_some_iff.1 hy
      have hget : Table.get? entries key = some u := (Option.filter_eq_some_iff.1 hu).1
      -- the key is that of a member, and what is set below it was there before
      obtain ⟨m, hm, rfl⟩ := List.mem_map.1 (hkeys ▸ Table.mem_keys_of_get? hget)
      rw [Table.find?_cons, hget]
      exact ih (hsound m hm) (hmembers m hm u hget) hfind

/-- What reading a text as a URL leaves as it is is given back. -/
theorem readsBack_of_readOption {webOnly : Bool} {presence : Presence} {t : String}
    (h : readOption (.url webOnly) presence (.text t) = .ok (.text t)) : Url.ReadsBack t := by
  rcases readOption_eq_ok h with ⟨hnull, -⟩ | ⟨-, hread⟩
  · cases hnull
  · have hurl : Kind.readUrl webOnly (.text t) = .ok (.text t) := hread
    obtain ⟨t', u, htext, hu, hback, -⟩ := Kind.readUrl_eq_ok hurl
    obtain rfl := Value.text.inj htext
    exact ⟨u, hu, (Value.text.inj hback).symm⟩

/-- If reading the whole changes nothing beside the part then the URLs there are given back. -/
theorem Sound.urlsReadBackBeside (hs : s.Sound) (hd : s.Fits d)
    (hbelow : s.below? keys = some part)
    (h : s.read (assigned (some d.present) keys v) = .ok (assigned (some d) keys w)) :
    s.UrlsReadBackBeside keys d.present := by
  intro p webOnly presence initial t hschema hbeside hfind
  -- a URL beside the path is in both trees, so the whole reading has read it back
  have hapart := not_meets_of_option hschema hbelow hbeside
  have hset : d.find? p = some (.text t) := hs.find?_of_find?_present hd hfind rfl
  have hbefore : (assigned (some d.present) keys v).find? p = some (.text t) :=
    (Value.find?_assigned_of_not_meets (some d.present) hapart v).trans hfind
  have hafter : (assigned (some d) keys w).find? p = some (.text t) :=
    (Value.find?_assigned_of_not_meets (some d) hapart w).trans hset
  obtain ⟨x, hx, hnew⟩ := find?_read h hschema hbefore
  obtain rfl := Option.some.inj (hafter.symm.trans hnew)
  exact readsBack_of_readOption hx

end Schema

/-! ### Documents -/

namespace Settings

variable {d : Document} {fields : List String} {keys : Path} {v : Value}

/-- Each URL of a document that is not at or below a path is the text of a URL that reading the
text gives back. -/
def UrlsReadBackBeside (keys : Path) (d : Document) : Prop :=
  ∀ p ∈ urlPaths, ¬ keys <+: p → ∀ t ∈ textAt? (.table (layerData d)) p, Url.ReadsBack t

instance (keys : Path) (d : Document) : Decidable (UrlsReadBackBeside keys d) :=
  inferInstanceAs (Decidable (∀ p ∈ urlPaths, _ → ∀ t ∈ _, _))

theorem exists_url_of_mem {p : Path} (h : p ∈ urlPaths) : ∃ webOnly presence initial,
    schema.below? p = some (.option (.url webOnly) presence initial) := by
  simp only [urlPaths, List.mem_cons, List.not_mem_nil, or_false] at h
  rcases h with rfl | rfl | rfl <;> exact ⟨_, _, _, rfl⟩

theorem textAt?_eq_some {p : Path} {t : String} :
    textAt? d p = some t ↔ d.find? p = some (.text t) := by
  rw [textAt?]
  rcases d.find? p with - | v
  · simp
  · cases v <;> simp

/-- The URLs of a document are those where the schema has one. -/
theorem urlsReadBackBeside_iff (hd : schema.Fits d) :
    UrlsReadBackBeside keys d ↔ schema.UrlsReadBackBeside keys d.present := by
  rw [UrlsReadBackBeside, table_layerData hd]
  constructor
  · intro h p webOnly presence initial t hschema hbeside hfind
    exact h p (mem_urlPaths hschema) hbeside t (textAt?_eq_some.2 hfind)
  · intro h p hp hbeside t ht
    obtain ⟨webOnly, presence, initial, hschema⟩ := exists_url_of_mem hp
    exact h p webOnly presence initial t hschema hbeside (textAt?_eq_some.1 ht)

/-- The layer data with a value in place of a part. -/
theorem table_assign_layerData (hd : schema.Fits d) (hkeys : keys ≠ []) (v : Value) :
    .table (Table.assign (layerData d) keys v) = assigned (some d.present) keys v := by
  rw [← table_layerData hd]
  rcases keys with - | ⟨key, rest⟩
  · exact absurd rfl hkeys
  · rfl

/-- **Assigning to a document agrees with reading the whole of it anew.**  If the URLs beside the
part are given back, then a value can be assigned exactly if the layer data with the value in place
of the part can be read, and what comes out is the same document.  If one of them is not given
back, the two documents differ.  An assignment that is refused has no such document to agree with,
and leaves the document of a handle as it was. -/
theorem assign_agrees_with_read (hd : Reachable d) (hfields : fields ≠ [])
    (hkeys : schema.keyPath? fields = some keys) (hsections : d.SectionsTo keys) (v : Value) :
    (UrlsReadBackBeside keys d → ∀ e,
      schema.assign d fields v = .ok e ↔ read (.table ((layerData d).assign keys v)) = .ok e) ∧
    (∀ e, schema.assign d fields v = .ok e →
      read (.table ((layerData d).assign keys v)) = .ok e → UrlsReadBackBeside keys d) ∧
    ∀ r, schema.assign d fields v = .error r →
      (∃ issues, read (.table ((layerData d).assign keys v)) = .error issues) ∧
      ∀ h : Handle, h.document = d → ∀ edits giveUp,
        (h.write ((fields, v) :: edits) giveUp).1.document = d := by
  have hne := Schema.ne_nil_of_keyPath? hfields hkeys
  obtain ⟨part, hbelow⟩ := schema_sound.exists_below?_of_keyPath? hkeys
  have hassign := fun e => schema_sound.assign_eq_ok_iff (v := v) (e := e) hd.fits hfields hkeys
    hbelow hsections
  rw [read, table_assign_layerData hd.fits hne, urlsReadBackBeside_iff hd.fits]
  refine ⟨fun hurls e => ?_, fun e h hread => ?_, fun r hr => ⟨?_, ?_⟩⟩
  · constructor
    · intro h
      obtain ⟨w, hw, rfl⟩ := (hassign e).1 h
      exact schema_sound.read_assigned_present hd.fits hbelow hsections hurls hw
    · intro h
      obtain ⟨w, hw⟩ := Schema.exists_read_of_read_assigned hbelow h
      have hwhole := schema_sound.read_assigned_present hd.fits hbelow hsections hurls hw
      exact (hassign e).2 ⟨w, hw, Except.ok.inj (h.symm.trans hwhole)⟩
  · obtain ⟨w, -, rfl⟩ := (hassign e).1 h
    exact schema_sound.urlsReadBackBeside hd.fits hbelow hread
  · rcases hread : schema.read (assigned (some d.present) keys v) with issues | e
    · exact ⟨issues, rfl⟩
    · -- what can be read can be assigned
      obtain ⟨w, hw⟩ := Schema.exists_read_of_read_assigned hbelow hread
      rw [(hassign _).2 ⟨w, hw, rfl⟩] at hr
      cases hr
  · rintro h rfl edits giveUp
    rcases Handle.document_write h ((fields, v) :: edits) giveUp with hsame | hedit
    · exact hsame
    · rw [Handle.edit, hr] at hedit
      cases hedit

/-- A number for the sender is taken both ways, and a threshold that does not exist is taken in
neither; an edit that comes after it is not made. -/
theorem assign_agrees_with_read_sample :
    ∃ d e r issues, read sample = .ok d ∧
      schema.assign d ["mail", "from_"] (.integer 7) = .ok e ∧
      read (.table ((layerData d).assign ["mail", "from"] (.integer 7))) = .ok e ∧
      textAt? e ["mail", "from"] = some "7" ∧
      schema.assign d ["logging", "threshold"] (.text "loud") = .error r ∧
      read (.table ((layerData d).assign ["logging", "threshold"] (.text "loud"))) =
        .error issues ∧
      ((Handle.of d).write [(["logging", "threshold"], .text "loud"),
        (["website", "name"], .text "Index")] none).1.document = d := by
  obtain ⟨d, hd⟩ : ∃ d, read sample = .ok d := exists_eq_ok_of_isOk (by decide +kernel)
  -- what has to be computed about the one document, in one go
  have hfacts : ((read sample).map fun d =>
      let sender := schema.assign d ["mail", "from_"] (.integer 7)
      let threshold := schema.assign d ["logging", "threshold"] (.text "loud")
      decide (UrlsReadBackBeside ["mail", "from"] d ∧ d.SectionsTo ["mail", "from"] ∧
        d.SectionsTo ["logging", "threshold"] ∧
        (sender.toOption.bind fun e => textAt? e ["mail", "from"]) = some "7" ∧
        threshold.toOption = none)) = .ok true := by decide +kernel
  rw [hd] at hfacts
  obtain ⟨hurls, hmail, hlogging, hsender, hthreshold⟩ := of_decide_eq_true (Except.ok.inj hfacts)
  have hreach : Reachable d := .read hd
  have hfrom : schema.keyPath? ["mail", "from_"] = some ["mail", "from"] := rfl
  have hlevel : schema.keyPath? ["logging", "threshold"] = some ["logging", "threshold"] := rfl
  rcases hassign : schema.assign d ["mail", "from_"] (.integer 7) with r | e
  · rw [hassign] at hsender
    cases hsender
  rcases hrefuse : schema.assign d ["logging", "threshold"] (.text "loud") with r | e'
  · -- the sender is taken both ways, the threshold is refused both ways
    have hagree := assign_agrees_with_read hreach (by decide) hfrom hmail (.integer 7)
    have hdiffer := assign_agrees_with_read hreach (by decide) hlevel hlogging (.text "loud")
    obtain ⟨⟨issues, hissues⟩, hstays⟩ := hdiffer.2.2 r hrefuse
    rw [hassign] at hsender
    exact ⟨d, e, r, issues, hd, hassign, (hagree.1 hurls e).1 hassign, hsender, hrefuse, hissues,
      hstays (Handle.of d) rfl _ none⟩
  · rw [hrefuse] at hthreshold
    cases hthreshold

/-- A file on a host, with an empty part of the path in front of what looks like a drive. -/
def driveUrl : Value := .table [("tracker", .table [("url", .text "file://host//C:/x")])]

/-- The empty part is left out of the normal form.  Reading this once more takes the drive for one,
which leaves out the host, so naming the website in the layer data changes the URL. -/
theorem assign_apart_from_read :
    ∃ d e e', read driveUrl = .ok d ∧ Reachable d ∧
      schema.keyPath? ["website", "name"] = some ["website", "name"] ∧
      d.SectionsTo ["website", "name"] ∧
      schema.assign d ["website", "name"] (.text "Index") = .ok e ∧
      textAt? e ["tracker", "url"] = some "file://host/C:/x" ∧
      read (.table ((layerData d).assign ["website", "name"] (.text "Index"))) = .ok e' ∧
      textAt? e' ["tracker", "url"] = some "file:///C:/x" := by
  obtain ⟨d, hd⟩ : ∃ d, read driveUrl = .ok d := exists_eq_ok_of_isOk (by decide +kernel)
  -- the URL stays when the name is assigned, and changes when the whole tree is read
  have hfacts : ((read driveUrl).map fun d =>
      let assigned := schema.assign d ["website", "name"] (.text "Index")
      let whole := read (.table ((layerData d).assign ["website", "name"] (.text "Index")))
      decide (d.SectionsTo ["website", "name"] ∧
        (assigned.toOption.bind fun e => textAt? e ["tracker", "url"]) =
          some "file://host/C:/x" ∧
        (whole.toOption.bind fun e => textAt? e ["tracker", "url"]) =
          some "file:///C:/x")) = .ok true := by decide +kernel
  rw [hd] at hfacts
  obtain ⟨hsections, hassigned, hwhole⟩ := of_decide_eq_true (Except.ok.inj hfacts)
  rcases hassign : schema.assign d ["website", "name"] (.text "Index") with r | e
  · rw [hassign] at hassigned
    cases hassigned
  rcases hread : read (.table ((layerData d).assign ["website", "name"] (.text "Index"))) with
    issues | e'
  · rw [hread] at hwhole
    cases hwhole
  · rw [hassign] at hassigned
    rw [hread] at hwhole
    exact ⟨d, e, e', hd, .read hd, rfl, hsections, hassign, hassigned, hread, hwhole⟩

end Settings

end LayeredSettings
