/-
LayeredSettings/Proofs/Defaults.lean

The defaults below the layers of the user.

By `Schema.Sound.read_filled` layers with the defaults below them describe the
document that they describe alone, unless a member with two names is masked.
The only such member is the sender of mail (`Settings.aliases_schema`), whose key
`from` cannot be the name of a field.

Main result: `extract_join_defaults`.  A sender that the layers hold under its
field alone gives way to the initial sender once the defaults are below, so the
document is another one if the two differ (`extract_join_defaults_displaces`);
nothing else is ever displaced.
-/
import LayeredSettings.Proofs.Filling
import LayeredSettings.Proofs.Stages
import LayeredSettings.Proofs.Mandatory

namespace LayeredSettings

/-! ### The sender of mail -/

/-- The members of a section. -/
def Schema.members : Schema → List (Name × Schema)
  | .option _ _ _ => []
  | .group _ _ members => members

theorem Table.put_self {t : Table} {key : String} {v : Value} (h : get? t key = some v) :
    put t key v = t := by
  induction t with
  | nil => cases h
  | cons e rest ih =>
    rcases e with ⟨k, w⟩
    by_cases hk : k = key
    · obtain rfl : w = v := by simpa [get?, hk] using h
      simp [put, hk]
    · simp [put, hk, ih (by simpa [get?, hk] using h)]

namespace Settings

/-- The sender before any is set. -/
def initialSender : Value := .text "example@email.com"

/-- The sender of mail. -/
def sender : Name × Schema := (⟨"from", "from_"⟩, .option .text .required initialSender)

theorem aliases_schema : schema.aliases = [(["mail"], sender.1)] := by decide

theorem masks_iff {v w : Value} :
    schema.Masks v w ↔ v.find? ["mail", "from"] = none ∧
      (v.find? ["mail", "from_"]).isSome ∧ (w.find? ["mail", "from"]).isSome := by
  simp [Schema.Masks, aliases_schema, sender]

/-- No other section has two names or an option that has. -/
theorem plain_of_ne_mail :
    ∀ m ∈ schema.members, m.1.key ≠ mail.1.key → m.1.field = m.1.key ∧ m.2.aliases = [] := by
  decide

/-- No other option on mail has two names. -/
theorem plain_of_ne_sender :
    ∀ m ∈ mail.2.members, m.1.key ≠ sender.1.key → m.1.field = m.1.key ∧ m.2.aliases = [] := by
  decide

theorem mail_mem : mail ∈ schema.members := by simp [schema, Schema.members]

theorem sender_mem : sender ∈ mail.2.members := by
  simp [mail, group, Schema.members, sender, initialSender]

theorem default?_mail :
    mail.2.default? = some (.table (Table.present (Schema.initials mail.2.members))) := rfl

theorem default?_schema :
    schema.default? = some (.table (Table.present (Schema.initials schema.members))) := rfl

open Schema in
/-- With its gaps filled, a section on mail with a masked sender is the same but for the sender,
which is the initial one. -/
theorem readMembers_masked {t u entries : Table}
    (hfilled : Value.Filled mail.2.default? (some (.table t)) (some (.table u)))
    (hkey : Table.get? t "from" = none) (hkey' : (Table.get? u "from").isSome)
    (h : readMembers mail.2.members t = .ok entries) :
    readMembers mail.2.members u = .ok (Table.put entries "from" initialSender) := by
  obtain ⟨hdistinct, hsound⟩ : Distinct mail.2.members ∧ ∀ m ∈ mail.2.members, m.2.Sound :=
    sound_group_iff.1 ((sound_group_iff.1 schema_sound).2 mail mail_mem)
  rw [default?_mail] at hfilled
  refine readMembers_filled hdistinct hsound hfilled h sender_mem plain_of_ne_sender ?_
  -- what fills the gap is the default
  obtain ⟨w, hw⟩ := Option.isSome_iff_exists.1 hkey'
  have hgap := get?_default hdistinct.1 sender_mem ▸ hfilled.get? sender.1.key
  rw [show Table.get? t sender.1.key = none from hkey,
    show Table.get? u sender.1.key = some w from hw] at hgap
  rcases hgap.cases with h | ⟨-, h⟩ | ⟨r, s, t, -, h, -⟩
  · cases h
  · exact (readMember_of_get? hw).2 ((hsound sender sender_mem).read_default h.symm)
  · cases h

open Schema in
/-- With its gaps filled, a tree with a masked sender describes the same document but for the
sender, which is the initial one. -/
theorem read_masked {v w d : Value} (hfilled : Value.Filled schema.default? (some v) (some w))
    (hmask : schema.Masks v w) (h : schema.read v = .ok d) :
    ∃ e, schema.assign d ["mail", "from_"] initialSender = .ok e ∧ schema.read w = .ok e ∧
      (e = d ↔ d.find? ["mail", "from"] = some initialSender) := by
  obtain ⟨hkey, hfield, hkey'⟩ := masks_iff.1 hmask
  obtain ⟨hdistinct, hsound⟩ : Distinct schema.members ∧ ∀ m ∈ schema.members, m.2.Sound :=
    sound_group_iff.1 schema_sound
  -- the two trees are tables, and so are their sections on mail
  obtain ⟨t, x, rfl, hx, hxfield⟩ := Value.exists_table_of_find? hfield
  obtain ⟨u, y, rfl, hy, hykey⟩ := Value.exists_table_of_find? hkey'
  obtain ⟨sent, -, rfl, -, -⟩ := Value.exists_table_of_find? hxfield
  obtain ⟨filled, given, rfl, hgiven, -⟩ := Value.exists_table_of_find? hykey
  have hnone : Table.get? sent "from" = none := by
    rcases e : Table.get? sent "from" with - | z
    · rfl
    · simp [Value.find?, hx, e] at hkey
  rw [default?_schema] at hfilled
  have hmail := get?_default hdistinct.1 mail_mem ▸ hfilled.get? mail.1.key
  rw [show Table.get? t mail.1.key = some (.table sent) from hx,
    show Table.get? u mail.1.key = some (.table filled) from hy] at hmail
  obtain ⟨entries, hentries, rfl⟩ := read_group_table.1 h
  obtain ⟨v, hv, hmember⟩ := ((readMembers_eq_ok_iff hdistinct.1).1 hentries).2 mail mail_mem
  obtain ⟨options, hoptions, rfl⟩ := read_group_table.1 ((readMember_of_get? hx).1 hmember)
  have hread : mail.2.read (.table filled) =
      .ok (.table (Table.put options "from" initialSender)) :=
    read_group_table.2 ⟨_, readMembers_masked hmail hnone (by simp [hgiven]) hoptions, rfl⟩
  have hsender : mail.2.assign (.table options) ["from_"] initialSender =
      .ok (.table (Table.put options "from" initialSender)) :=
    assign_field (m := sender) rfl rfl
  refine ⟨_, assign_below (m := mail) rfl hv hsender, read_group_table.2 ⟨_, readMembers_filled
    hdistinct hsound hfilled hentries mail_mem plain_of_ne_mail
      ((readMember_of_get? hy).2 hread), rfl⟩, ?_⟩
  have hfind : Value.find? ["mail", "from"] (.table entries) = Table.get? options "from" := by
    rw [Value.find?, show Table.get? entries "mail" = some (.table options) from hv]
    rcases e : Table.get? options "from" with - | z <;> simp [Value.find?, e]
  rw [hfind]
  constructor
  · intro hsame
    have hmail := congrArg (Value.find? ["mail", "from"]) hsame
    rw [hfind] at hmail
    rw [← hmail]
    simp [Value.find?, Table.get?_put, mail, group, plainName]
  · intro hinitial
    rw [Table.put_self hinitial]
    exact congrArg Value.table (Table.put_self hv)

end Settings

/-! ### Joining the defaults -/

variable {P : Provider} {d : Document}

/-- The layers hold the sender of mail under its field alone, and the defaults bring its key. -/
def Provider.MasksSender (P : Provider) : Prop :=
  P.find? ["mail", "from"] = none ∧ (P.find? ["mail", "from_"]).isSome ∧
    ((P.join defaultsLayer).find? ["mail", "from"]).isSome

theorem filled_join_defaults (P : Provider) :
    Value.Filled Settings.schema.default? (some (.table P.merged))
      (some (.table (P.join defaultsLayer).merged)) :=
  P.filled_join defaultsLayer

theorem Provider.masksSender_iff :
    P.MasksSender ↔
      Settings.schema.Masks (.table P.merged) (.table (P.join defaultsLayer).merged) :=
  Settings.masks_iff.symm

/-- With the defaults below, layers that do not mask the sender describe the same document. -/
theorem read_join_defaults (h : ¬ P.MasksSender) :
    Settings.read (.table (P.join defaultsLayer).merged) = Settings.read (.table P.merged) :=
  (Settings.schema_sound.read_filled (filled_join_defaults P)
    fun hmask => h (Provider.masksSender_iff.2 hmask)).symm

theorem outcome_extract_eq_ok_iff :
    (extract P).outcome = .ok d ↔ Settings.read (.table P.merged) = .ok d := by
  rw [outcome_extract]
  rcases Settings.read (.table P.merged) with issues | e <;> simp

/-- **The defaults below the layers of the user.**  Layers that describe a document still describe
one with the defaults below them.  It is the same one, unless the sender of mail is set under its
field alone, the defaults bring its key, and it differs from the initial sender, which then takes
its place. -/
theorem extract_join_defaults (h : (extract P).outcome = .ok d) :
    (∃ e, (extract (P.join defaultsLayer)).outcome = .ok e ∧
      (P.MasksSender →
        Settings.schema.assign d ["mail", "from_"] Settings.initialSender = .ok e)) ∧
    ((extract (P.join defaultsLayer)).outcome = .ok d ↔
      ¬ (P.MasksSender ∧ d.find? ["mail", "from"] ≠ some Settings.initialSender)) := by
  rw [outcome_extract_eq_ok_iff] at h
  simp only [outcome_extract_eq_ok_iff]
  -- the default of the sender hides the user's under its second name, or the defaults change
  -- nothing
  by_cases hmask : P.MasksSender
  · obtain ⟨e, hassign, hread, hsame⟩ := Settings.read_masked (filled_join_defaults P)
      (Provider.masksSender_iff.1 hmask) h
    refine ⟨⟨e, hread, fun _ => hassign⟩, ?_⟩
    rw [Settings.read, hread, Except.ok.injEq, hsame]
    simp [hmask]
  · have hread := (read_join_defaults hmask).trans h
    exact ⟨⟨d, hread, fun hyes => absurd hyes hmask⟩, fun _ hyes => hmask hyes.1, fun _ => hread⟩

/-- Layers in which the sender of mail is set under its field. -/
def senderByField : Provider :=
  ⟨[⟨"user", [("mail", .table [("from_", .text "me@example.org")])]⟩]⟩

/-- Layers in which the sender of mail is set under its key, and the whole website under a name
that no section has. -/
def senderByKey : Provider :=
  ⟨[⟨"user", [("mail", .table [("from", .text "me@example.org")]), ("Website", .text "mine")]⟩]⟩

/-- The defaults take nothing from the one and the sender from the other. -/
theorem extract_join_defaults_senders :
    (∃ d, (extract senderByKey).outcome = .ok d ∧
      (extract (senderByKey.join defaultsLayer)).outcome = .ok d) ∧
    ∃ d e, (extract senderByField).outcome = .ok d ∧ senderByField.MasksSender ∧
      (extract (senderByField.join defaultsLayer)).outcome = .ok e ∧
      Settings.schema.assign d ["mail", "from_"] Settings.initialSender = .ok e := by
  constructor
  · obtain ⟨d, hd⟩ : ∃ d, (extract senderByKey).outcome = .ok d :=
      exists_eq_ok_of_isOk (by decide +kernel)
    refine ⟨d, hd, (extract_join_defaults hd).2.2 ?_⟩
    rintro ⟨⟨hnone, -⟩, -⟩
    exact absurd hnone (by decide)
  · obtain ⟨d, hd⟩ : ∃ d, (extract senderByField).outcome = .ok d :=
      exists_eq_ok_of_isOk (by decide +kernel)
    -- the sender is given by its field, and no layer has an entry under its key
    have hmask : senderByField.MasksSender := ⟨by decide, by decide, by decide⟩
    obtain ⟨e, he, hassign⟩ := (extract_join_defaults hd).1
    exact ⟨d, e, hd, hmask, he, hassign hmask⟩

/-- A sender that the user has set under its field gives way to the initial one. -/
theorem extract_join_defaults_displaces :
    ∃ d e, (extract senderByField).outcome = .ok d ∧
      d.find? ["mail", "from"] = some (.text "me@example.org") ∧
      (extract (senderByField.join defaultsLayer)).outcome = .ok e ∧
      e.find? ["mail", "from"] = some (.text "example@email.com") ∧ e ≠ d := by
  obtain ⟨d, hd⟩ : ∃ d, (extract senderByField).outcome = .ok d :=
    exists_eq_ok_of_isOk (by decide +kernel)
  obtain ⟨e, he⟩ : ∃ e, (extract (senderByField.join defaultsLayer)).outcome = .ok e :=
    exists_eq_ok_of_isOk (by decide +kernel)
  have hset : ((extract senderByField).outcome.map fun d => d.find? ["mail", "from"])
      = .ok (some (.text "me@example.org")) := by decide +kernel
  -- under the defaults the sender is the initial one again
  have hlost : ((extract (senderByField.join defaultsLayer)).outcome.map
      fun d => d.find? ["mail", "from"]) = .ok (some (.text "example@email.com")) := by
    decide +kernel
  rw [hd] at hset
  rw [he] at hlost
  have hd' := Except.ok.inj hset
  have he' := Except.ok.inj hlost
  refine ⟨d, e, hd, hd', he, he', ?_⟩
  rintro rfl
  rw [hd'] at he'
  exact absurd he' (by decide)

end LayeredSettings
