/-
LayeredSettings/Proofs/UnknownPath.lean

Documents of trees that differ at a path that the schema does not know.

Such a path goes on below an option, or leads into a section by a key that no
member has (`Schema.belowOption_or_unknown`).  In the first case the second tree
has a table where the option is, and does not fit; in the second case the key is
passed over.  By induction on the path, two trees that differ there alone
describe the same document if both describe one (`Schema.Sound.read_strays`).

There are two exceptions, which `Schema.Harmless` excludes.  Tables on the way to
the key set sections that were unset; and the field of a member counts as a key
that is not known, but is read where the key of the member is missing.
-/
import LayeredSettings.Proofs.Straying

namespace LayeredSettings

namespace Schema

open Value (Strays)

/-! ### Documents of trees that differ at an unknown path -/

/-- What a schema makes of a value that need not be there. -/
def readAt (s : Schema) : Option Value → Except (List Issue) Value
  | none => .ok s.initial
  | some v => s.read v

/-- A path goes on below an option. -/
def BelowOption (s : Schema) (p : Path) : Prop :=
  ∃ q key rest kind presence initial,
    p = q ++ key :: rest ∧ s.below? q = some (.option kind presence initial)

theorem ne_nil_of_below? {s : Schema} {p : Path} (hp : s.below? p = none) : p ≠ [] := by
  rintro rfl
  simp [below?] at hp

/-- A path that the schema does not know goes on below an option, or behind a section by a key
that no member of it has. -/
theorem belowOption_or_unknown {s : Schema} {p : Path} (hp : s.below? p = none) :
    s.BelowOption p ∨ ∃ q key rest title optional members, p = q ++ key :: rest ∧
      s.below? q = some (.group title optional members) ∧ s.below? (q ++ [key]) = none := by
  induction p generalizing s with
  | nil => simp [below?] at hp
  | cons key rest ih =>
    rcases s with ⟨kind, presence, initial⟩ | ⟨title, optional, members⟩
    · exact .inl ⟨[], key, rest, kind, presence, initial, rfl, rfl⟩
    · -- the section does not know the key, or the path goes on below its member
      rcases hm : members.find? fun m => m.1.key == key with - | m
      · refine .inr ⟨[], key, rest, title, optional, members, rfl, by simp [below?], ?_⟩
        simp [below?, hm]
      · have hcons : ∀ q, (Schema.group title optional members).below? (key :: q) = m.2.below? q :=
          fun q => by simp [below?, hm]
        rw [hcons] at hp
        rcases ih hp with ⟨q, k, r, kind, presence, initial, rfl, hq⟩ |
          ⟨q, k, r, title', optional', members', rfl, hq, hunknown⟩
        · exact .inl ⟨key :: q, k, r, kind, presence, initial, rfl, by rw [hcons, hq]⟩
        · exact .inr ⟨key :: q, k, r, title', optional', members', rfl, by rw [hcons, hq],
            by rw [List.cons_append, hcons, hunknown]⟩

/-- A path that the schema does not know, in a tree with its document: it opens no section that is
unset, unless to go on below an option, and it does not lead through the field of a member that is
not there under its key. -/
structure Harmless (s : Schema) (p : Path) (v : Option Value) (d : Value) : Prop where
  unset : ∀ r title members, r <+: p → s.below? r = some (.group title true members) →
    d.find? r = some .null → s.BelowOption p
  options : ∀ a ∈ s.aliases, ∃ kind presence initial,
    s.below? (a.1 ++ [a.2.key]) = some (.option kind presence initial)
  held : ∀ a ∈ s.aliases, a.1 ++ [a.2.field] <+: p →
    (v.bind (Value.find? (a.1 ++ [a.2.key]))).isSome

section

variable {title : String} {optional : Bool} {members : List (Name × Schema)} {m : Name × Schema}
  {a b entries : Table} {p rest : Path} {key : String} {u v w d e : Value}

/-- No tree that holds a path below an option is read. -/
theorem not_belowOption_of_read {s : Schema} (h : s.read w = .ok e)
    (hheld : (w.find? p).isSome) : ¬ s.BelowOption p := by
  rintro ⟨q, key, rest, kind, presence, initial, rfl, hq⟩
  rw [Value.find?_append] at hheld
  obtain ⟨x, hx⟩ := Option.isSome_iff_exists.1 hheld
  obtain ⟨y, hy, hxy⟩ := Option.bind_eq_some_iff.1 hx
  have hplain := not_table_of_read h hq hy
  rw [Value.find?_cons_of_not_table hplain] at hxy
  cases hxy

theorem readMember_iff_readAt
    (h : Table.get? a m.1.key = none → Table.get? a m.1.field = none) :
    readMember m a = .ok d ↔ m.2.readAt (Table.get? a m.1.key) = .ok d := by
  rcases e : Table.get? a m.1.key with - | x
  · rw [readMember_of_absent e (h e)]
    rfl
  · exact readMember_of_get? e

theorem Harmless.below (hnodup : (memberKeys members).Nodup) (hm : m ∈ members)
    (h : (Schema.group title optional members).Harmless (m.1.key :: rest) (some (.table a))
      (.table entries)) (hd : Table.get? entries m.1.key = some d) :
    m.2.Harmless rest (Table.get? a m.1.key) d := by
  -- three things: no unset section is opened, aliases are options, and the key of an alias is held
  refine ⟨fun r title' members' hr hbelow hnull => ?_, fun n hn => ?_, fun n hn hprefix => ?_⟩
  · obtain ⟨q, key, rest', kind, presence, initial, hq, hoption⟩ :=
      h.unset (m.1.key :: r) title' members' (List.cons_prefix_cons.2 ⟨rfl, hr⟩)
        (by rwa [below?_cons hnodup hm]) (by rw [Table.find?_cons, hd]; exact hnull)
    rcases q with - | ⟨k, q⟩
    · cases hoption
    · obtain ⟨rfl, hrest⟩ := List.cons.inj hq
      rw [below?_cons hnodup hm] at hoption
      exact ⟨q, key, rest', kind, presence, initial, hrest, hoption⟩
  · obtain ⟨kind, presence, initial, hoption⟩ :=
      h.options _ (mem_memberAliases_of_below hm hn)
    rw [List.cons_append, below?_cons hnodup hm] at hoption
    exact ⟨kind, presence, initial, hoption⟩
  · have hheld := h.held _ (mem_memberAliases_of_below hm hn)
      (List.cons_prefix_cons.2 ⟨rfl, hprefix⟩)
    rwa [Option.bind_some, List.cons_append, Table.find?_cons] at hheld

/-- The member that a path leads to is read alike if its schema reads alike what the two tables
hold for it. -/
theorem readMember_strays (hbelow : Strays rest (Table.get? a m.1.key) (Table.get? b m.1.key))
    (hothers : ∀ k ≠ m.1.key, Table.get? b k = Table.get? a k) (hrest : rest ≠ [])
    (hoption : m.1.field ≠ m.1.key →
      ∃ kind presence initial, m.2 = .option kind presence initial)
    (hsame : m.2.readAt (Table.get? a m.1.key) = .ok d →
      m.2.readAt (Table.get? b m.1.key) = .ok e → e = d)
    (hd : readMember m a = .ok d) (he : readMember m b = .ok e) : e = d := by
  by_cases hfield : m.1.field = m.1.key
  · have habsent : ∀ t : Table, Table.get? t m.1.key = none → Table.get? t m.1.field = none :=
      fun t ht => hfield ▸ ht
    exact hsame ((readMember_iff_readAt (habsent a)).1 hd)
      ((readMember_iff_readAt (habsent b)).1 he)
  · -- a member with two names is an option, and no option is filled with a table
    obtain ⟨kind, presence, initial, hschema⟩ := hoption hfield
    rcases hbelow.eq_or_table hrest with heq | ⟨t, ht⟩
    · rw [readMember_eq heq.symm (hothers m.1.field hfield), hd] at he
      exact (Except.ok.inj he).symm
    · obtain ⟨issues, hissues⟩ := readOption_table kind presence t
      have hread := (readMember_of_get? ht).1 he
      rw [hschema, read, hissues] at hread
      cases hread

/-- A member that a path does not lead to is read alike. -/
theorem readMember_unstrayed (hm : m ∈ members) (hkey : m.1.key ≠ key)
    (hothers : ∀ k ≠ key, Table.get? b k = Table.get? a k)
    (hharm : (Schema.group title optional members).Harmless (key :: rest) (some (.table a)) d) :
    readMember m b = readMember m a := by
  by_cases hfield : m.1.field = key
  · -- the field of the member is the key that is not known, and goes for nothing
    have hheld := hharm.held ([], m.1) (mem_memberAliases hm (hfield ▸ Ne.symm hkey))
      (List.cons_prefix_cons.2 ⟨hfield, List.nil_prefix⟩)
    rw [Option.bind_some, List.nil_append, Table.find?_cons] at hheld
    rcases e : Table.get? a m.1.key with - | x
    · rw [e] at hheld
      cases hheld
    · simp only [readMember, locate_of_get? e, locate_of_get? ((hothers _ hkey).trans e)]
  · exact readMember_eq (hothers _ hkey) (hothers _ hfield)

theorem Harmless.exists_option (hnodup : (memberKeys members).Nodup) (hm : m ∈ members)
    (h : (Schema.group title optional members).Harmless p v d) (hfield : m.1.field ≠ m.1.key) :
    ∃ kind presence initial, m.2 = .option kind presence initial := by
  obtain ⟨kind, presence, initial, hoption⟩ := h.options _ (mem_memberAliases hm hfield)
  rw [List.nil_append, below?_cons hnodup hm] at hoption
  exact ⟨kind, presence, initial, Option.some.inj (by simpa [below?] using hoption)⟩

/-- A section is read alike if the member on the path is. -/
theorem read_group_strays (hdistinct : Distinct members)
    (hp : (Schema.group title optional members).below? (key :: rest) = none)
    (hothers : ∀ k ≠ key, Table.get? b k = Table.get? a k)
    (hbelow : Strays rest (Table.get? a key) (Table.get? b key))
    (hharm : (Schema.group title optional members).Harmless (key :: rest) (some (.table a)) d)
    (hsame : ∀ m ∈ members, m.1.key = key → m.2.below? rest = none → ∀ {d e},
      m.2.Harmless rest (Table.get? a key) d → m.2.readAt (Table.get? a key) = .ok d →
      m.2.readAt (Table.get? b key) = .ok e → e = d)
    (hd : (Schema.group title optional members).read (.table a) = .ok d)
    (he : (Schema.group title optional members).read (.table b) = .ok e) : e = d := by
  obtain ⟨entries, hentries, rfl⟩ := read_group_table.1 hd
  obtain ⟨entries', hentries', rfl⟩ := read_group_table.1 he
  have hmembers : ∀ m ∈ members, readMember m b = readMember m a := by
    intro m hm
    by_cases hkey : m.1.key = key
    · subst hkey
      obtain ⟨u, hu, hreadu⟩ := readMembers_member hdistinct.1 hentries hm
      obtain ⟨v, -, hreadv⟩ := readMembers_member hdistinct.1 hentries' hm
      have hunknown : m.2.below? rest = none := by rwa [below?_cons hdistinct.1 hm] at hp
      -- the member of the key is read alike although its part of the tree strays
      have huv : v = u := readMember_strays hbelow hothers (ne_nil_of_below? hunknown)
        (hharm.exists_option hdistinct.1 hm)
        (hsame m hm rfl hunknown (hharm.below hdistinct.1 hm hu)) hreadu hreadv
      rw [hreadu, hreadv, huv]
    · exact readMember_unstrayed hm hkey hothers hharm
  rw [readMembers_congr hmembers, hentries] at hentries'
  rw [Except.ok.inj hentries']

/-- A section that is always there is at first what an empty table describes. -/
theorem Sound.read_nil (hs : (Schema.group title false members).Sound) :
    (Schema.group title false members).read (.table []) =
      .ok (Schema.group title false members).initial := by
  obtain ⟨hdistinct, -⟩ := sound_group_iff.1 hs
  refine read_group_table.2 ⟨initials members, (readMembers_eq_ok_iff hdistinct.1).2
    ⟨keys_initials members, fun m hm => ?_⟩, rfl⟩
  exact ⟨_, get?_initials hdistinct.1 hm, readMember_of_absent rfl rfl⟩

/-- Where there is no tree no member is there. -/
theorem Harmless.of_none {s : Schema} (h : s.Harmless p none d) : s.Harmless p v d :=
  ⟨h.unset, h.options, fun a ha hprefix => by cases h.held a ha hprefix⟩

/-- A section that is unset, or set to what is no table, is opened by no harmless path. -/
theorem not_harmless_of_null (hheld : (w.find? (key :: rest)).isSome)
    (he : (Schema.group title true members).read w = .ok e) {x : Option Value} :
    ¬ (Schema.group title true members).Harmless (key :: rest) x .null := fun h =>
  not_belowOption_of_read he hheld
    (h.unset [] title members List.nil_prefix (by simp [below?]) (Value.find?_nil _))

/-- **Trees that differ at an unknown path describe the same document**, if both describe one and
the path is harmless. -/
theorem Sound.read_strays {s : Schema} (hs : s.Sound) {x y : Option Value}
    (h : Strays p x y) (hp : s.below? p = none) (hharm : s.Harmless p x d)
    (hd : s.readAt x = .ok d) (he : s.readAt y = .ok e) : e = d := by
  induction p generalizing s x y d e with
  | nil => simp [below?] at hp
  | cons key rest ih =>
    rcases s with ⟨kind, presence, initial⟩ | ⟨title, optional, members⟩
    · -- the path goes on below the option, where the second tree would need a table
      rcases h.eq_or_table (List.cons_ne_nil _ _) with rfl | ⟨t, rfl⟩
      · exact Except.ok.inj (he.symm.trans hd)
      · obtain ⟨issues, hissues⟩ := readOption_table kind presence t
        rw [readAt, read, hissues] at he
        cases he
    · obtain ⟨hdistinct, hsound⟩ := sound_group_iff.1 hs
      cases h with
      | same => exact Except.ok.inj (he.symm.trans hd)
      | inside hothers hbelow =>
        exact read_group_strays hdistinct hp hothers hbelow hharm
          (fun m hm _ hunknown _ _ hharm hd he => ih (hsound m hm) hbelow hunknown hharm hd he)
          hd he
      | opened hothers hbelow hheld =>
        obtain rfl := Except.ok.inj hd
        cases optional with
        | true => exact absurd hharm (not_harmless_of_null hheld he)
        | false =>
          -- a section that is not there is read as an empty one
          exact read_group_strays (a := []) hdistinct hp hothers hbelow hharm.of_none
            (fun m hm _ hunknown _ _ hharm hd he => ih (hsound m hm) hbelow hunknown hharm hd he)
            hs.read_nil he
      | blocked hv hheld =>
        obtain ⟨rfl, rfl⟩ := read_group_not_table hv hd
        exact absurd hharm (not_harmless_of_null hheld he)

end

end Schema

end LayeredSettings
