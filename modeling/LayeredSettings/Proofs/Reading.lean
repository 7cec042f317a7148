/-
LayeredSettings/Proofs/Reading.lean

What a schema makes of a tree, path by path.

`Schema.below?` follows a path of keys through the sections of a schema.  If a
tree has been read, then at such a path the document holds what the schema there
makes of the value that the tree holds there (`Schema.find?_read`): reading goes
into the sections and changes nothing but the options.

An option makes nothing of a table (`Schema.readOption_table`), so a tree that
fits has no table where the schema has an option
(`Schema.not_table_of_read`).
-/
import LayeredSettings.Schema
import LayeredSettings.Proofs.Contact

namespace LayeredSettings

namespace Schema

/-! ### Schemas along a path -/

/-- The schema of what is at a path of keys. -/
def below? : Schema → Path → Option Schema
  | s, [] => some s
  | .group _ _ members, key :: rest =>
      match members.find? fun m => m.1.key == key with
      | some (_, s) => below? s rest
      | none => none
  | .option _ _ _, _ :: _ => none

theorem below?_append (s : Schema) (p q : Path) :
    s.below? (p ++ q) = (s.below? p).bind fun below => below.below? q := by
  induction p generalizing s with
  | nil => simp [below?]
  | cons key rest ih =>
    rcases s with ⟨kind, presence, initial⟩ | ⟨title, optional, members⟩
    · rfl
    · rcases hm : members.find? fun m => m.1.key == key with - | m
      · simp [below?, hm]
      · simpa [below?, hm] using ih m.2

/-- Nothing is below an option. -/
theorem eq_of_option_append {s part : Schema} {q rest : Path} {kind : Kind} {presence : Presence}
    {initial : Value} (hq : s.below? q = some (.option kind presence initial))
    (hrest : s.below? (q ++ rest) = some part) : rest = [] := by
  rw [below?_append, hq, Option.bind_some] at hrest
  rcases rest with - | ⟨key, rest⟩
  · rfl
  · cases hrest

/-- A member on a path of keys. -/
theorem exists_member_of_below? {title : String} {optional : Bool}
    {members : List (Name × Schema)} {key : String} {rest : Path} {below : Schema}
    (h : (Schema.group title optional members).below? (key :: rest) = some below) :
    ∃ m ∈ members, m.1.key = key ∧ m.2.below? rest = some below := by
  rcases hm : members.find? fun m => m.1.key == key with - | m
  · simp [below?, hm] at h
  · exact ⟨m, List.mem_of_find?_eq_some hm, by simpa using List.find?_some hm,
      by simpa [below?, hm] using h⟩

/-! ### Sections -/

theorem alongside_eq_ok {key : String} {x : Except (List Issue) Value}
    {y : Except (List Issue) Table} {entries : Table} :
    alongside key x y = .ok entries ↔
      ∃ v rest, x = .ok v ∧ y = .ok rest ∧ entries = (key, v) :: rest := by
  rcases x with e | v <;> rcases y with f | rest <;> simp [alongside, eq_comm]

theorem under_eq_ok {key : String} {x : Except (List Issue) Value} {v : Value} :
    under key x = .ok v ↔ x = .ok v := by
  rcases x with e | w <;> simp [under]

theorem locate_of_get? {name : Name} {t : Table} {v : Value}
    (h : Table.get? t name.key = some v) : locate name t = some (name.key, v) := by
  simp [locate, h]

/-- A member whose key is in the table becomes what its schema makes of the value there. -/
theorem get?_readMembers {members : List (Name × Schema)} {t entries : Table} {key : String}
    {name : Name} {s : Schema} {v : Value} (h : readMembers members t = .ok entries)
    (hm : (members.find? fun m => m.1.key == key) = some (name, s))
    (hv : Table.get? t key = some v) :
    ∃ d, s.read v = .ok d ∧ Table.get? entries key = some d := by
  induction members generalizing entries with
  | nil => simp at hm
  | cons m rest ih =>
    rcases m with ⟨n, r⟩
    rw [readMembers, alongside_eq_ok] at h
    obtain ⟨d, others, hd, hothers, rfl⟩ := h
    -- the first member has the key, or the key is one of a member behind it
    by_cases hkey : n.key = key
    · simp only [List.find?_cons, hkey, beq_self_eq_true, Option.some.injEq, Prod.mk.injEq] at hm
      obtain ⟨rfl, rfl⟩ := hm
      rw [← hkey] at hv
      rw [locate_of_get? hv] at hd
      exact ⟨d, under_eq_ok.1 hd, by simp [Table.get?, hkey]⟩
    · have hm' : (rest.find? fun m => m.1.key == key) = some (name, s) := by
        simpa [List.find?_cons, hkey] using hm
      obtain ⟨e, he, hget⟩ := ih hothers hm'
      exact ⟨e, he, by simpa [Table.get?, hkey] using hget⟩

theorem read_group_table {title : String} {optional : Bool} {members : List (Name × Schema)}
    {t : Table} {d : Value} :
    (Schema.group title optional members).read (.table t) = .ok d ↔
      ∃ entries, readMembers members t = .ok entries ∧ d = .table entries := by
  rw [read]
  rcases readMembers members t with e | entries <;> simp [eq_comm]

/-- Anything but a table unsets a section, which has to be one that may be unset. -/
theorem read_group_not_table {title : String} {optional : Bool} {members : List (Name × Schema)}
    {v d : Value} (hv : v.isTable = false)
    (h : (Schema.group title optional members).read v = .ok d) : optional = true ∧ d = .null := by
  cases v with
  | table t => cases hv
  | null =>
    cases optional with
    | true => exact ⟨rfl, (Except.ok.inj h).symm⟩
    | false => cases h
  | _ => cases h

/-! ### Documents along a path -/

/-- Where the tree holds a value, the document holds what the schema there makes of it. -/
theorem find?_read {s below : Schema} {p : Path} {v w d : Value} (h : s.read v = .ok d)
    (hs : s.below? p = some below) (hw : v.find? p = some w) :
    ∃ e, below.read w = .ok e ∧ d.find? p = some e := by
  induction p generalizing s v d with
  | nil =>
    obtain rfl := Option.some.inj hs
    rw [Value.find?_nil] at hw
    obtain rfl := Option.some.inj hw
    exact ⟨d, h, Value.find?_nil d⟩
  | cons key rest ih =>
    rcases s with ⟨kind, presence, initial⟩ | ⟨title, optional, members⟩
    · -- there is no schema below an option
      simp [below?] at hs
    · rcases v.eq_table_or_not_table with ⟨t, rfl⟩ | hv
      · obtain ⟨entries, hentries, rfl⟩ := read_group_table.1 h
        rcases hm : members.find? fun m => m.1.key == key with - | ⟨name, member⟩
        · simp [below?, hm] at hs
        · rcases hu : Table.get? t key with - | u
          · simp [Value.find?, hu] at hw
          · obtain ⟨e, he, hget⟩ := get?_readMembers hentries hm hu
            obtain ⟨x, hx, hfind⟩ := ih he (by simpa [below?, hm] using hs)
              (by simpa [Value.find?, hu] using hw)
            exact ⟨x, hx, by simpa [Value.find?, hget] using hfind⟩
      · rw [Value.find?_cons_of_not_table hv] at hw
        cases hw

/-! ### Options and tables -/

theorem kind_read_table (kind : Kind) (t : Table) : ∃ m, kind.read (.table t) = .error m := by
  cases kind <;> simp [Kind.read, Kind.readText, Value.numeral?, Kind.readUrl, Kind.readInteger,
    Kind.integerOf, Kind.readFlag, Kind.readChoice]

/-- No option is filled with a table. -/
theorem readOption_table (kind : Kind) (presence : Presence) (t : Table) :
    ∃ issues, readOption kind presence (.table t) = .error issues := by
  obtain ⟨m, hm⟩ := kind_read_table kind t
  refine ⟨[⟨[], m⟩], ?_⟩
  cases presence <;> simp [readOption, hm]

/-- A tree that fits has no table where the schema has an option. -/
theorem not_table_of_read {s : Schema} {p : Path} {v w d : Value} {kind : Kind}
    {presence : Presence} {initial : Value} (h : s.read v = .ok d)
    (hs : s.below? p = some (.option kind presence initial)) (hw : v.find? p = some w) :
    w.isTable = false := by
  obtain ⟨e, he, -⟩ := find?_read h hs hw
  rcases w.eq_table_or_not_table with ⟨t, rfl⟩ | hn
  · obtain ⟨issues, hissues⟩ := readOption_table kind presence t
    rw [read, hissues] at he
    cases he
  · exact hn

end Schema

end LayeredSettings
