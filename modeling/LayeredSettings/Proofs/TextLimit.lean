/-
LayeredSettings/Proofs/TextLimit.lean

Integers that are too long for a text.

An option of text takes a number as its decimal text, which an integer of too many
digits does not have.  Where the members of a tree put such an integer in front of
an option of text (`Schema.Overlong`), reading the tree does not end in issues to
report; and this is the only way (`Schema.overlongs_read_iff`).

A tree that differs at an unknown path alone from one that is read has no such
integer either (`Schema.Sound.not_overlong_of_strays`): beside the path it has what
the other tree has, below an option on the path it has a table, and where tables
newly lead to the path there is nothing beside it.
-/
import LayeredSettings.Proofs.NullFree
import LayeredSettings.Proofs.UnknownPath

namespace LayeredSettings

namespace Schema

variable {α : Type} {s : Schema} {title key : String} {optional : Bool}
  {members : List (Name × Schema)} {m : Name × Schema} {t a b entries : Table} {u v d : Value}
  {p rest : Path}

/-! ### Where an integer is too long -/

/-- An integer that has no text is what an option of text is to be read from. -/
inductive Overlong : Schema → Value → Prop
  | option {presence : Presence} {initial : Value} {n : Int} (h : isOverlong n = true) :
      Overlong (.option .text presence initial) (.integer n)
  | member {title : String} {optional : Bool} {members : List (Name × Schema)} {t : Table}
      {m : Name × Schema} {key : String} {v : Value} (hm : m ∈ members)
      (hv : locate m.1 t = some (key, v)) (h : Overlong m.2 v) :
      Overlong (.group title optional members) (.table t)

/-- An outcome whose issues are not reported. -/
def Overlongs (r : Except (List Issue) α) : Prop :=
  ∃ issues, r = .error issues ∧ holdsOverlong issues = true

theorem not_overlongs_ok (x : α) : ¬ Overlongs (.ok x) := by
  rintro ⟨issues, h, -⟩
  cases h

theorem overlongs_error {issues : List Issue} :
    Overlongs (.error issues : Except (List Issue) α) ↔ holdsOverlong issues = true := by
  simp [Overlongs]

theorem overlongs_under {r : Except (List Issue) Value} :
    Overlongs (under key r) ↔ Overlongs r := by
  rcases r with issues | x
  · rw [under, overlongs_error, overlongs_error, holdsOverlong, holdsOverlong, List.any_map]
    rfl
  · rfl

theorem overlongs_alongside {x : Except (List Issue) Value} {y : Except (List Issue) Table} :
    Overlongs (alongside key x y) ↔ Overlongs x ∨ Overlongs y := by
  rcases x with e | x <;> rcases y with f | y
  · simp only [alongside, overlongs_error, holdsOverlong, List.any_append, Bool.or_eq_true]
  · simp only [alongside, overlongs_error, not_overlongs_ok, or_false]
  · simp only [alongside, overlongs_error, not_overlongs_ok, false_or]
  · simp only [alongside, not_overlongs_ok, or_self]

theorem overlongs_readMembers :
    Overlongs (readMembers members t) ↔ ∃ m ∈ members, Overlongs (readMember m t) := by
  induction members with
  | nil => simp [readMembers, not_overlongs_ok]
  | cons m rest ih => rw [readMembers_cons, overlongs_alongside, ih, List.exists_mem_cons_iff]

theorem overlongs_readMember :
    Overlongs (readMember m t) ↔
      ∃ key v, locate m.1 t = some (key, v) ∧ Overlongs (m.2.read v) := by
  rw [readMember]
  rcases locate m.1 t with - | ⟨key, v⟩
  · simp [not_overlongs_ok]
  · simp [overlongs_under]

theorem readText_eq_overlongText {overlong : Misfit} :
    Kind.readText overlong v = .error .overlongText ↔
      overlong = .overlongText ∧ ∃ n, v = .integer n ∧ isOverlong n = true := by
  constructor
  · intro h
    cases v with
    -- only an integer can have too many digits; any other value is refused in another way
    | integer n =>
      rw [Kind.readText, Value.numeral?] at h
      rcases e : isOverlong n with - | -
      · simp [e] at h
      · exact ⟨by simpa [e] using h, n, rfl, e⟩
    | _ => cases h
  · rintro ⟨rfl, n, rfl, hn⟩
    simp [Kind.readText, Value.numeral?, hn]

theorem numeral_read_ne_overlongText (text : String) :
    Numeral.read text ≠ .error .overlongText := by
  simp only [Numeral.read]
  repeat' split
  all_goals simp

theorem integerOf_ne_overlongText (v : Value) : Kind.integerOf v ≠ .error .overlongText := by
  cases v with
  | text text => exact numeral_read_ne_overlongText text
  | float x =>
    rw [Kind.integerOf]
    repeat' split
    all_goals simp
  | _ => simp [Kind.integerOf]

theorem flagOf_ne_overlongText (n : Int) : Kind.flagOf n ≠ .error .overlongText := by
  rw [Kind.flagOf]
  repeat' split
  all_goals simp

/-- Of all kinds of options only a text meets an integer that is too long for it. -/
theorem kind_read_eq_overlongText {kind : Kind} :
    kind.read v = .error .overlongText ↔
      kind = .text ∧ ∃ n, v = .integer n ∧ isOverlong n = true := by
  cases kind with
  | text => simp [Kind.read, readText_eq_overlongText]
  | secret => simp [Kind.read, readText_eq_overlongText]
  -- no other kind asks for the text of a number, so each of its refusals is another misfit
  | url webOnly =>
    refine iff_of_false ?_ (by simp)
    rw [Kind.read]
    cases v with
    | text text =>
      rw [Kind.readUrl]
      repeat' split
      all_goals simp
    | _ => simp [Kind.readUrl]
  | integer least greatest =>
    refine iff_of_false ?_ (by simp)
    rw [Kind.read, Kind.readInteger]
    have hinteger := integerOf_ne_overlongText v
    rcases e : Kind.integerOf v with misfit | n
    · exact fun h => hinteger (e.trans (congrArg _ (Except.error.inj h)))
    · dsimp only
      repeat' split
      all_goals simp
  | flag =>
    refine iff_of_false ?_ (by simp)
    rw [Kind.read]
    cases v with
    | integer n => exact flagOf_ne_overlongText n
    | float x =>
      rw [Kind.readFlag]
      split
      · exact flagOf_ne_overlongText _
      · simp
    | text text =>
      simp only [Kind.readFlag]
      repeat' split
      all_goals simp
    | _ => simp [Kind.readFlag]
  | choice title names =>
    refine iff_of_false ?_ (by simp)
    rw [Kind.read]
    cases v with
    | text text =>
      rw [Kind.readChoice]
      split
      all_goals simp
    | _ => simp [Kind.readChoice]

theorem readOption_eq_error {kind : Kind} {presence : Presence} {misfit : Misfit}
    (hset : unsets presence v = false) (h : kind.read v = .error misfit) :
    readOption kind presence v = .error [⟨[], misfit⟩] := by
  cases presence <;> simp_all [readOption, unsets]

theorem overlongs_readOption {kind : Kind} {presence : Presence} :
    Overlongs (readOption kind presence v) ↔
      kind = .text ∧ ∃ n, v = .integer n ∧ isOverlong n = true := by
  rw [← kind_read_eq_overlongText]
  rcases hunset : unsets presence v with - | -
  · rcases hread : kind.read v with misfit | w
    · rw [readOption_eq_error hunset hread, overlongs_error]
      simp [holdsOverlong]
    · rw [(readOption_of_not_unsets hunset).2 hread]
      simp [not_overlongs_ok]
  · -- what unsets an option is no integer
    rw [readOption_of_unsets hunset]
    refine iff_of_false (not_overlongs_ok _) fun h => ?_
    obtain ⟨-, n, rfl, -⟩ := kind_read_eq_overlongText.1 h
    cases presence <;> cases hunset

/-- A tree is not read, and its issues are not reported, exactly if it puts an integer that has no
text in front of an option of text. -/
theorem overlongs_read_iff : Overlongs (s.read v) ↔ s.Overlong v := by
  induction s using Schema.induction generalizing v with
  | option kind presence initial =>
    rw [read, overlongs_readOption]
    constructor
    · rintro ⟨rfl, n, rfl, hn⟩
      exact .option hn
    · rintro ⟨hn⟩
      exact ⟨rfl, _, rfl, hn⟩
  | group title optional members ih =>
    rcases v.eq_table_or_not_table with ⟨t, rfl⟩ | hv
    · have hread : Overlongs ((Schema.group title optional members).read (.table t)) ↔
          Overlongs (readMembers members t) := by
        rw [read]
        rcases readMembers members t with issues | entries
        · simp [overlongs_error]
        · simp [not_overlongs_ok]
      rw [hread, overlongs_readMembers]
      constructor
      · rintro ⟨m, hm, h⟩
        obtain ⟨key, v, hv, h⟩ := overlongs_readMember.1 h
        exact .member hm hv ((ih m hm).1 h)
      · intro h
        cases h with
        | member hm hv h => exact ⟨_, hm, overlongs_readMember.2 ⟨_, _, hv, (ih _ hm).2 h⟩⟩
    · -- a section that is no table is an issue of its own
      refine iff_of_false ?_ fun h => by cases h; cases hv
      cases v with
      | table t => cases hv
      | null =>
        cases optional with
        | true => exact not_overlongs_ok _
        | false => exact fun h => Bool.noConfusion (overlongs_error.1 h)
      | _ => exact fun h => Bool.noConfusion (overlongs_error.1 h)

theorem not_overlong_of_read (h : s.read v = .ok d) : ¬ s.Overlong v := by
  rw [← overlongs_read_iff, h]
  exact not_overlongs_ok d

/-- A member that is read is located at no such integer. -/
theorem not_overlong_of_readMember (h : readMember m t = .ok d)
    (hv : locate m.1 t = some (key, v)) : ¬ m.2.Overlong v := by
  rw [readMember, hv] at h
  exact not_overlong_of_read (under_eq_ok.1 h)

/-! ### Trees that differ at an unknown path -/

open Value (Strays)

theorem locate_cases {name : Name} (h : locate name t = some (key, v)) :
    Table.get? t name.key = some v ∨
    Table.get? t name.key = none ∧ Table.get? t name.field = some v := by
  rw [locate] at h
  rcases hkey : Table.get? t name.key with - | w
  · -- the field counts only where the key of the document is missing
    rw [hkey] at h
    obtain ⟨w, hw, heq⟩ := Option.map_eq_some_iff.1 h
    cases heq
    exact .inr ⟨rfl, hw⟩
  · rw [hkey] at h
    cases h
    exact .inl rfl

/-- Where tables newly lead to an unknown path, there is nothing beside it, and no option of text
is filled. -/
theorem Sound.not_overlong_of_opened (hs : s.Sound) (h : Strays p none (some v))
    (hp : s.below? p = none) (hfields : ∀ a ∈ s.aliases, ¬ a.1 ++ [a.2.field] <+: p) :
    ¬ s.Overlong v := by
  -- by induction on the path; the member that it leads to is the only one that is there
  induction p generalizing s v with
  | nil => simp [below?] at hp
  | cons key rest ih =>
    rcases h with - | - | - | ⟨hothers, hbelow, -⟩
    intro hlong
    cases hlong with
    | @member _ _ _ t m _ w hm hw hlong =>
      obtain ⟨hdistinct, hsound⟩ := sound_group_iff.1 hs
      by_cases hkey : m.1.key = key
      · subst hkey
        rcases locate_cases hw with hw | ⟨hnone, hw⟩
        · rw [hw] at hbelow
          rw [below?_cons hdistinct.1 hm] at hp
          refine ih (hsound m hm) hbelow hp (fun a ha hprefix => ?_) hlong
          exact hfields _ (mem_memberAliases_of_below hm ha)
            (List.cons_prefix_cons.2 ⟨rfl, hprefix⟩)
        · have hfield : m.1.field ≠ m.1.key := by
            intro hfield
            rw [hfield, hnone] at hw
            cases hw
          rw [hothers _ hfield] at hw
          cases hw
      · rcases locate_cases hw with hw | ⟨-, hw⟩
        · rw [hothers _ hkey] at hw
          cases hw
        · -- the member can only be there under its field, which would be on the path
          have hfield : m.1.field = key := by
            by_contra hfield
            rw [hothers _ hfield] at hw
            cases hw
          exact hfields ([], m.1) (mem_memberAliases hm (hfield ▸ Ne.symm hkey))
            (List.cons_prefix_cons.2 ⟨hfield, List.nil_prefix⟩)

theorem Harmless.not_field_prefix {d : Value} (h : s.Harmless p none d) :
    ∀ a ∈ s.aliases, ¬ a.1 ++ [a.2.field] <+: p :=
  fun a ha hprefix => by cases h.held a ha hprefix

/-- The member that a path leads to is what it was if the second tree has nothing at its key. -/
theorem readMember_eq_of_get?_eq_none (hrest : rest ≠ [])
    (hothers : ∀ k ≠ m.1.key, Table.get? b k = Table.get? a k)
    (hbelow : Strays rest (Table.get? a m.1.key) (Table.get? b m.1.key))
    (hb : Table.get? b m.1.key = none) : readMember m b = readMember m a := by
  have ha : Table.get? a m.1.key = none := by
    -- straying below a key leaves a table there, and there is none
    rcases hbelow.eq_or_table hrest with heq | ⟨t, ht⟩
    · exact heq.trans hb
    · rw [hb] at ht
      cases ht
  refine readMember_eq (hb.trans ha.symm) ?_
  by_cases hfield : m.1.field = m.1.key
  · rw [hfield, hb, ha]
  · exact hothers _ hfield

/-- A section has no integer that is too long in front of an option of text if the member on the
path has none. -/
theorem not_overlong_group_strays (hdistinct : Distinct members)
    (hp : (Schema.group title optional members).below? (key :: rest) = none)
    (hothers : ∀ k ≠ key, Table.get? b k = Table.get? a k)
    (hbelow : Strays rest (Table.get? a key) (Table.get? b key))
    (hharm : (Schema.group title optional members).Harmless (key :: rest) (some (.table a)) d)
    (hmember : ∀ m ∈ members, m.1.key = key → m.2.below? rest = none → ∀ {w d},
      Table.get? b key = some w → m.2.Harmless rest (Table.get? a key) d →
      (∀ u, Table.get? a key = some u → m.2.read u = .ok d) → ¬ m.2.Overlong w)
    (hd : (Schema.group title optional members).read (.table a) = .ok d) :
    ¬ (Schema.group title optional members).Overlong (.table b) := by
  obtain ⟨entries, hentries, rfl⟩ := read_group_table.1 hd
  intro hlong
  -- the integer of too many digits lies below some member, on the stray path or beside it
  cases hlong with
  | @member _ _ _ _ m _ w hm hw hlong =>
    obtain ⟨u, hu, hreadu⟩ := readMembers_member hdistinct.1 hentries hm
    by_cases hkey : m.1.key = key
    · subst hkey
      have hunknown : m.2.below? rest = none := by rwa [below?_cons hdistinct.1 hm] at hp
      rcases locate_cases hw with hb | ⟨hb, -⟩
      · exact hmember m hm rfl hunknown hb (hharm.below hdistinct.1 hm hu)
          (fun x hx => (readMember_of_get? hx).1 hreadu) hlong
      · -- the member is read from its field, and there nothing has strayed
        have hsame := readMember_eq_of_get?_eq_none (ne_nil_of_below? hunknown) hothers hbelow hb
        exact not_overlong_of_readMember (hsame.trans hreadu) hw hlong
    · have hsame := readMember_unstrayed hm hkey hothers hharm
      exact not_overlong_of_readMember (hsame.trans hreadu) hw hlong

/-- A tree that differs at an unknown path alone from one that is read puts no integer that is too
long in front of an option of text. -/
theorem Sound.not_overlong_of_strays (hs : s.Sound) {x : Option Value}
    (h : Strays p x (some v)) (hp : s.below? p = none) (hharm : s.Harmless p x d)
    (hnull : ∀ u, x = some u → u.NullFree) (hd : s.readAt x = .ok d) : ¬ s.Overlong v := by
  induction p generalizing s x v d with
  | nil => simp [below?] at hp
  | cons key rest ih =>
    rcases s with ⟨kind, presence, initial⟩ | ⟨title, optional, members⟩
    · rcases h.eq_or_table (List.cons_ne_nil _ _) with rfl | ⟨t, ht⟩
      · exact not_overlong_of_read hd
      · rw [Option.some.inj ht]
        intro hlong
        cases hlong
    · obtain ⟨hdistinct, hsound⟩ := sound_group_iff.1 hs
      cases h with
      | same => exact not_overlong_of_read hd
      | opened hothers hbelow hheld =>
        exact hs.not_overlong_of_opened (.opened hothers hbelow hheld) hp hharm.not_field_prefix
      | @blocked _ _ u _ hu hheld =>
        -- only a null could be read as a section, and there is none
        cases u with
        | table t => cases hu
        | null => exact absurd (Value.find?_nil _) (hnull _ rfl [])
        | _ => cases hd
      | @inside _ _ a b hothers hbelow =>
        refine not_overlong_group_strays hdistinct hp hothers hbelow hharm ?_ hd
        intro m hm _ hunknown w d hb hharm' hread
        rw [hb] at hbelow
        rcases ha : Table.get? a key with - | y
        · rw [ha] at hbelow hharm'
          exact (hsound m hm).not_overlong_of_opened hbelow hunknown hharm'.not_field_prefix
        · rw [ha] at hbelow hharm'
          refine ih (hsound m hm) hbelow hunknown hharm' ?_ (hread y ha)
          intro z hz
          obtain rfl := Option.some.inj hz
          exact (hnull _ rfl).get? ha

end Schema

end LayeredSettings
