/-
LayeredSettings/Proofs/Confined.lean

An override changes nothing but its option.

Two environments may differ in the variables of one option.  Their trees of
overrides are the same beside it, and so are the merged trees, since neither tree
blocks the option: what blocks it would stand in place of a section that is always
there, and the tree would not fit (`Schema.not_blocks_of_read`).

From trees that are the same beside an option a schema makes documents of which one
is the other with the option set anew (`Schema.Sound.readAt_beside`).  A section
need not be there in both trees, but a section that is missing is read as an empty
one.  The leaves of two such documents are the same but for the option: no section
comes or goes as a leaf, since each has an option that is always set
(`Settings.present_ne_nil`).

Main result: `resolve_override_confined`.
-/
import LayeredSettings.Proofs.Beside
import LayeredSettings.Proofs.Provenance
import LayeredSettings.Proofs.Reachable
import LayeredSettings.Proofs.UnknownPath

namespace LayeredSettings

open Value (assigned assigned_cons entries SameBeside)

/-! ### Options in sections that are always there -/

namespace Schema

/-- Whether a path leads to an option through sections that are always there. -/
def standing : Schema → Path → Bool
  | .option _ _ _, [] => true
  | .group _ optional members, key :: rest =>
      !optional &&
        match members.find? fun m => m.1.key == key with
        | some (_, s) => standing s rest
        | none => false
  | _, _ => false

variable {s : Schema} {p q rest : Path} {key : String} {d e : Value}

theorem exists_option_of_standing (h : s.standing p = true) :
    ∃ kind presence initial, s.below? p = some (.option kind presence initial) := by
  induction p generalizing s with
  | nil =>
    rcases s with ⟨kind, presence, initial⟩ | ⟨title, optional, members⟩
    · exact ⟨kind, presence, initial, rfl⟩
    · cases h
  -- only a section has something below it
  | cons key rest ih =>
    rcases s with ⟨kind, presence, initial⟩ | ⟨title, optional, members⟩
    · cases h
    · rcases hm : members.find? fun m => m.1.key == key with - | m
      · simp [standing, hm] at h
      · obtain ⟨kind, presence, initial, hbelow⟩ := ih (s := m.2) (by simp_all [standing])
        exact ⟨kind, presence, initial, by rw [below?, hm]; exact hbelow⟩

/-- What the path goes on from is a section that is always there. -/
theorem exists_group_of_standing (h : s.standing (q ++ key :: rest) = true) :
    ∃ title members, s.below? q = some (.group title false members) := by
  induction q generalizing s with
  | nil =>
    rcases s with ⟨kind, presence, initial⟩ | ⟨title, optional, members⟩
    · cases h
    · -- something stands below the section, so it is not optional
      rcases optional with - | -
      · exact ⟨title, members, rfl⟩
      · cases h
  | cons k q ih =>
    rcases s with ⟨kind, presence, initial⟩ | ⟨title, optional, members⟩
    · cases h
    · rcases hm : members.find? fun m => m.1.key == k with - | m
      · simp [standing, hm] at h
      · obtain ⟨title', members', hbelow⟩ := ih (s := m.2) (by simp_all [standing])
        exact ⟨title', members', by rw [below?, hm]; exact hbelow⟩

/-- The option goes on from a member of its section. -/
theorem exists_member_of_standing {title : String} {optional : Bool}
    {members : List (Name × Schema)}
    (h : (Schema.group title optional members).standing (key :: rest) = true) :
    optional = false ∧ ∃ m ∈ members, m.1.key = key ∧ m.2.standing rest = true := by
  rcases optional with - | -
  · rcases hm : members.find? fun m => m.1.key == key with - | m
    · simp [standing, hm] at h
    · exact ⟨rfl, m, List.mem_of_find?_eq_some hm, by simpa using List.find?_some hm,
        by simpa [standing, hm] using h⟩
  · cases h

/-- A tree that fits does not block an option in sections that are always there. -/
theorem not_blocks_of_read {w : Value} (hp : s.standing p = true) (h : s.read w = .ok d) :
    w.contact p ≠ .blocks := by
  intro hblocks
  obtain ⟨q, rest, x, rfl, hrest, hx, hplain⟩ := Value.contact_eq_blocks_iff.1 hblocks
  rcases rest with - | ⟨key, rest⟩
  · exact absurd rfl hrest
  · obtain ⟨title, members, hgroup⟩ := exists_group_of_standing hp
    obtain ⟨e, he, -⟩ := find?_read h hgroup hx
    cases (read_group_not_table hplain he).1

/-! ### Documents that differ in one option -/

/-- A section that is always there is read from what entries there are. -/
theorem Sound.read_entries {title : String} {members : List (Name × Schema)} {v : Option Value}
    (hs : (Schema.group title false members).Sound)
    (h : (Schema.group title false members).readAt v = .ok d) :
    ∃ t, readMembers members (entries v) = .ok t ∧ d = .table t := by
  rcases v with - | v
  · -- what is missing is read as empty
    exact read_group_table.1 (hs.read_nil.trans h)
  · rcases v.eq_table_or_not_table with ⟨t, rfl⟩ | hv
    · have hread : (Schema.group title false members).read (.table t) = .ok d := h
      exact read_group_table.1 hread
    · cases (read_group_not_table hv h).1

/-- Among the members of a section that is always there: if the member that leads to the option is
the same but for the option, then so is the section. -/
theorem Sound.readAt_beside_group {title : String} {members : List (Name × Schema)}
    (hs : (Schema.group title false members).Sound) {m : Name × Schema} (hm : m ∈ members)
    {v w : Option Value} (h : SameBeside (m.1.key :: rest) v w)
    (hmember : ∀ a b, readMember m (entries v) = .ok a → readMember m (entries w) = .ok b →
      ∃ x : Value, x.isTable = false ∧ b = assigned (some a) rest x)
    (hd : (Schema.group title false members).readAt v = .ok d)
    (he : (Schema.group title false members).readAt w = .ok e) :
    ∃ x, x.isTable = false ∧ e = assigned (some d) (m.1.key :: rest) x := by
  obtain ⟨hdistinct, -⟩ := sound_group_iff.1 hs
  obtain ⟨t, ht, rfl⟩ := hs.read_entries hd
  obtain ⟨u, hu, rfl⟩ := hs.read_entries he
  obtain ⟨a, hget, ha⟩ := readMembers_member hdistinct.1 ht hm
  obtain ⟨b, -, hb⟩ := readMembers_member hdistinct.1 hu hm
  obtain ⟨x, hx, rfl⟩ := hmember a b ha hb
  refine ⟨x, hx, ?_⟩
  -- all other members read the same in both trees, so one document is the other with this member
  -- put anew
  have hput := readMembers_put hdistinct.1 ht hm
    (fun n hn hne => readMember_beside hdistinct hm hn hne h.tables) hb
  obtain rfl : u = _ := Except.ok.inj (hu.symm.trans hput)
  rw [assigned_cons]
  simp only [entries, hget]

/-- **Trees that are the same beside an option describe documents that differ in it at most.** -/
theorem Sound.readAt_beside (hs : s.Sound) (hp : s.standing p = true)
    (haliases : ∀ a ∈ s.aliases, ∃ kind presence initial,
      s.below? (a.1 ++ [a.2.key]) = some (.option kind presence initial))
    {v w : Option Value} (h : SameBeside p v w) (hd : s.readAt v = .ok d)
    (he : s.readAt w = .ok e) : ∃ x, x.isTable = false ∧ e = assigned (some d) p x := by
  induction p generalizing s v w d e with
  | nil =>
    rcases s with ⟨kind, presence, initial⟩ | ⟨title, optional, members⟩
    · refine ⟨e, ?_, rfl⟩
      rcases w with - | w
      · obtain rfl := Except.ok.inj he
        exact isTable_initial hs
      · exact isTable_of_readOption he
    · cases hp
  | cons key rest ih =>
    rcases s with ⟨kind, presence, initial⟩ | ⟨title, optional, members⟩
    · cases hp
    · obtain ⟨rfl, m, hm, rfl, hbelow⟩ := exists_member_of_standing hp
      obtain ⟨hdistinct, hsound⟩ := sound_group_iff.1 hs
      refine hs.readAt_beside_group hm h (fun a b ha hb => ?_) hd he
      by_cases hfield : m.1.field = m.1.key
      · -- what is read is under the key or nowhere
        have habsent : ∀ t : Table, Table.get? t m.1.key = none → Table.get? t m.1.field = none :=
          fun t ht => hfield ▸ ht
        refine ih (hsound m hm) hbelow (fun n hn => ?_) h.entries
          ((readMember_iff_readAt (habsent _)).1 ha) ((readMember_iff_readAt (habsent _)).1 hb)
        obtain ⟨kind, presence, initial, hoption⟩ := haliases _ (mem_memberAliases_of_below hm hn)
        rw [List.cons_append, below?_cons hdistinct.1 hm] at hoption
        exact ⟨kind, presence, initial, hoption⟩
      · -- a member with two names is the option itself
        obtain ⟨kind, presence, initial, hoption⟩ := haliases _ (mem_memberAliases hm hfield)
        rw [List.nil_append, below?_cons hdistinct.1 hm] at hoption
        obtain hoption : m.2 = .option kind presence initial := Option.some.inj hoption
        have hrest : rest = [] := by
          rcases rest with - | ⟨k, rest⟩
          · rfl
          · rw [hoption] at hbelow
            cases hbelow
        subst hrest
        have hsoundm := hsound m hm
        rw [hoption] at hsoundm
        refine ⟨b, ?_, rfl⟩
        rcases readMember_eq_ok hb with rfl | ⟨y, hy⟩
        · rw [hoption]
          exact isTable_initial hsoundm
        · rw [hoption] at hy
          exact isTable_of_readOption hy

/-- An option in sections that are always there is in every document, null if it is not set. -/
theorem Sound.exists_find?_of_standing (hs : s.Sound) (hd : s.Fits d)
    (hp : s.standing p = true) : ∃ y, d.find? p = some y ∧ y.isTable = false := by
  induction p generalizing s d with
  | nil =>
    cases hd with
    | option h =>
      obtain ⟨w, hw⟩ := h
      exact ⟨d, Value.find?_nil d, isTable_of_readOption hw⟩
    | unset => cases hp
    | group => cases hp
  | cons key rest ih =>
    rcases s with ⟨kind, presence, initial⟩ | ⟨title, optional, members⟩
    · cases hp
    · -- the section is always there, and it holds a value for each of its members
      obtain ⟨rfl, m, hm, rfl, hbelow⟩ := exists_member_of_standing hp
      obtain ⟨-, hsound⟩ := sound_group_iff.1 hs
      obtain ⟨t, rfl⟩ := hd.exists_table
      obtain ⟨v, hv, hfits⟩ := hd.exists_member hm
      obtain ⟨y, hy, hplain⟩ := ih (hsound m hm) hfits hbelow
      exact ⟨y, by rw [Table.find?_cons, hv]; exact hy, hplain⟩

/-! ### Sections with entries -/

/-- What is set of a section with an option that is always set has entries. -/
theorem Sound.present_ne_nil (hs : s.Sound) (hd : s.Fits d)
    (hset : s.alwaysSet (q ++ key :: rest) = true) {t : Table} (ht : d.find? q = some (.table t)) :
    Table.present t ≠ [] := by
  induction q generalizing s d with
  | nil =>
    obtain rfl := Option.some.inj ((Value.find?_nil d).symm.trans ht)
    obtain ⟨-, v, hv⟩ := hs.find?_present_of_alwaysSet hd hset
    -- the option that is always set is found in what is set of the section, which has an entry then
    intro hempty
    rw [Value.present_table, hempty, List.nil_append, Table.find?_cons] at hv
    cases hv
  | cons k q ih =>
    cases hd with
    | option => cases hset
    | unset => cases hset
    | group hkeys hmembers =>
      rename_i title optional members t'
      obtain ⟨-, hsound⟩ := sound_group_iff.1 hs
      rcases hm : members.find? fun m => m.1.key == k with - | m
      · simp [alwaysSet, hm] at hset
      · obtain rfl : m.1.key = k := by simpa using List.find?_some hm
        have hmem : m ∈ members := List.mem_of_find?_eq_some hm
        rw [Table.find?_cons, Option.bind_eq_some_iff] at ht
        obtain ⟨v, hv, ht⟩ := ht
        -- below the first key the path is one of the member of that key
        refine ih (hsound m hmem) (hmembers m hmem v hv) ?_ ht
        simp only [List.cons_append, alwaysSet, hm, Bool.and_eq_true] at hset
        exact hset.2

end Schema

/-! ### Leaves -/

theorem Value.leaves_table {t : Table} (h : t ≠ []) (path : String) :
    Value.leaves path (.table t) = Table.leaves path t := by
  rcases t with - | ⟨e, t⟩
  · exact absurd rfl h
  · rfl

namespace Table

variable {t : Table} {key path : String} {a b : Value}

theorem present_cons_eq (key : String) (v : Value) (t : Table) :
    present ((key, v) :: t) = present [(key, v)] ++ present t := by
  by_cases hv : v = .null
  · rw [hv, present_cons_null, present_cons_null]
    rfl
  · rw [present_cons hv, present_cons hv]
    rfl

theorem leaves_append (path : String) (t u : Table) :
    leaves path (t ++ u) = leaves path t ++ leaves path u := by
  induction t with
  | nil => rfl
  | cons e rest ih => simp only [List.cons_append, leaves, ih, List.append_assoc]

/-- An entry set anew changes only its own leaves. -/
theorem filter_leaves_put (keep : String × Value → Bool) (h : get? t key = some a)
    (hab : (leaves path (present [(key, b)])).filter keep =
      (leaves path (present [(key, a)])).filter keep) :
    (leaves path (present (put t key b))).filter keep =
      (leaves path (present t)).filter keep := by
  induction t with
  | nil => cases h
  | cons e rest ih =>
    rcases e with ⟨k, v⟩
    by_cases hk : k = key
    · obtain rfl : v = a := by simpa [get?, hk] using h
      -- the leaves of the entry itself are kept alike, those behind it have not changed
      rw [put, if_pos hk, hk, present_cons_eq, present_cons_eq key v rest, leaves_append,
        leaves_append, List.filter_append, List.filter_append, hab]
    · rw [put, if_neg hk, present_cons_eq, present_cons_eq k v rest, leaves_append, leaves_append,
        List.filter_append, List.filter_append, ih (by simpa [get?, hk] using h)]

/-- The leaves of one entry. -/
theorem leaves_entry {v : Value} (hv : v ≠ .null) (path key : String) :
    leaves path (present [(key, v)]) = v.present.leaves (Path.extend path key) := by
  rw [present_cons hv, leaves]
  exact List.append_nil _

theorem leaves_section {u : Table} (hu : present u ≠ []) (path key : String) :
    leaves path (present [(key, .table u)]) = leaves (Path.extend path key) (present u) := by
  have hnull : Value.table u ≠ .null := nofun
  rw [leaves_entry hnull, Value.present_table, Value.leaves_table hu]

/-- Leaves of an option are dropped with the text of its path. -/
theorem filter_leaves_of_not_table {v : Value} (hv : v.isTable = false) (path key : String) :
    (leaves path (present [(key, v)])).filter (fun e => e.1 ≠ Path.extend path key) = [] := by
  by_cases hnull : v = .null
  · rw [hnull]
    rfl
  · rw [leaves_entry hnull, Value.present_of_not_table hv, Value.leaves_of_not_table hv]
    simp

/-- Something is set of each table on the way to the end of a path. -/
def SetAlong (t : Table) (p : Path) : Prop :=
  ∀ q k r u, p = q ++ k :: r → q ≠ [] → find? t q = some (.table u) → present u ≠ []

theorem SetAlong.below {s : Table} {next : String} {rest : Path}
    (h : SetAlong t (key :: next :: rest)) (hs : get? t key = some (.table s)) :
    present s ≠ [] ∧ SetAlong s (next :: rest) := by
  -- what a path finds below the key is what it finds with the key in front
  have hbelow : ∀ q, find? t (key :: q) = find? s q := by
    intro q
    rw [find?, find?_cons, hs]
    rfl
  refine ⟨h [key] next rest s rfl (List.cons_ne_nil _ _) ?_, fun q k r u hsplit _ hu => ?_⟩
  · rw [hbelow, find?, Value.find?_nil]
  · refine h (key :: q) k r u ?_ (List.cons_ne_nil _ _) ?_
    · rw [hsplit, List.cons_append]
    · rwa [hbelow]

/-- **A value set anew changes no other leaf**, if neither it nor what was there is a table, and if
something is set of the tables on the way before and afterwards. -/
theorem filter_leaves_assign {rest : Path} {x y : Value} (path : String)
    (hy : find? t (key :: rest) = some y) (hplain : y.isTable = false) (hx : x.isTable = false)
    (hset : SetAlong t (key :: rest)) (hset' : SetAlong (assign t (key :: rest) x) (key :: rest)) :
    (leaves path (present (assign t (key :: rest) x))).filter
        (fun e => e.1 ≠ (key :: rest).foldl Path.extend path) =
      (leaves path (present t)).filter (fun e => e.1 ≠ (key :: rest).foldl Path.extend path) := by
  induction rest generalizing t key path with
  | nil =>
    rw [find?, find?_cons] at hy
    obtain ⟨v, hv, hvy⟩ := Option.bind_eq_some_iff.1 hy
    obtain rfl : v = y := Option.some.inj ((Value.find?_nil v).symm.trans hvy)
    refine filter_leaves_put _ hv ?_
    rw [List.foldl_cons, List.foldl_nil, filter_leaves_of_not_table hx,
      filter_leaves_of_not_table hplain]
  | cons next rest ih =>
    rw [find?, find?_cons] at hy
    obtain ⟨v, hv, hvy⟩ := Option.bind_eq_some_iff.1 hy
    obtain ⟨s, -, rfl, -⟩ := Value.exists_table_of_find? (Option.isSome_of_eq_some hvy)
    have hassign : assign t (key :: next :: rest) x =
        put t key (.table (assign s (next :: rest) x)) := by
      rw [Value.assign_cons, hv]
      rfl
    have hnew : get? (assign t (key :: next :: rest) x) key =
        some (.table (assign s (next :: rest) x)) := by
      rw [hassign, get?_put, if_pos rfl]
    obtain ⟨hfull, hbelow⟩ := hset.below hv
    obtain ⟨hfull', hbelow'⟩ := hset'.below hnew
    -- the leaves of the section are those of its entries, before and afterwards
    rw [hassign]
    refine filter_leaves_put _ hv ?_
    rw [leaves_section hfull, leaves_section hfull']
    exact ih _ hvy hbelow hbelow'

end Table

namespace Settings

variable {p : Path} {d e : Document} {t : Table}

/-- Each section on the way to an option has an option that is always set. -/
theorem exists_alwaysSet_of_standing (hp : schema.standing p = true) {q rest : Path} {key : String}
    (hsplit : p = q ++ key :: rest) : ∃ k r, schema.alwaysSet (q ++ k :: r) = true := by
  -- that a section on the way to one option is on the way to one that is always set is a fact about
  -- the finitely many options
  have hall : ∀ o ∈ schema.options, schema.standing o.path = true →
      ∀ q ∈ o.path.inits, q ≠ o.path →
        ∃ o' ∈ schema.options, schema.alwaysSet o'.path = true ∧ q <+: o'.path ∧ q ≠ o'.path := by
    decide +kernel
  obtain ⟨kind, presence, initial, hoption⟩ := Schema.exists_option_of_standing hp
  have hprefix : q <+: p := ⟨key :: rest, hsplit.symm⟩
  have hne : q ≠ p := by
    rintro rfl
    exact List.cons_ne_nil key rest (List.self_eq_append_right.1 hsplit)
  obtain ⟨o, -, hset, ⟨r, hr⟩, hother⟩ :=
    hall _ (Schema.mem_options hoption) hp q ((List.mem_inits _ _).2 hprefix) hne
  rcases r with - | ⟨k, r⟩
  · exact absurd ((List.append_nil q).symm.trans hr) hother
  · exact ⟨k, r, by rwa [hr]⟩

theorem setAlong_of_fits (hp : schema.standing p = true) (hd : schema.Fits (.table t)) :
    t.SetAlong p := by
  intro q k r u hsplit _ hu
  obtain ⟨key, rest, hset⟩ := exists_alwaysSet_of_standing hp hsplit
  exact schema_sound.present_ne_nil hd hset hu

theorem option_of_aliases : ∀ a ∈ schema.aliases, ∃ kind presence initial,
    schema.below? (a.1 ++ [a.2.key]) = some (.option kind presence initial) := by
  rw [aliases_schema]
  intro a ha
  obtain rfl := List.mem_singleton.1 ha
  exact ⟨_, _, _, rfl⟩

/-- **Trees that are the same beside an option have the same leaves beside it.** -/
theorem leaves_beside (hp : schema.standing p = true) {v w : Value}
    (h : SameBeside p (some v) (some w)) (hd : read v = .ok d) (he : read w = .ok e) :
    (leaves d).filter (fun l => l.1 ≠ Path.text p) =
      (leaves e).filter (fun l => l.1 ≠ Path.text p) := by
  obtain ⟨x, hx, hassigned⟩ := schema_sound.readAt_beside hp option_of_aliases h hd he
  have hfits : schema.Fits d := schema_sound.fits_of_read hd
  have hfits' : schema.Fits e := schema_sound.fits_of_read he
  obtain ⟨y, hy, hplain⟩ := schema_sound.exists_find?_of_standing hfits hp
  obtain ⟨kind, presence, initial, hoption⟩ := Schema.exists_option_of_standing hp
  obtain ⟨t, rfl⟩ := Schema.Shaped.exists_table hfits
  rcases p with - | ⟨key, rest⟩
  · cases hp
  · obtain rfl : .table (Table.assign t (key :: rest) x) = e := hassigned.symm
    -- the second document is the first with the option assigned, and no section on the way becomes
    -- empty
    have hleaves := Table.filter_leaves_assign "" hy hplain hx
      (setAlong_of_fits hp hfits) (setAlong_of_fits hp hfits')
    rw [Path.foldl_extend_empty (plain_of_option hoption)] at hleaves
    exact hleaves.symm

end Settings

/-! ### Overrides of one option -/

variable {files : Files} {source : Source} {environment environment' : Environment}
  {p q : Path} {P : Provider} {O O' : Layer}

/-- Options do not lead to one another. -/
theorem Schema.not_meets_of_options {s : Schema} {kind kind' : Kind}
    {presence presence' : Presence} {initial initial' : Value}
    (hp : s.below? p = some (.option kind presence initial))
    (hq : s.below? q = some (.option kind' presence' initial')) (hne : q ≠ p) :
    ¬ Path.Meets q p := by
  rintro (⟨rest, rfl⟩ | ⟨rest, rfl⟩)
  · rw [eq_of_option_append hq hp, List.append_nil] at hne
    exact hne rfl
  · rw [eq_of_option_append hp hq, List.append_nil] at hne
    exact hne rfl

/-- What blocks a path in the upper tree blocks it in the merged tree. -/
theorem Value.contact_merge_of_blocks {v w : Value} (h : w.contact p = .blocks) :
    (merge v w).contact p = .blocks := by
  obtain ⟨q, rest, x, rfl, hrest, hx, hplain⟩ := contact_eq_blocks_iff.1 h
  refine contact_eq_blocks_iff.2 ⟨q, rest, x, rfl, hrest, ?_, hplain⟩
  rw [find?_merge, find?_eq_some_iff_contact.1 hx]
  exact mergeOptional_of_not_table _ hplain

/-- Layers that are the same beside an option lie over the same layers, and both merged trees fit:
then the merged trees are the same beside the option. -/
theorem Provider.merge_beside (hp : Settings.schema.standing p = true)
    (h : O.data.SameBeside p O'.data) {d e : Document}
    (hd : Settings.read (.table (P.merge O).merged) = .ok d)
    (he : Settings.read (.table (P.merge O').merged) = .ok e) :
    (P.merge O).merged.SameBeside p (P.merge O').merged := by
  have hfree := Schema.not_blocks_of_read hp hd
  have hfree' := Schema.not_blocks_of_read hp he
  rw [merged_merge, ← Value.merge_table] at hfree hfree'
  rw [Table.SameBeside, merged_merge, merged_merge, ← Value.merge_table, ← Value.merge_table]
  exact SameBeside.merge (.refl p _) h
    (fun hblocks => hfree (Value.contact_merge_of_blocks hblocks))
    fun hblocks => hfree' (Value.contact_merge_of_blocks hblocks)

/-- The overrides of the two environments are the same beside the path, if there are any. -/
theorem beside_of_collectOverrides
    (hnames : environment.names.Nodup) (hnames' : environment'.names.Nodup)
    (hothers : ∀ e, overridePath? overridePrefix overrideSeparator e.1 ≠ .ok (some p) →
      (e ∈ environment ↔ e ∈ environment'))
    (hO : (collectOverrides environment overridePrefix overrideSeparator).outcome = .ok O)
    (hO' : (collectOverrides environment' overridePrefix overrideSeparator).outcome = .ok O') :
    O.SameBeside p O' := by
  have hvalues : ∀ {environment : Environment} {l : Layer},
      (collectOverrides environment overridePrefix overrideSeparator).outcome = .ok l →
      ∀ e ∈ environment, overridePath? overridePrefix overrideSeparator e.1 = .ok (some p) →
        ∃ w, overrideValue e.2 = .ok w := by
    intro environment l hl e he hpath
    obtain ⟨c, hall, -⟩ := collectOverrides_eq_ok_iff.1 hl
    exact Collected.exists_value_of_takeAll hall (environment.sorted_perm.mem_iff.2 he) hpath
  -- in order of names, both environments have the same variables beside those of the option
  have hkept : environment.sorted.filter (leavesAlone overridePrefix overrideSeparator p) =
      environment'.sorted.filter (leavesAlone overridePrefix overrideSeparator p) := by
    refine Environment.filter_sorted_eq hnames hnames' _ fun e he => hothers e fun hpath => ?_
    rw [leavesAlone_eq_false_iff.2 hpath] at he
    cases he
  have hagree := collectOverrides_beside (hvalues hO) (hvalues hO') hkept
  rw [hO, hO'] at hagree
  cases hagree with
  | ok hbeside => exact hbeside

/-- **An override changes nothing but its option.**  Take an option in sections that are always
there, and two environments that differ in variables for this very option at most.  If a source is
resolved with both, the leaves of the two documents are the same beside the option, and every other
option has the same origin. -/
theorem resolve_override_confined {r r' : Resolution}
    (hp : Settings.schema.standing p = true)
    (hnames : environment.names.Nodup) (hnames' : environment'.names.Nodup)
    (hothers : ∀ e, overridePath? overridePrefix overrideSeparator e.1 ≠ .ok (some p) →
      (e ∈ environment ↔ e ∈ environment'))
    (hr : (resolve files source environment).outcome = .ok r)
    (hr' : (resolve files source environment').outcome = .ok r') :
    (Settings.leaves r.document).filter (fun l => l.1 ≠ Path.text p) =
      (Settings.leaves r'.document).filter (fun l => l.1 ≠ Path.text p) ∧
    ∀ q kind presence initial,
      Settings.schema.below? q = some (.option kind presence initial) → q ≠ p →
      r.provider.origin? q = r'.provider.origin? q := by
  obtain ⟨hprovider, -, hread, -⟩ := resolve_eq_ok_iff.1 hr
  obtain ⟨hprovider', -, hread', -⟩ := resolve_eq_ok_iff.1 hr'
  obtain ⟨L, O, hL, hO, hP⟩ := userProvider_eq_ok_iff.1 hprovider
  obtain ⟨L', O', hL', hO', hP'⟩ := userProvider_eq_ok_iff.1 hprovider'
  obtain rfl : L = L' := Except.ok.inj (hL.symm.trans hL')
  have hbeside := beside_of_collectOverrides hnames hnames' hothers hO hO'
  rw [hP] at hread
  rw [hP'] at hread'
  rw [hP, hP']
  constructor
  · -- the defaults and the document of the source lie below both
    have hmerged := Provider.merge_beside (P := ⟨[defaultsLayer, L]⟩) hp hbeside.data hread hread'
    exact Settings.leaves_beside hp hmerged hread hread'
  · intro q kind presence initial hq hne
    obtain ⟨kind', presence', initial', hoption⟩ := Schema.exists_option_of_standing hp
    have hfind : O.find? q = O'.find? q :=
      hbeside.data q (Schema.not_meets_of_options hoption hq hne)
    rw [Provider.origin?_pair, Provider.origin?_pair, hfind, hbeside.name]

/-- The address of the index, as a variable. -/
def publicAddress : String × String :=
  ("TORRUST_INDEX_CONFIG_OVERRIDE_NET__BASE_URL", "https://index.example.org")

/-- Another option of the same section, as a variable. -/
def bindAddress : String × String :=
  ("TORRUST_INDEX_CONFIG_OVERRIDE_NET__BIND_ADDRESS", "127.0.0.1:80")

/-- The layers of the user with options of the network overridden. -/
def networkProvider (options : Table) : Provider :=
  ⟨[leastLayer, ⟨overridesLayer, [("net", .table options)]⟩]⟩

theorem userProvider_publicAddress :
    (userProvider noFiles leastSource [publicAddress, bindAddress]).outcome =
      .ok (networkProvider [("base_url", .text "https://index.example.org"),
        ("bind_address", .text "127.0.0.1:80")]) := by
  have hsorted : Environment.sorted [publicAddress, bindAddress] = [publicAddress, bindAddress] :=
    List.mergeSort_of_pairwise (by decide +kernel)
  refine userProvider_eq_ok_iff.2 ⟨leastLayer, _, by decide +kernel, ?_, rfl⟩
  rw [collectOverrides, hsorted]
  decide +kernel

theorem userProvider_bindAddress :
    (userProvider noFiles leastSource [bindAddress]).outcome =
      .ok (networkProvider [("bind_address", .text "127.0.0.1:80")]) := by
  have hsorted : Environment.sorted [bindAddress] = [bindAddress] :=
    List.mergeSort_of_pairwise (by decide)
  refine userProvider_eq_ok_iff.2 ⟨leastLayer, _, by decide +kernel, ?_, rfl⟩
  rw [collectOverrides, hsorted]
  decide +kernel

/-- The address of the index is set or unset, and nothing else changes. -/
theorem resolve_override_confined_address :
    ∃ r r', (resolve noFiles leastSource [publicAddress, bindAddress]).outcome = .ok r ∧
      (resolve noFiles leastSource [bindAddress]).outcome = .ok r' ∧
      r.document.find? ["net", "base_url"] = some (.text "https://index.example.org/") ∧
      r'.document.find? ["net", "base_url"] = some .null ∧
      (Settings.leaves r.document).filter (fun l => l.1 ≠ "net.base_url") =
        (Settings.leaves r'.document).filter (fun l => l.1 ≠ "net.base_url") ∧
      r.provider.origin? ["net", "bind_address"] = r'.provider.origin? ["net", "bind_address"] := by
  have hpath : overridePath? overridePrefix overrideSeparator publicAddress.1 =
      .ok (some ["net", "base_url"]) := by decide +kernel
  -- the variable of the address is the only one that the environments do not share
  have hothers : ∀ e : String × String,
      overridePath? overridePrefix overrideSeparator e.1 ≠ .ok (some ["net", "base_url"]) →
        (e ∈ [publicAddress, bindAddress] ↔ e ∈ [bindAddress]) := by
    intro e he
    have hne : e ≠ publicAddress := by
      rintro rfl
      exact he hpath
    rw [List.mem_cons, or_iff_right hne]
  obtain ⟨r, hr, -, hset⟩ := exists_resolve
    (fun d => decide (d.find? ["net", "base_url"] = some (.text "https://index.example.org/")))
    userProvider_publicAddress (by decide) (by decide +kernel)
  obtain ⟨r', hr', -, hunset⟩ := exists_resolve
    (fun d => decide (d.find? ["net", "base_url"] = some .null))
    userProvider_bindAddress (by decide) (by decide +kernel)
  obtain ⟨hleaves, horigins⟩ := resolve_override_confined (p := ["net", "base_url"]) (by decide)
    (by decide) (by decide) hothers hr hr'
  exact ⟨r, r', hr, hr', of_decide_eq_true hset, of_decide_eq_true hunset, hleaves,
    horigins ["net", "bind_address"] .text .required (.text "0.0.0.0:3001") rfl (by decide)⟩

end LayeredSettings
