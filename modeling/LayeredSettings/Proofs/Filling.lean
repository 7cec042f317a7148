/-
LayeredSettings/Proofs/Filling.lean

Trees with their gaps filled from the defaults.

A layer that joins below all others fills gaps of the merged tree, at any depth,
and changes nothing else (`Provider.filled_join`); as a relation of three trees
this is `Value.Filled`, which laying one tree over both keeps.

Main result: `Schema.Sound.read_filled`.  With the gaps filled from the defaults
a schema makes the same of a tree as without, since a default is read as the
initial document, which is what the schema puts into a gap itself.  The one way
out is a member with two names (`Schema.aliases`): held under its field alone it
is masked by a default that comes under its key (`Schema.Masks`).
-/
import LayeredSettings.Proofs.RoundTrip
import LayeredSettings.Layer

namespace LayeredSettings

/-! ### Trees with their gaps filled -/

/-- What holds of everything but tables, and of a table if it holds of the values of its keys,
holds of every value. -/
theorem Value.induction {motive : Value → Prop}
    (plain : ∀ v : Value, v.isTable = false → motive v)
    (table : ∀ t : Table, (∀ key v, Table.get? t key = some v → motive v) → motive (.table t))
    (v : Value) : motive v :=
  @Value.rec motive (fun _ => True) (fun t => ∀ key v, Table.get? t key = some v → motive v)
    (fun e => motive e.2)
    -- an array counts as plain: nothing is asked of its items
    (plain _ rfl) (fun _ => plain _ rfl) (fun _ => plain _ rfl) (fun _ => plain _ rfl)
    (fun _ => plain _ rfl) (fun _ => plain _ rfl) (fun _ => plain _ rfl) (fun _ => plain _ rfl)
    (fun _ _ => plain _ rfl) table trivial (fun _ _ _ _ => trivial)
    (fun _ _ h => by cases h)
    (fun e rest hhead hrest key v h => by
      rw [Table.get?] at h
      split at h
      · exact Option.some.inj h ▸ hhead
      · exact hrest key v h)
    (fun _ _ h => h) v

/-- The third value is the second one with its gaps filled from the first. -/
inductive Value.Filled : Option Value → Option Value → Option Value → Prop
  | same (below v : Option Value) : Filled below v v
  | gap (v : Value) : Filled (some v) none (some v)
  | tables {below s t : Table}
      (h : ∀ key, Filled (Table.get? below key) (Table.get? s key) (Table.get? t key)) :
      Filled (some (.table below)) (some (.table s)) (some (.table t))

namespace Value

theorem mergeOptional_none (v : Option Value) : mergeOptional v none = v := by
  cases v <;> rfl

/-- What lies over a tree has its gaps filled from it. -/
theorem filled_merge (v w : Value) : Filled (some v) (some w) (some (merge v w)) := by
  induction v using Value.induction generalizing w with
  | plain v hv =>
    rw [merge_of_not_table_left hv]
    exact .same _ _
  | table t ih =>
    rcases w.eq_table_or_not_table with ⟨u, rfl⟩ | hw
    · rw [merge_table]
      refine .tables fun key => ?_
      rw [Table.get?_merge]
      -- a key of the lower table alone fills a gap; a key of both goes on below it
      rcases hv : Table.get? t key with - | x <;> rcases hu : Table.get? u key with - | y
      · exact .same _ _
      · exact .same _ _
      · exact .gap x
      · exact ih key x hv y
    · rw [merge_of_not_table_right _ hw]
      exact .same _ _

/-- One and the same value laid over both keeps the gaps filled. -/
theorem Filled.merge {below v w : Option Value} (h : Filled below v w) (u : Option Value) :
    Filled below (mergeOptional v u) (mergeOptional w u) := by
  induction h generalizing u with
  | same below v => exact .same _ _
  | gap v =>
    rcases u with - | u
    · exact .gap v
    · exact filled_merge v u
  | @tables below s t h ih =>
    -- a table goes into both tables key by key, and anything else covers both
    rcases u with - | u
    · exact .tables h
    · rcases u.eq_table_or_not_table with ⟨u, rfl⟩ | hu
      · simp only [mergeOptional, merge_table]
        refine .tables fun key => ?_
        rw [Table.get?_merge, Table.get?_merge]
        exact ih key _
      · simp only [mergeOptional, merge_of_not_table_right _ hu]
        exact .same _ _

/-- The two values agree, or one is the filling of nothing, or all three are tables. -/
theorem Filled.cases {below v w : Option Value} (h : Filled below v w) :
    v = w ∨ (v = none ∧ w = below) ∨
      ∃ r s t, below = some (.table r) ∧ v = some (.table s) ∧ w = some (.table t) ∧
        ∀ key, Filled (Table.get? r key) (Table.get? s key) (Table.get? t key) := by
  cases h with
  | same => exact .inl rfl
  | gap => exact .inr (.inl ⟨rfl, rfl⟩)
  | tables h => exact .inr (.inr ⟨_, _, _, rfl, rfl, rfl, h⟩)

/-- Without anything to fill a gap from there is no difference. -/
theorem Filled.eq_of_none {v w : Option Value} (h : Filled none v w) : v = w := by
  rcases h.cases with rfl | ⟨rfl, rfl⟩ | ⟨r, s, t, hr, -⟩
  · rfl
  · rfl
  · cases hr

/-- Filled tables are filled key by key. -/
theorem Filled.get? {below s t : Table}
    (h : Filled (some (.table below)) (some (.table s)) (some (.table t))) (key : String) :
    Filled (Table.get? below key) (Table.get? s key) (Table.get? t key) := by
  cases h with
  | same => exact .same _ _
  | tables h => exact h key

end Value

theorem Table.merge_nil_left (t : Table) : Table.merge [] t = t := by
  simp [merge, updated, without, keys]

namespace Provider

/-- One layer alone is the whole tree. -/
theorem merged_single (l : Layer) : (Provider.mk [l]).merged = l.data :=
  Table.merge_nil_left l.data

/-- One more layer at the bottom fills the gaps of a provider. -/
theorem filled_join (P : Provider) (l : Layer) :
    Value.Filled (some (.table l.data)) (some (.table P.merged))
      (some (.table (P.join l).merged)) := by
  have hfold : ∀ (layers : List Layer) (s t : Table),
      Value.Filled (some (.table l.data)) (some (.table s)) (some (.table t)) →
      Value.Filled (some (.table l.data))
        (some (.table (layers.foldl (fun u m => Table.merge u m.data) s)))
        (some (.table (layers.foldl (fun u m => Table.merge u m.data) t))) := by
    intro layers
    induction layers with
    | nil => exact fun s t h => h
    | cons m rest ih =>
      intro s t h
      have hstep := h.merge (some (.table m.data))
      simp only [Value.mergeOptional, Value.merge_table] at hstep
      exact ih _ _ hstep
  -- the fold starts from the empty tree, all of which is a gap, and from the new layer
  refine hfold P.layers [] (Table.merge [] l.data) (.tables fun key => ?_)
  rw [Table.merge_nil_left]
  rcases Table.get? l.data key with - | v
  · exact .same _ _
  · exact .gap v

end Provider

namespace Schema

/-! ### Two names for one member -/

mutual

/-- The members whose field is called otherwise than their key, each with the path of its
section. -/
def aliases : Schema → List (Path × Name)
  | .option _ _ _ => []
  | .group _ _ members => memberAliases members

/-- Those among and below the members of a section. -/
def memberAliases : List (Name × Schema) → List (Path × Name)
  | [] => []
  | (name, s) :: rest =>
      (if name.field = name.key then [] else [([], name)]) ++
        (aliases s).map (fun a => (name.key :: a.1, a.2)) ++ memberAliases rest

end

theorem mem_memberAliases {members : List (Name × Schema)} {m : Name × Schema}
    (hm : m ∈ members) (hne : m.1.field ≠ m.1.key) : ([], m.1) ∈ memberAliases members := by
  induction members with
  | nil => cases hm
  | cons n rest ih =>
    rw [memberAliases, List.mem_append, List.mem_append]
    rcases List.mem_cons.1 hm with rfl | hrest
    · exact .inl (.inl (by simp [hne]))
    · exact .inr (ih hrest)

theorem mem_memberAliases_of_below {members : List (Name × Schema)} {m : Name × Schema}
    (hm : m ∈ members) {a : Path × Name} (ha : a ∈ m.2.aliases) :
    (m.1.key :: a.1, a.2) ∈ memberAliases members := by
  induction members with
  | nil => cases hm
  | cons n rest ih =>
    rw [memberAliases, List.mem_append, List.mem_append]
    rcases List.mem_cons.1 hm with rfl | hrest
    · exact .inl (.inr (List.mem_map.2 ⟨a, ha, rfl⟩))
    · exact .inr (ih hrest)

/-- A member that the first tree holds under its field alone is there under its key in the
second. -/
def Masks (s : Schema) (v w : Value) : Prop :=
  ∃ a ∈ s.aliases, v.find? (a.1 ++ [a.2.key]) = none ∧
    (v.find? (a.1 ++ [a.2.field])).isSome ∧ (w.find? (a.1 ++ [a.2.key])).isSome

/-! ### Defaults -/

/-- What the defaults hold for a schema. -/
def default? (s : Schema) : Option Value :=
  if s.initial = .null then none else some s.initial.present

/-- The defaults of a section hold for each member what the defaults of the member are. -/
theorem get?_default {members : List (Name × Schema)} (hnodup : (memberKeys members).Nodup)
    {m : Name × Schema} (hm : m ∈ members) :
    Table.get? (Table.present (initials members)) m.1.key = m.2.default? := by
  rw [Table.get?_present (keys_initials members ▸ hnodup), get?_initials hnodup hm, default?]
  by_cases h : m.2.initial = .null <;> simp [h, Option.filter]

theorem get?_default_of_notMem {members : List (Name × Schema)}
    (hnodup : (memberKeys members).Nodup) {key : String} (h : key ∉ memberKeys members) :
    Table.get? (Table.present (initials members)) key = none := by
  have hinitials : Table.get? (initials members) key = none := by
    rwa [Table.get?_eq_none_iff, keys_initials]
  rw [Table.get?_present (keys_initials members ▸ hnodup), hinitials]
  rfl

/-- The default of a schema is read as its initial document. -/
theorem Sound.read_default {s : Schema} (hs : s.Sound) {v : Value} (h : s.default? = some v) :
    s.read v = .ok s.initial := by
  rw [default?] at h
  split at h
  · cases h
  · rename_i hset
    obtain rfl := Option.some.inj h
    exact hs.read_present hs.settled_initial hset

theorem readMember_eq {m : Name × Schema} {t u : Table}
    (hkey : Table.get? t m.1.key = Table.get? u m.1.key)
    (hfield : Table.get? t m.1.field = Table.get? u m.1.field) :
    readMember m t = readMember m u := by
  simp only [readMember, locate, hkey, hfield]

/-- A member is read as it was before its gaps were filled, unless it is there under its field
alone and the filling brings the key. -/
theorem readMember_filled {m : Name × Schema} (hs : m.2.Sound) {t u : Table}
    (hkey : Value.Filled m.2.default? (Table.get? t m.1.key) (Table.get? u m.1.key))
    (hfield : m.1.field = m.1.key ∨ Table.get? t m.1.field = Table.get? u m.1.field)
    (hmask : Table.get? t m.1.key = none → Table.get? u m.1.key ≠ none →
      m.1.field ≠ m.1.key → Table.get? t m.1.field = none)
    (hbelow : ∀ v w, Table.get? t m.1.key = some v → Table.get? u m.1.key = some w →
      Value.Filled m.2.default? (some v) (some w) → m.2.read v = m.2.read w) :
    readMember m t = readMember m u := by
  rcases ht : Table.get? t m.1.key with - | v <;> rcases hu : Table.get? u m.1.key with - | w
  · refine readMember_eq (ht.trans hu.symm) ?_
    rcases hfield with hsame | hfield
    · rw [hsame, ht, hu]
    · exact hfield
  · -- the filling brings the initial document
    rw [ht, hu] at hkey
    have hw : m.2.default? = some w := by
      rcases hkey.cases with h | ⟨-, h⟩ | ⟨r, s, t, -, h, -⟩
      · cases h
      · exact h.symm
      · cases h
    have hnone : Table.get? t m.1.field = none := by
      by_cases hsame : m.1.field = m.1.key
      · rw [hsame, ht]
      · exact hmask ht (by simp [hu]) hsame
    rw [readMember_of_absent ht hnone, (readMember_of_get? hu).2 (hs.read_default hw)]
  · rw [ht, hu] at hkey
    rcases hkey.cases with h | ⟨h, -⟩ | ⟨r, s, t, -, -, h, -⟩ <;> cases h
  · rw [ht, hu] at hkey
    simp only [readMember, locate, ht, hu, hbelow v w ht hu hkey]

theorem isTable_initial {kind : Kind} {presence : Presence} {initial : Value}
    (hs : (Schema.option kind presence initial).Sound) : initial.isTable = false :=
  isTable_of_readOption hs.1

/-- **A tree is read as it is with its gaps filled from the defaults**, unless a member that it
holds under its field alone is masked. -/
theorem Sound.read_filled {s : Schema} (hs : s.Sound) {v w : Value}
    (h : Value.Filled s.default? (some v) (some w)) (hmask : ¬ s.Masks v w) :
    s.read v = s.read w := by
  induction s using Schema.induction generalizing v w with
  | option kind presence initial =>
    rcases h.cases with h | ⟨h, -⟩ | ⟨r, s, t, hr, -⟩
    · rw [Option.some.inj h]
    · cases h
    · -- the default of an option is no table
      rw [default?] at hr
      split at hr
      · cases hr
      · have hplain := isTable_initial hs
        rw [Schema.initial, Value.present_of_not_table hplain] at hr
        rw [Option.some.inj hr] at hplain
        cases hplain
  | group title optional members ih =>
    obtain ⟨hdistinct, hsound⟩ := sound_group_iff.1 hs
    rcases h.cases with h | ⟨h, -⟩ | ⟨r, t, u, hr, hv, hw, hfilled⟩
    · rw [Option.some.inj h]
    · cases h
    · obtain rfl := Option.some.inj hv
      obtain rfl := Option.some.inj hw
      obtain rfl : Table.present (initials members) = r := by
        cases optional with
        | true => cases hr
        | false => simpa [default?, initial, Value.present_table] using hr
      rw [read, read, readMembers_congr fun m hm => ?_]
      refine readMember_filled (hsound m hm) (get?_default hdistinct.1 hm ▸ hfilled m.1.key) ?_
        ?_ fun x y hx hy hxy => ih m hm (hsound m hm) hxy ?_
      · rcases hdistinct.2 m hm with hsame | hnone
        · exact .inl hsame
        · refine .inr (Value.Filled.eq_of_none ?_)
          exact get?_default_of_notMem hdistinct.1 hnone ▸ hfilled m.1.field
      · intro hkey hkey' hne
        by_contra hfield
        refine hmask ⟨([], m.1), mem_memberAliases hm hne, ?_, ?_, ?_⟩
        · simp [Value.find?, hkey]
        · obtain ⟨x, hx⟩ := Option.ne_none_iff_exists'.1 hfield
          simp [Value.find?, hx]
        · obtain ⟨x, hx⟩ := Option.ne_none_iff_exists'.1 hkey'
          simp [Value.find?, hx]
      · rintro ⟨a, ha, hkey, hfield, hkey'⟩
        refine hmask ⟨_, mem_memberAliases_of_below hm ha, ?_, ?_, ?_⟩
        · simpa [Value.find?, hx] using hkey
        · simpa [Value.find?, hx] using hfield
        · simpa [Value.find?, hy] using hkey'

/-- The members of a document with one of them set anew: it is read as it is set, and any other one
as it was. -/
theorem readMembers_put_of_others {members : List (Name × Schema)} {u entries : Table}
    (hnodup : (memberKeys members).Nodup) (hkeys : Table.keys entries = memberKeys members)
    {m : Name × Schema} (hm : m ∈ members)
    (hothers : ∀ n ∈ members, n.1.key ≠ m.1.key →
      ∃ w, Table.get? entries n.1.key = some w ∧ readMember n u = .ok w)
    {v : Value} (hv : readMember m u = .ok v) :
    readMembers members u = .ok (Table.put entries m.1.key v) := by
  refine (readMembers_eq_ok_iff hnodup).2 ⟨?_, fun n hn => ?_⟩
  · rw [Table.keys_put (hkeys ▸ key_mem_memberKeys hm), hkeys]
  · rw [Table.get?_put]
    split
    · -- members of one key are the same member
      rename_i hkey
      obtain rfl := eq_of_key_eq hnodup hm hn hkey
      exact ⟨v, rfl, hv⟩
    · rename_i hkey
      exact hothers n hn (Ne.symm hkey)

/-- A section in which one member is read otherwise. -/
theorem readMembers_put {members : List (Name × Schema)} {t u entries : Table}
    (hnodup : (memberKeys members).Nodup) (h : readMembers members t = .ok entries)
    {m : Name × Schema} (hm : m ∈ members)
    (hothers : ∀ n ∈ members, n.1.key ≠ m.1.key → readMember n t = readMember n u)
    {v : Value} (hv : readMember m u = .ok v) :
    readMembers members u = .ok (Table.put entries m.1.key v) := by
  obtain ⟨hkeys, hread⟩ := (readMembers_eq_ok_iff hnodup).1 h
  refine readMembers_put_of_others hnodup hkeys hm (fun n hn hne => ?_) hv
  obtain ⟨w, hw, hmember⟩ := hread n hn
  exact ⟨w, hw, hothers n hn hne ▸ hmember⟩

/-- A section of which one member is read otherwise once its gaps are filled. -/
theorem readMembers_filled {members : List (Name × Schema)} (hdistinct : Distinct members)
    (hsound : ∀ m ∈ members, m.2.Sound) {t u entries : Table}
    (hfilled : Value.Filled (some (.table (Table.present (initials members))))
      (some (.table t)) (some (.table u)))
    (h : readMembers members t = .ok entries) {m : Name × Schema} (hm : m ∈ members)
    (hplain : ∀ n ∈ members, n.1.key ≠ m.1.key → n.1.field = n.1.key ∧ n.2.aliases = [])
    {v : Value} (hv : readMember m u = .ok v) :
    readMembers members u = .ok (Table.put entries m.1.key v) := by
  refine readMembers_put hdistinct.1 h hm (fun n hn hne => ?_) hv
  obtain ⟨hfield, haliases⟩ := hplain n hn hne
  -- every other member has no second name, so the default fills it without changing what it reads
  -- as
  refine readMember_filled (hsound n hn) (get?_default hdistinct.1 hn ▸ hfilled.get? n.1.key)
    (.inl hfield) (fun _ _ hne => absurd hfield hne) fun x y _ _ hxy => ?_
  refine (hsound n hn).read_filled hxy ?_
  rintro ⟨a, ha, -⟩
  rw [haliases] at ha
  cases ha

/-! ### Assignments -/

section

variable {title field next : String} {optional : Bool} {members : List (Name × Schema)}
  {m : Name × Schema} {t : Table} {rest : List String} {u v w : Value}

theorem assign_field (hm : member? members field = some m) (h : m.2.read v = .ok w) :
    (Schema.group title optional members).assign (.table t) [field] v =
      .ok (.table (Table.put t m.1.key w)) := by
  rw [assign.eq_def]
  simp [hm, h, under]

theorem assign_below (hm : member? members field = some m)
    (hu : Table.get? t m.1.key = some u) (h : m.2.assign u (next :: rest) v = .ok w) :
    (Schema.group title optional members).assign (.table t) (field :: next :: rest) v =
      .ok (.table (Table.put t m.1.key w)) := by
  rw [assign.eq_def]
  simp [hm, hu, h]

end

end Schema

end LayeredSettings
