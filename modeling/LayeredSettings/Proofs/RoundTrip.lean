/-
LayeredSettings/Proofs/RoundTrip.lean

A document and the tree of what is set in it.

The tree leaves out what is null.  Reading it gives the document back if the
document is settled (`Schema.Sound.read_present`): what was left out is read as
initial, and what may be unset is unset at first; and no member left out is found
under its field, since a field that is not a key is in no document.

A document that fits is settled if its URLs are given back
(`Schema.Sound.settled_of_fits`).
-/
import LayeredSettings.Proofs.Shape

namespace LayeredSettings

/-! ### What is set -/

namespace Value

theorem present_table (t : Table) : present (.table t) = .table (Table.present t) := rfl

theorem present_of_not_table {v : Value} (h : v.isTable = false) : v.present = v := by
  cases v <;> first | rfl | cases h

end Value

namespace Table

theorem present_cons_null (k : String) (t : Table) : present ((k, .null) :: t) = present t := by
  simp [present]

theorem present_cons {v : Value} (h : v ≠ .null) (k : String) (t : Table) :
    present ((k, v) :: t) = (k, v.present) :: present t := by
  simp [present, h]

/-- A key that is not there, or holds null, is left out, and what another one holds is without its
own nulls. -/
theorem get?_present {t : Table} (hnodup : (keys t).Nodup) (key : String) :
    get? (present t) key = ((get? t key).filter (· ≠ .null)).map Value.present := by
  induction t with
  | nil => rfl
  | cons e rest ih =>
    rcases e with ⟨k, v⟩
    rw [keys_cons, List.nodup_cons] at hnodup
    by_cases hk : k = key
    · subst hk
      -- keys are distinct, so an entry that is left out brings no later one to light
      have hrest : get? rest k = none := get?_eq_none_iff.2 hnodup.1
      by_cases hv : v = .null
      · simp [hv, present_cons_null, ih hnodup.2, hrest, get?, Option.filter]
      · simp [present_cons hv, get?, hv, Option.filter]
    · by_cases hv : v = .null
      · simp [hv, present_cons_null, ih hnodup.2, get?, hk]
      · simp [present_cons hv, get?, hk, ih hnodup.2]

theorem get?_present_of_ne_null {t : Table} (hnodup : (keys t).Nodup) {key : String} {v : Value}
    (h : get? t key = some v) (hv : v ≠ .null) : get? (present t) key = some v.present := by
  simp [get?_present hnodup, h, hv]

theorem get?_present_eq_none {t : Table} (hnodup : (keys t).Nodup) {key : String}
    (h : ∀ v, get? t key = some v → v = .null) : get? (present t) key = none := by
  rw [get?_present hnodup]
  rcases e : get? t key with - | v
  · rfl
  · simp [h v e]

/-- What is set below a key is set in the whole. -/
theorem find?_present_cons {t : Table} (hnodup : (keys t).Nodup) {key : String} {v w : Value}
    (h : get? t key = some v) {p : Path} (hw : w ≠ .null) (hfind : v.present.find? p = some w) :
    Value.find? (key :: p) (.table (present t)) = some w := by
  have hv : v ≠ .null := by
    rintro rfl
    rcases p with - | ⟨k, p⟩
    · exact hw (Option.some.inj hfind).symm
    · cases hfind
  rw [find?_cons, get?_present_of_ne_null hnodup h hv]
  exact hfind

end Table

namespace Schema

/-- A member whose key and field are not in a table has its initial document. -/
theorem readMember_of_absent {m : Name × Schema} {t : Table}
    (hkey : Table.get? t m.1.key = none) (hfield : Table.get? t m.1.field = none) :
    readMember m t = .ok m.2.initial := by
  simp [readMember, locate, hkey, hfield]

theorem readMember_of_get? {m : Name × Schema} {t : Table} {v d : Value}
    (hkey : Table.get? t m.1.key = some v) : readMember m t = .ok d ↔ m.2.read v = .ok d := by
  simp [readMember, locate, hkey, under_eq_ok]

/-- What may be unset is unset at first. -/
theorem Sound.initial_of_settled_null {s : Schema} (hs : s.Sound) (hnull : s.Settled .null) :
    s.initial = .null := by
  cases hnull with
  | option h => exact hs.2.resolve_left (not_required_of_readOption_null h)
  | unset => rfl

/-- A member is read from what is set of a document as it was, if it is read as it was from what
is set of itself. -/
theorem readMember_present {members : List (Name × Schema)} (hdistinct : Distinct members)
    {entries : Table} (hkeys : Table.keys entries = memberKeys members) {m : Name × Schema}
    (hm : m ∈ members) (hs : m.2.Sound) {v : Value} (hv : Table.get? entries m.1.key = some v)
    (hd : m.2.Settled v) (hread : v ≠ .null → m.2.read v.present = .ok v) :
    readMember m (Table.present entries) = .ok v := by
  have hnodup : (Table.keys entries).Nodup := hkeys ▸ hdistinct.1
  by_cases hnull : v = .null
  · -- nothing is left of the member, and its field is the key of no other one
    subst hnull
    have hkey : Table.get? (Table.present entries) m.1.key = none :=
      Table.get?_present_eq_none hnodup fun w hw => Option.some.inj (hw.symm.trans hv)
    have hfield : Table.get? (Table.present entries) m.1.field = none := by
      rcases hdistinct.2 m hm with hsame | hnone
      · rw [hsame, hkey]
      · refine Table.get?_present_eq_none hnodup fun w hw => ?_
        exact absurd (hkeys ▸ Table.mem_keys_of_get? hw) hnone
    rw [readMember_of_absent hkey hfield, hs.initial_of_settled_null hd]
  · rw [readMember_of_get? (Table.get?_present_of_ne_null hnodup hv hnull)]
    exact hread hnull

/-- **Reading what is set gives the document back.** -/
theorem Sound.read_present {s : Schema} (hs : s.Sound) {d : Value} (hd : s.Settled d)
    (hset : d ≠ .null) : s.read d.present = .ok d := by
  induction s using Schema.induction generalizing d with
  | option kind presence initial =>
    cases hd with
    | option h => rw [Value.present_of_not_table (isTable_of_readOption h)]; exact h
  | group title optional members ih =>
    obtain ⟨hdistinct, hsound⟩ := sound_group_iff.1 hs
    cases hd with
    | unset => exact absurd rfl hset
    | group hkeys hmembers =>
      rename_i entries
      rw [Value.present_table, read_group_table]
      refine ⟨entries, (readMembers_eq_ok_iff hdistinct.1).2 ⟨hkeys, fun m hm => ?_⟩, rfl⟩
      obtain ⟨v, hv⟩ := Table.exists_get?_of_mem_keys (hkeys ▸ key_mem_memberKeys hm)
      -- a member that is null is left out, and then it is read as its initial value
      have hsettled := hmembers m hm v hv
      exact ⟨v, hv, readMember_present hdistinct hkeys hm (hsound m hm) hv hsettled
        (ih m hm (hsound m hm) hsettled)⟩

/-! ### URLs -/

/-- Every URL that a tree holds where a schema has one is given back by reading its text. -/
def UrlsReadBack (s : Schema) (v : Value) : Prop :=
  ∀ p webOnly presence initial t, s.below? p = some (.option (.url webOnly) presence initial) →
    v.find? p = some (.text t) → Url.ReadsBack t

theorem below?_cons {title : String} {optional : Bool} {members : List (Name × Schema)}
    (hnodup : (memberKeys members).Nodup) {m : Name × Schema} (hm : m ∈ members) (rest : Path) :
    (Schema.group title optional members).below? (m.1.key :: rest) = m.2.below? rest := by
  -- the first member with the key is this one
  have hfind : (members.find? fun n => n.1.key == m.1.key) = some m := by
    induction members with
    | nil => cases hm
    | cons n others ih =>
      rw [memberKeys, List.map_cons, List.nodup_cons] at hnodup
      rcases List.mem_cons.1 hm with rfl | hrest
      · simp
      · have hne : n.1.key ≠ m.1.key := fun hkey => hnodup.1 (hkey ▸ List.mem_map_of_mem hrest)
        simpa [List.find?_cons, hne] using ih hnodup.2 hrest
  simp [below?, hfind]

/-- A document whose URLs are given back is left as it is. -/
theorem Sound.settled_of_fits {s : Schema} (hs : s.Sound) {d : Value} (hd : s.Fits d)
    (hurls : s.UrlsReadBack d.present) : s.Settled d := by
  induction s using Schema.induction generalizing d with
  | option kind presence initial =>
    cases hd with
    | option h =>
      obtain ⟨w, hw⟩ := h
      -- an option is read again as itself; only a URL needs the assumption for that
      refine .option (readOption_of_readOption hw ?_)
      rintro webOnly t rfl rfl
      exact hurls [] webOnly presence initial t rfl rfl
  | group title optional members ih =>
    obtain ⟨hdistinct, hsound⟩ := sound_group_iff.1 hs
    cases hd with
    | unset => exact .unset
    | group hkeys hmembers =>
      refine .group hkeys fun m hm v hv => ih m hm (hsound m hm) (hmembers m hm v hv) ?_
      intro p webOnly presence initial t hbelow hfind
      -- a URL below the member is one of the document, with the key in front
      exact hurls (m.1.key :: p) webOnly presence initial t
        (by rwa [below?_cons hdistinct.1 hm])
        (Table.find?_present_cons (hkeys ▸ hdistinct.1) hv nofun hfind)

end Schema

end LayeredSettings
