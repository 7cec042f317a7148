/-
LayeredSettings/Proofs/Collecting.lean

What the tree of overrides holds.

The variables that apply are assigned in the order of their names, so the tree is
that of a list of paths and texts (`Environment.targets`).  Of these only the last
one that meets a path matters for what is at the path (`lastMeeting?`): if it leads
to the path or ends at it, its value decides, and if it goes on below the path, there
is a table.  By induction on the list from its end: an assignment that does not meet
the path changes nothing there, and one that does makes all before it forgotten.

A variable that does not apply is a step that changes nothing, and the order of
names does not depend on the order in which the variables come.

Main result: `collectOverrides_exact`.
-/
import LayeredSettings.Proofs.Assignment
import Mathlib.Data.List.Induction

namespace LayeredSettings

variable {start separator : String} {entry : String × String}
  {entries : List (String × String)} {environment environment' : Environment}
  {c c' : Collected} {p q : Path} {v w : Value} {l : Layer}

/-! ### Targets -/

instance (p q : Path) : Decidable (Path.Meets p q) := inferInstanceAs (Decidable (_ ∨ _))

/-- The path that a variable overrides and its text, if it applies. -/
def target? (start separator : String) (entry : String × String) : Option (Path × String) :=
  match overridePath? start separator entry.1 with
  | .ok (some p) => some (p, entry.2)
  | _ => none

/-- The paths and the texts of the variables that apply, in the order of names. -/
def Environment.targets (environment : Environment) (start separator : String) :
    List (Path × String) :=
  environment.sorted.filterMap (target? start separator)

/-- The last one of some paths that meets a path. -/
def lastMeeting? (targets : List (Path × String)) (p : Path) : Option (Path × String) :=
  (targets.filter fun t => decide (Path.Meets p t.1)).getLast?

theorem lastMeeting?_append_of_meets {t : Path × String} (h : Path.Meets p t.1)
    (targets : List (Path × String)) : lastMeeting? (targets ++ [t]) p = some t := by
  simp [lastMeeting?, h]

theorem lastMeeting?_append_of_not_meets {t : Path × String} (h : ¬ Path.Meets p t.1)
    (targets : List (Path × String)) :
    lastMeeting? (targets ++ [t]) p = lastMeeting? targets p := by
  simp [lastMeeting?, h]

/-- What the last one of some paths that meets a path stands for there. -/
def Deciding (targets : List (Path × String)) (p : Path) (v : Value) : Prop :=
  ∃ q raw rest w, lastMeeting? targets p = some (q, raw) ∧ p = q ++ rest ∧
    overrideValue raw = .ok w ∧ w.find? rest = some v

/-! ### Assignments in order -/

/-- An assignment below a path leaves a table at the path. -/
theorem Table.isTable_find?_assign {t : Table} {rest : Path} (hq : p ++ rest ≠ [])
    (hrest : rest ≠ []) (hv : (assign t (p ++ rest) w).find? p = some v) : v.isTable = true := by
  have hend := find?_assign (t := t) hq w
  rw [Table.find?, Value.find?_append, show Value.find? p _ = some v from hv] at hend
  rcases v.eq_table_or_not_table with ⟨s, rfl⟩ | hplain
  · rfl
  · rcases rest with - | ⟨key, rest⟩
    · exact absurd rfl hrest
    · rw [Option.bind_some, Value.find?_cons_of_not_table hplain] at hend
      cases hend

theorem deciding_append_of_not_meets {t : Path × String} (h : ¬ Path.Meets p t.1)
    (targets : List (Path × String)) : Deciding (targets ++ [t]) p v ↔ Deciding targets p v := by
  rw [Deciding, Deciding, lastMeeting?_append_of_not_meets h]

/-- An assignment that leads to a path decides what is there. -/
theorem deciding_append_of_above {raw : String} {rest : Path} (hw : overrideValue raw = .ok w)
    (targets : List (Path × String)) :
    Deciding (targets ++ [(q, raw)]) (q ++ rest) v ↔ w.find? rest = some v := by
  -- the last variable meets the path, so it is the one that decides
  have hmeets : Path.Meets (q ++ rest) q := .inr (List.prefix_append q rest)
  rw [Deciding, lastMeeting?_append_of_meets (t := (q, raw)) hmeets]
  constructor
  · rintro ⟨q', raw', rest', w', hlast, hsplit, hvalue, hfind⟩
    obtain ⟨rfl, rfl⟩ := Prod.mk.inj (Option.some.inj hlast)
    obtain rfl := List.append_cancel_left hsplit
    obtain rfl := Except.ok.inj (hw.symm.trans hvalue)
    exact hfind
  · intro hfind
    exact ⟨q, raw, rest, w, rfl, rfl, hw, hfind⟩

/-- An assignment that goes on below a path leaves no other value there. -/
theorem not_deciding_append_of_below {raw : String} {rest : Path} (hrest : rest ≠ [])
    (targets : List (Path × String)) : ¬ Deciding (targets ++ [(p ++ rest, raw)]) p v := by
  have hmeets : Path.Meets p (p ++ rest) := .inl (List.prefix_append p rest)
  rw [Deciding, lastMeeting?_append_of_meets (t := (p ++ rest, raw)) hmeets]
  rintro ⟨q, raw', rest', w, hlast, hsplit, -, -⟩
  obtain ⟨rfl, -⟩ := Prod.mk.inj (Option.some.inj hlast)
  rw [List.append_assoc, List.self_eq_append_right, List.append_eq_nil_iff] at hsplit
  exact hrest hsplit.1

/-- One more assignment: the tree holds at a path what the assignments up to this one decide. -/
theorem Table.find?_assign_iff {t : Table} {raw : String} {targets : List (Path × String)}
    (hp : p ≠ []) (hv : v.isTable = false) (hq : q ≠ []) (hw : overrideValue raw = .ok w)
    (h : t.find? p = some v ↔ Deciding targets p v) :
    (assign t q w).find? p = some v ↔ Deciding (targets ++ [(q, raw)]) p v := by
  by_cases hmeets : Path.Meets p q
  · -- the variable names an option below the path, the path itself, or a section above it
    rcases hmeets with ⟨rest, rfl⟩ | ⟨rest, rfl⟩
    · rcases eq_or_ne rest [] with rfl | hrest
      · have hdeciding : Deciding (targets ++ [(p, raw)]) (p ++ []) v ↔ w.find? [] = some v :=
          deciding_append_of_above hw targets
        rw [List.append_nil] at hdeciding ⊢
        rw [hdeciding, find?_assign hp, Value.find?_nil]
      · -- below the path a table stands after the assignment, and the value is none
        refine iff_of_false (fun hfind => ?_) (not_deciding_append_of_below hrest targets)
        rw [isTable_find?_assign hq hrest hfind] at hv
        cases hv
    · rw [deciding_append_of_above hw, Table.find?, find?_assign_append hq]
  · rw [deciding_append_of_not_meets hmeets, ← h, Table.find?, Table.find?,
      find?_assign_of_not_meets hmeets]

/-- What the tree holds at a path after variables were taken is what the last of their targets that
meets the path stands for. -/
theorem Collected.find?_takeAll_iff (hp : p ≠ []) (hv : v.isTable = false)
    (h : (takeAll start separator entries ⟨[], []⟩).outcome = .ok c) :
    c.tree.find? p = some v ↔ Deciding (entries.filterMap (target? start separator)) p v := by
  -- the induction is from the end: the last variable decides or leaves all as it was
  induction entries using List.reverseRecOn generalizing c with
  | nil =>
    obtain rfl := Except.ok.inj h
    refine iff_of_false (fun hfind => ?_) ?_
    · rcases p with - | ⟨key, rest⟩
      · exact hp rfl
      · cases hfind
    · rintro ⟨q, raw, rest, w, hlast, -⟩
      cases hlast
  | append_singleton entries entry ih =>
    obtain ⟨m, hm, hlast⟩ := takeAll_append.1 h
    rw [takeAll, Run.bind_eq, Run.outcome_bind_eq_ok] at hlast
    obtain ⟨c', htake, hdone⟩ := hlast
    obtain rfl := Except.ok.inj hdone
    rw [List.filterMap_append]
    rcases take_eq_ok htake with ⟨hnone, rfl⟩ | ⟨q, w, hq, hw, rfl⟩
    · have htarget : target? start separator entry = none := by rw [target?, hnone]
      rw [List.filterMap_cons_none htarget, List.filterMap_nil, List.append_nil]
      exact ih hm
    · have htarget : target? start separator entry = some (q, entry.2) := by rw [target?, hq]
      rw [List.filterMap_cons_some htarget, List.filterMap_nil]
      exact Table.find?_assign_iff hp hv (overridePath?_ne_nil hq) hw (ih hm)

/-! ### The order of an environment -/

/-- Whether a variable applies. -/
def applies (start separator : String) (entry : String × String) : Bool :=
  (target? start separator entry).isSome

/-- Where names can be cut, a variable that does not apply is passed over. -/
theorem Collected.outcome_take_of_not_applies (hseparator : separator.toList ≠ [])
    (h : applies start separator entry = false) :
    (c.take start separator entry).outcome = .ok c := by
  rw [outcome_take]
  rcases hp : overridePath? start separator entry.1 with e | - | p
  · exact absurd hp (overridePath?_ne_error hseparator _ e)
  · rfl
  · simp [applies, target?, hp] at h

/-- The variables that do not apply may be left out. -/
theorem Collected.outcome_takeAll_filter (hseparator : separator.toList ≠ [])
    (entries : List (String × String)) (c : Collected) :
    (takeAll start separator (entries.filter (applies start separator)) c).outcome =
      (takeAll start separator entries c).outcome := by
  induction entries generalizing c with
  | nil => rfl
  | cons entry rest ih =>
    -- a variable that does not apply changes neither the tree nor the outcome
    rcases h : applies start separator entry with - | -
    · rw [List.filter_cons_of_neg (by simp [h]), takeAll, Run.bind_eq,
        Run.outcome_bind_of_ok (outcome_take_of_not_applies hseparator h)]
      exact ih c
    · rw [List.filter_cons_of_pos h, takeAll, takeAll, Run.bind_eq, Run.bind_eq]
      rcases htake : (c.take start separator entry).outcome with f | c'
      · rw [Run.outcome_bind_of_error htake, Run.outcome_bind_of_error htake]
      · rw [Run.outcome_bind_of_ok htake, Run.outcome_bind_of_ok htake]
        exact ih c'

/-- Environments that keep the same variables keep them in the same order of names. -/
theorem Environment.filter_sorted_eq (hnames : environment.names.Nodup)
    (hnames' : environment'.names.Nodup) (keep : String × String → Bool)
    (h : ∀ e, keep e = true → (e ∈ environment ↔ e ∈ environment')) :
    environment.sorted.filter keep = environment'.sorted.filter keep := by
  have hnodup : ∀ e : Environment, e.names.Nodup → (e.sorted.filter keep).Nodup := fun e he =>
    (e.sorted_perm.nodup_iff.2 he.of_map).filter keep
  have hperm : (environment.sorted.filter keep).Perm (environment'.sorted.filter keep) := by
    rw [List.perm_ext_iff_of_nodup (hnodup _ hnames) (hnodup _ hnames')]
    intro e
    rw [List.mem_filter, List.mem_filter, environment.sorted_perm.mem_iff,
      environment'.sorted_perm.mem_iff]
    exact ⟨fun he => ⟨(h e he.2).1 he.1, he.2⟩, fun he => ⟨(h e he.2).2 he.1, he.2⟩⟩
  have hordered : ∀ e : Environment, (e.sorted.filter keep).Pairwise fun a b => a.1 ≤ b.1 :=
    fun e => e.sorted_pairwise.filter keep
  refine hperm.eq_of_pairwise (fun a b ha hb hle hge => ?_) (hordered _) (hordered _)
  -- one name has one text
  have ha' := environment.sorted_perm.mem_iff.1 (List.mem_filter.1 ha).1
  have hb' := environment.sorted_perm.mem_iff.1 (List.mem_filter.1 (hperm.mem_iff.2 hb)).1
  exact List.inj_on_of_nodup_map hnames ha' hb' (le_antisymm hle hge)

/-- Environments with the same variables that apply have the same overrides. -/
theorem outcome_collectOverrides_congr (hseparator : separator.toList ≠ [])
    (hnames : environment.names.Nodup) (hnames' : environment'.names.Nodup)
    (h : ∀ e, applies start separator e = true → (e ∈ environment ↔ e ∈ environment')) :
    (collectOverrides environment start separator).outcome =
      (collectOverrides environment' start separator).outcome := by
  have htake : (Collected.takeAll start separator environment.sorted ⟨[], []⟩).outcome =
      (Collected.takeAll start separator environment'.sorted ⟨[], []⟩).outcome := by
    rw [← Collected.outcome_takeAll_filter hseparator environment.sorted,
      ← Collected.outcome_takeAll_filter hseparator environment'.sorted,
      Environment.filter_sorted_eq hnames hnames' (applies start separator) h]
  rw [outcome_collectOverrides, outcome_collectOverrides, htake]

/-- **What the tree of overrides holds.**  Of the variables that apply take the last one in the
order of names whose path meets a path.  The tree holds a value that is no table at the path exactly
if this variable leads to the path and its value holds it there.  And environments in which the same
variables apply, in whatever order and among whatever others, have the same tree. -/
theorem collectOverrides_exact (hseparator : separator.toList ≠ [])
    (h : (collectOverrides environment start separator).outcome = .ok l) :
    (∀ p v, p ≠ [] → v.isTable = false →
      (l.find? p = some v ↔
        ∃ q raw rest w, lastMeeting? (environment.targets start separator) p = some (q, raw) ∧
          p = q ++ rest ∧ overrideValue raw = .ok w ∧ w.find? rest = some v)) ∧
    ∀ environment', environment.names.Nodup → environment'.names.Nodup →
      (∀ e, applies start separator e = true → (e ∈ environment ↔ e ∈ environment')) →
      (collectOverrides environment' start separator).outcome = .ok l := by
  constructor
  · intro p v hp hv
    obtain ⟨c, hall, rfl⟩ := collectOverrides_eq_ok_iff.1 h
    exact Collected.find?_takeAll_iff hp hv hall
  · intro environment' hnames hnames' hsame
    rw [← h, outcome_collectOverrides_congr hseparator hnames hnames' hsame]

/-- Variables for one path and for paths above and below it, one of them in small letters. -/
def crowd : Environment :=
  [("P_A", "above"), ("P_A__B", "\x7b c = 'high' \x7d"), ("P_A__B__D", "below"),
    ("P_a__b", "\x7b c = 'low' \x7d")]

/-- The same variables in another order, and two that do not apply. -/
def crowdAmongOthers : Environment :=
  ("OTHER", "1") :: ("P_A____B", "2") :: crowd.reverse

/-- The overrides of these variables. -/
def crowdLayer : Layer :=
  ⟨overridesLayer, [("a", .table [("b", .table [("c", .text "low")])])]⟩

/-- The last variable decides, also what is not there, and the others change nothing. -/
theorem collectOverrides_exact_crowd :
    "__".toList ≠ [] ∧ (collectOverrides crowd "P_" "__").outcome = .ok crowdLayer ∧
    crowdLayer.find? ["a", "b", "c"] = some (.text "low") ∧
    crowdLayer.find? ["a", "b", "d"] ≠ some (.text "below") ∧
    (collectOverrides crowdAmongOthers "P_" "__").outcome = .ok crowdLayer := by
  have hseparator : "__".toList ≠ [] := by decide
  have hsorted : crowd.sorted = crowd := List.mergeSort_of_pairwise (by decide +kernel)
  have hcollect : (collectOverrides crowd "P_" "__").outcome = .ok crowdLayer := by
    rw [collectOverrides, hsorted]
    decide +kernel
  obtain ⟨hexact, hothers⟩ := collectOverrides_exact hseparator hcollect
  have hlast : ∀ p, Path.Meets p ["a", "b"] →
      lastMeeting? (crowd.targets "P_" "__") p = some (["a", "b"], "\x7b c = 'low' \x7d") := by
    intro p hp
    -- two of the variables name the same table, and the later one of these is the last
    have htargets : crowd.targets "P_" "__" =
        [(["a"], "above"), (["a", "b"], "\x7b c = 'high' \x7d"), (["a", "b", "d"], "below")] ++
          [(["a", "b"], "\x7b c = 'low' \x7d")] := by
      rw [Environment.targets, hsorted]
      decide +kernel
    rw [htargets]
    exact lastMeeting?_append_of_meets (t := (["a", "b"], "\x7b c = 'low' \x7d")) hp _
  have hvalue : overrideValue "\x7b c = 'low' \x7d" = .ok (.table [("c", .text "low")]) := by
    decide +kernel
  refine ⟨hseparator, hcollect, ?_, ?_, ?_⟩
  · exact (hexact _ _ (by decide) rfl).2
      ⟨["a", "b"], _, ["c"], _, hlast _ (by decide), rfl, hvalue, rfl⟩
  · intro hfind
    obtain ⟨q, raw, rest, w, hmeeting, hsplit, hw, hd⟩ := (hexact _ _ (by decide) rfl).1 hfind
    obtain ⟨rfl, rfl⟩ := Prod.mk.inj (Option.some.inj ((hlast _ (by decide)).symm.trans hmeeting))
    obtain rfl := Except.ok.inj (hvalue.symm.trans hw)
    -- the table of the last variable holds nothing under this key
    obtain rfl : ["d"] = rest := List.append_cancel_left (show ["a", "b"] ++ ["d"] = _ from hsplit)
    cases hd
  · refine hothers crowdAmongOthers (by decide) (by decide) fun e he => ?_
    have hnot : e ≠ ("OTHER", "1") ∧ e ≠ ("P_A____B", "2") := by
      constructor
      · rintro rfl
        exact absurd he (by decide +kernel)
      · rintro rfl
        exact absurd he (by decide +kernel)
    simp [crowdAmongOthers, hnot.1, hnot.2]

end LayeredSettings
