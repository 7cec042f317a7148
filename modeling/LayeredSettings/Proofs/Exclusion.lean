/-
LayeredSettings/Proofs/Exclusion.lean

Mutual exclusion: readers share a lock, a writer holds it alone.

`Session.Sound` says that the accounts of the lock are those of its holders: as
many readers as are counted, one writer if the flag is set and none otherwise,
never both, and as many waiting writers as are counted; and that nobody waits who
holds the lock.  Each thing that an actor does keeps a session sound
(`Sound.announce`, `Sound.attempt`, `Sound.leave`, `Sound.dismiss`), so each move
does (`sound_of_next`).

Main result: `Session.exclusion`, for every reachable session.
-/
import LayeredSettings.Proofs.Accounts

namespace LayeredSettings

/-! ### Holders -/

namespace Holders

variable {h : Holders} {m m' : Lock.Mode} {a b : Actor}

@[simp] theorem gain_self : h.gain m a m = insert a (h m) := by simp [gain]

@[simp] theorem gain_of_ne (hm : m' ≠ m) : h.gain m a m' = h m' := by simp [gain, hm]

@[simp] theorem lose_self : h.lose m a m = (h m).erase a := by simp [lose]

@[simp] theorem lose_of_ne (hm : m' ≠ m) : h.lose m a m' = h m' := by simp [lose, hm]

theorem mem_gain : b ∈ h.gain m a m' ↔ b = a ∧ m' = m ∨ b ∈ h m' := by
  rcases eq_or_ne m' m with rfl | hm
  · simp
  · simp [hm]

theorem mem_lose : b ∈ h.lose m a m' ↔ ¬ (b = a ∧ m' = m) ∧ b ∈ h m' := by
  rcases eq_or_ne m' m with rfl | hm
  · simp
  · simp [hm]

theorem notMem_gain (hb : b ∉ h m') (hne : b ≠ a) : b ∉ h.gain m a m' := by
  rcases eq_or_ne m' m with rfl | hm
  · simp [hb, hne]
  · rwa [gain_of_ne hm]

theorem notMem_lose (hb : b ∉ h m') : b ∉ h.lose m a m' := by
  rcases eq_or_ne m' m with rfl | hm
  · simp [hb]
  · rwa [lose_of_ne hm]

theorem card_gain (ha : a ∉ h m) :
    (fun m' => (h.gain m a m').card) =
      Function.update (fun m' => (h m').card) m ((h m).card + 1) := by
  funext m'
  rcases eq_or_ne m' m with rfl | hm
  · rw [gain_self, Function.update_self, Finset.card_insert_of_notMem ha]
  · rw [gain_of_ne hm, Function.update_of_ne hm]

theorem card_lose (ha : a ∈ h m) :
    (fun m' => (h.lose m a m').card) =
      Function.update (fun m' => (h m').card) m ((h m).card - 1) := by
  funext m'
  rcases eq_or_ne m' m with rfl | hm
  · rw [lose_self, Function.update_self, Finset.card_erase_of_mem ha]
  · rw [lose_of_ne hm, Function.update_of_ne hm]

end Holders

/-! ### Sound sessions -/

namespace Session

/-- The counts of a lock are right, and nobody waits that holds it. -/
structure Sound (l : Lock) (holders : Holders) (waiters : List Lock.Waiter) : Prop
    extends Lock.Accounts l (fun mode => (holders mode).card) waiters where
  outside : ∀ w ∈ waiters, ∀ mode, w.actor ∉ holders mode

namespace Sound

variable {l : Lock} {holders : Holders} {w : Lock.Waiter} {ws ws' : List Lock.Waiter}
  {a : Actor} {mode : Lock.Mode}

theorem free : Sound Lock.free (fun _ => ∅) [] :=
  ⟨Lock.Accounts.free, by simp⟩

/-- Nobody reads while a writer holds the lock. -/
theorem apart (h : Sound l holders ws) (hset : l.writer = true) : holders .read = ∅ :=
  Finset.card_eq_zero.1 (h.alone hset)

/-- It only matters what a lock counts. -/
theorem congr {l' : Lock} (h : Sound l holders ws) (hreaders : l'.readers = l.readers)
    (hwriter : l'.writer = l.writer) (hwaiting : l'.writersWaiting = l.writersWaiting) :
    Sound l' holders ws :=
  ⟨h.toAccounts.congr hreaders hwriter hwaiting, h.outside⟩

/-- It does not matter in which order actors wait. -/
theorem perm (h : Sound l holders ws) (hws : ws.Perm ws') : Sound l holders ws' :=
  ⟨h.toAccounts.perm hws, fun w hw => h.outside w (hws.mem_iff.2 hw)⟩

/-- An actor that neither holds nor waits announces its wish, and waits. -/
theorem announce (h : Sound l holders ws) (hwaits : ∀ w ∈ ws, w.actor ≠ a)
    (hholds : ∀ m, a ∉ holders m) : Sound (l.announce mode) holders (⟨a, mode⟩ :: ws) := by
  refine ⟨h.toAccounts.announce hwaits, fun w hw => ?_⟩
  rcases List.mem_cons.1 hw with rfl | hw
  · exact hholds
  · exact h.outside w hw

/-- An attempt of a waiting actor: it holds the lock, or it still waits. -/
theorem attempt {holders : Holders} (h : Sound l holders (w :: ws)) (hws : l.waiters.Perm ws) :
    let s := Session.attempt ⟨l, holders⟩ w
    Sound s.lock s.holders s.lock.waiters := by
  have haccounts := h.toAccounts.attempt hws
  rcases e : l.admits w.mode with - | -
  · -- it parks, and holds no more than before
    simp only [Session.attempt, Lock.attempt_of_not_admits e, Bool.false_eq_true, if_false]
      at haccounts ⊢
    refine ⟨haccounts, fun v hv => h.outside v ?_⟩
    exact (Lock.waiters_park.trans (hws.cons w)).mem_iff.1 hv
  · -- it enters: nobody else that waits is the same actor
    simp only [Session.attempt, Lock.attempt_of_admits e, if_true] at haccounts ⊢
    refine ⟨?_, fun v hv m => ?_⟩
    · have hnew : w.actor ∉ holders w.mode := h.outside w List.mem_cons_self w.mode
      rwa [Holders.card_gain hnew]
    · have hv' : v ∈ ws := hws.mem_iff.1 (by simpa [Lock.waiters] using hv)
      refine Holders.notMem_gain (h.outside v (List.mem_cons_of_mem w hv') m) fun heq => ?_
      exact (List.nodup_cons.1 h.single).1 (List.mem_map.2 ⟨v, hv', heq⟩)

/-- A holder leaves. -/
theorem leave (h : Sound l holders ws) (ha : a ∈ holders mode) :
    Sound (l.leave mode) (holders.lose mode a) ws := by
  refine ⟨?_, fun w hw m => Holders.notMem_lose (h.outside w hw m)⟩
  rw [Holders.card_lose ha]
  exact h.toAccounts.leave (Finset.card_pos.2 ⟨a, ha⟩)

/-- A parked actor is interrupted. -/
theorem dismiss (h : Sound l holders l.waiters) (hw : w ∈ l.parked) :
    Sound (l.dismiss w) holders (l.dismiss w).waiters := by
  refine ⟨h.toAccounts.dismiss hw, fun v hv => h.outside v ?_⟩
  exact (Lock.waiters_dismiss hw).mem_iff.2 (List.mem_cons_of_mem w hv)

end Sound

/-! ### Reachable sessions -/

variable {s s' : Session} {a : Actor} {c : Lock.Command}

theorem Sound.obey (h : Sound s.lock s.holders s.lock.waiters) (hc : s.Permits a c) :
    Sound (s.obey a c).lock (s.obey a c).holders (s.obey a c).lock.waiters := by
  rcases c with mode | mode | -
  · -- to enter: the actor counts as waiting until its attempt is over
    rcases hwaits : s.lock.awaits a with - | -
    · rw [obey_acquire hwaits]
      refine (h.announce (Lock.ne_of_not_awaits hwaits) hc).attempt ?_
      exact List.Perm.of_eq (by simp [Lock.waiters])
    · rwa [obey_acquire_of_awaits hwaits]
  · -- to release: a holder does not wait, so the other case changes nothing
    rcases hwaits : s.lock.awaits a with - | -
    · rw [obey_release hwaits]
      exact (h.leave hc).perm (Lock.waiters_leave mode).symm
    · rwa [obey_release_of_awaits hwaits]
  · -- to be interrupted: only a parked actor is
    rcases hfind : s.lock.parked.find? (fun w => w.actor == a) with - | w
    · rwa [obey_interrupt_of_not_parked hfind]
    · rw [obey_interrupt hfind]
      exact h.dismiss (List.mem_of_find?_eq_some hfind)

theorem Sound.resume (h : Sound s.lock s.holders s.lock.waiters) (hready : s.lock.ready ≠ []) :
    Sound s.resume.lock s.resume.holders s.resume.lock.waiters := by
  obtain ⟨w, rest, hrest⟩ := List.exists_cons_of_ne_nil hready
  rw [resume_of_ready hrest]
  have hperm : s.lock.waiters.Perm (w :: (s.lock.parked ++ rest)) := by
    rw [Lock.waiters, hrest]
    exact List.perm_middle
  have hsound : Sound { s.lock with ready := rest } s.holders (w :: (s.lock.parked ++ rest)) :=
    (h.perm hperm).congr rfl rfl rfl
  exact hsound.attempt (.refl _)

/-- Each move keeps a session sound. -/
theorem sound_of_next (hnext : Next s s') (h : Sound s.lock s.holders s.lock.waiters) :
    Sound s'.lock s'.holders s'.lock.waiters := by
  rcases hnext with ⟨-, hc⟩ | hready
  · exact h.obey hc
  · exact h.resume hready

theorem Reachable.sound (h : s.Reachable) : Sound s.lock s.holders s.lock.waiters := by
  induction h with
  | refl => exact Sound.free
  | tail _ hnext ih => exact sound_of_next hnext ih

theorem Sound.card_pending (h : Sound s.lock s.holders s.lock.waiters) :
    s.lock.writersWaiting = (s.pending .write).card := by
  rw [h.waiting, List.countP_eq_length_filter, pending, List.toFinset_card_of_nodup,
    List.length_map]
  exact h.single.sublist (List.filter_sublist.map _)

/-- **Mutual exclusion.**  In every reachable session the lock counts its readers and its waiting
writers, its flag tells whether a writer holds it, at most one does, and then nobody reads. -/
theorem exclusion (h : s.Reachable) :
    s.lock.readers = (s.holders .read).card ∧
    0 ≤ s.lock.readers ∧
    (s.lock.writer = true ↔ (s.holders .write).card = 1) ∧
    (s.holders .write).card ≤ 1 ∧
    ((s.holders .write).Nonempty → s.holders .read = ∅) ∧
    s.lock.writersWaiting = (s.pending .write).card := by
  have hsound := h.sound
  have hwriter : s.lock.writer = true ↔ (s.holders .write).card = 1 := by
    rw [hsound.writer]
    cases s.lock.writer <;> simp
  have hone : (s.holders .write).card ≤ 1 := by
    rw [hsound.writer]
    exact Bool.toNat_le _
  refine ⟨hsound.readers, ?_, hwriter, hone, fun hheld => ?_, hsound.card_pending⟩
  · rw [hsound.readers]
    exact Int.natCast_nonneg _
  · -- with a holder that writes there is exactly one, and then nobody reads
    have hpos := Finset.card_pos.2 hheld
    exact hsound.apart (hwriter.2 (by omega))

/-- Two readers, two writers that wait for them, a third reader behind these, and one of the
writers interrupted. -/
def contended : List (Actor × Lock.Command) :=
  [("a", .acquire .read), ("b", .acquire .read), ("c", .acquire .write), ("d", .acquire .write),
    ("e", .acquire .read), ("c", .interrupt)]

theorem exclusion_contended :
    let s := start.run contended
    PermitsAll contended start ∧ s.holders .read = {"a", "b"} ∧ s.pending .write = {"d"} ∧
    s.lock.readers = 2 ∧ s.lock.writersWaiting = 1 ∧ s.lock.writer = false := by
  intro s
  -- everybody releases only what it holds
  have hpermits : PermitsAll contended start := by decide
  have hread : s.holders .read = {"a", "b"} := by decide
  have hwrite : s.holders .write = ∅ := by decide
  have hpending : s.pending .write = {"d"} := by decide
  obtain ⟨hreaders, -, hwriter, -, -, hwaiting⟩ := exclusion (reachable_run hpermits)
  refine ⟨hpermits, hread, hpending, ?_, ?_, ?_⟩
  · exact hreaders.trans (by rw [hread]; rfl)
  · exact hwaiting.trans (by rw [hpending]; rfl)
  · rw [← Bool.not_eq_true, hwriter]
    show ¬ (s.holders .write).card = 1
    rw [hwrite]
    decide

end Session

end LayeredSettings
