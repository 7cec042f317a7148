/-
LayeredSettings/Proofs/Wakeup.lean

No wake-up is lost.

An actor sleeps until it is notified, so a change that lets it enter has to come
with a notification.  `Lock.Barred` says that nobody is parked who could enter; it
holds between any two events, because whatever could let a parked actor enter
makes all parked actors ready (`barred_leave`, `barred_dismiss`), and an actor
that enters only shuts others out (`barred_attempt`).

Main result: `Lock.no_lost_wakeup`.  When no actor is ready, a parked reader has a
writer before it and a parked writer finds the lock held; a lock that nobody holds
has nobody parked.
-/
import LayeredSettings.Proofs.History

namespace LayeredSettings

namespace Lock

variable {l : Lock} {w : Waiter} {mode : Mode} {past : History}

/-- Nobody is parked who could enter. -/
def Barred (l : Lock) : Prop := ∀ w ∈ l.parked, l.admits w.mode = false

/-- With nobody parked nobody is shut out. -/
theorem barred_of_notified (h : l.parked = []) : Barred l := by
  simp [Barred, h]

theorem barred_announce (h : Barred l) : Barred (l.announce mode) := by
  intro w hw
  rw [parked_announce] at hw
  have hbar := h w hw
  rcases mode
  · exact hbar
  · -- one more writer waits, which shuts readers out and leaves writers as they are
    rcases e : w.mode
    · simp [announce, admits]
    · rwa [e] at hbar

/-- An actor that enters lets nobody else in. -/
theorem barred_attempt (hreaders : 0 ≤ l.readers) (h : Barred l) : Barred (l.attempt w).1 := by
  rcases e : l.admits w.mode with - | -
  · rw [attempt_of_not_admits e]
    intro v hv
    rcases List.mem_append.1 hv with hv | hv
    · exact h v hv
    · rw [List.mem_singleton.1 hv]
      exact e
  · rw [attempt_of_admits e]
    intro v hv
    rw [parked_enter] at hv
    rcases hw : w.mode
    · -- one more reader, so no writer may enter; parked readers there are none
      rcases hmode : v.mode
      · have hbar := h v hv
        rw [hmode, ← hw, e] at hbar
        cases hbar
      · have hsome : l.readers + 1 ≠ 0 := by omega
        simp [enter, admits, hsome]
    · rcases hmode : v.mode <;> simp [enter, admits]

theorem barred_leave (h : Barred l) : Barred (l.leave mode) := by
  rcases mode
  · simp only [leave]
    split
    · exact barred_of_notified rfl
    · -- readers are left, so the writers that are parked still may not enter
      rename_i hleft
      intro w hw
      have hbar := h w hw
      rcases e : w.mode
      · rwa [e] at hbar
      · simp [admits, hleft]
  · exact barred_of_notified rfl

theorem barred_dismiss (h : Barred l) : Barred (l.dismiss w) := by
  rcases e : w.mode
  · rw [dismiss_of_read e]
    exact fun v hv => h v (List.mem_of_mem_erase hv)
  · rw [dismiss_of_write e]
    exact barred_of_notified rfl

theorem Reaches.readers_nonneg (h : Reaches past l) : 0 ≤ l.readers := by
  rw [h.accounts.readers]
  exact Int.natCast_nonneg _

/-- After every history nobody is parked who could enter. -/
theorem Reaches.barred (h : Reaches past l) : Barred l := by
  induction h with
  | start => exact barred_of_notified rfl
  | @obey past l a c h hc ih =>
      rcases obey_cases l a c with ⟨hl, -⟩ | ⟨mode, -, -, hl, -⟩ | ⟨mode, -, hl, -⟩ |
        ⟨w, -, -, hl, -⟩ <;> rw [hl]
      · exact ih
      · refine barred_attempt ?_ (barred_announce ih)
        cases mode <;> exact h.readers_nonneg
      · exact barred_leave ih
      · exact barred_dismiss ih
  | @retry past l w h _ ih =>
      have hrouse : Barred (l.rouse w) := ih
      exact barred_attempt h.readers_nonneg hrouse

/-! ### What a parked actor waits for -/

theorem exists_mem_held_iff : (∃ a, a ∈ held past mode) ↔ tally past mode ≠ 0 := by
  rw [tally, ← Nat.pos_iff_ne_zero, Multiset.card_pos_iff_exists_mem]

theorem tally_eq_zero_iff : tally past mode = 0 ↔ held past mode = 0 :=
  Multiset.card_eq_zero

/-- A parked reader has a writer before it. -/
theorem Reaches.writer_of_parked_reader (h : Reaches past l) (hw : w ∈ l.parked)
    (hmode : w.mode = .read) :
    (∃ a, a ∈ held past .write) ∨ ∃ v ∈ l.waiters, v.mode = .write := by
  have hbar : l.admits .read = false := hmode ▸ h.barred w hw
  by_contra hnone
  rw [exists_mem_held_iff] at hnone
  simp only [not_or, not_exists, not_and, ne_eq, not_not] at hnone
  rw [h.accounts.admits_read_iff.2 hnone] at hbar
  cases hbar

/-- A parked writer finds the lock held. -/
theorem Reaches.holder_of_parked_writer (h : Reaches past l) (hw : w ∈ l.parked)
    (hmode : w.mode = .write) : ∃ mode a, a ∈ held past mode := by
  have hbar : l.admits .write = false := hmode ▸ h.barred w hw
  by_contra hnone
  have hfree : ∀ mode, tally past mode = 0 := by
    intro mode
    by_contra hheld
    exact hnone ⟨mode, exists_mem_held_iff.2 hheld⟩
  rw [h.accounts.admits_write_iff.2 ⟨hfree .write, hfree .read⟩] at hbar
  cases hbar

theorem waiters_of_not_ready (hready : l.ready = []) : l.waiters = l.parked := by
  rw [waiters, hready, List.append_nil]

/-- With no writer holding the lock or waiting for it, no reader is parked. -/
theorem Reaches.no_reader_parked (h : Reaches past l) (hheld : held past .write = 0)
    (hwriters : ∀ v ∈ l.waiters, v.mode ≠ .write) : ∀ w ∈ l.parked, w.mode ≠ .read := by
  intro w hw hmode
  rcases h.writer_of_parked_reader hw hmode with ⟨a, ha⟩ | ⟨v, hv, hmode⟩
  · simp [hheld] at ha
  · exact hwriters v hv hmode

/-- **No lost wake-up.**  When no actor is ready, no parked actor could enter: a parked reader
has a writer before it, a parked writer finds the lock held, and a lock that nobody holds has
nobody parked.  Each further step ends with no actor ready again, and if it leaves no writer
holding or waiting, no reader is parked. -/
theorem no_lost_wakeup (h : Reaches past l) (hready : l.ready = []) :
    (∀ w ∈ l.parked, l.admits w.mode = false) ∧
    (∀ w ∈ l.parked, w.mode = .read →
      (∃ a, a ∈ held past .write) ∨ ∃ v ∈ l.parked, v.mode = .write) ∧
    (∀ w ∈ l.parked, w.mode = .write → ∃ mode a, a ∈ held past mode) ∧
    ((∀ mode, held past mode = 0) → l.parked = []) ∧
    ∀ a c, Permits past a c →
      Reaches (l.stepEvents a c ++ past) (l.step a c).1 ∧
      (l.step a c).1.ready = [] ∧
      (held (l.stepEvents a c ++ past) .write = 0 →
        (∀ v ∈ (l.step a c).1.parked, v.mode ≠ .write) →
        ∀ w ∈ (l.step a c).1.parked, w.mode ≠ .read) := by
  have hreader : ∀ w ∈ l.parked, w.mode = .read →
      (∃ a, a ∈ held past .write) ∨ ∃ v ∈ l.parked, v.mode = .write := by
    intro w hw hmode
    have hbefore := h.writer_of_parked_reader hw hmode
    rwa [waiters_of_not_ready hready] at hbefore
  have hwriter : ∀ w ∈ l.parked, w.mode = .write → ∃ mode a, a ∈ held past mode :=
    fun w hw hmode => h.holder_of_parked_writer hw hmode
  refine ⟨h.barred, hreader, hwriter, fun hfree => ?_, fun a c hc => ⟨h.step hc, ready_step, ?_⟩⟩
  · -- a parked writer would find a holder, and a parked reader such a writer
    have hnobody : ∀ mode a, a ∉ held past mode := fun mode a => by simp [hfree mode]
    have hnone : ∀ w ∈ l.parked, w.mode ≠ .write := fun w hw hmode => by
      obtain ⟨mode, a, ha⟩ := hwriter w hw hmode
      exact hnobody mode a ha
    refine List.eq_nil_iff_forall_not_mem.2 fun w hw => ?_
    rcases e : w.mode
    · rcases hreader w hw e with ⟨a, ha⟩ | ⟨v, hv, hmode⟩
      · exact hnobody .write a ha
      · exact hnone v hv hmode
    · exact hnone w hw e
  · intro hheld hwriters
    refine (h.step hc).no_reader_parked hheld ?_
    rwa [waiters_of_not_ready ready_step]

/-- A reader holds the lock, a writer waits for it, and a reader is parked behind the writer. -/
def queued : Lock := ⟨1, false, 1, [⟨"b", .write⟩, ⟨"c", .read⟩], []⟩

/-- How the reader is parked behind the writer. -/
def queuedPast : History := [.parks ⟨"c", .read⟩, .parks ⟨"b", .write⟩, .enters ⟨"a", .read⟩]

theorem reaches_queued : Reaches queuedPast queued :=
  ((Reaches.start.step (a := "a") (c := .acquire .read) trivial).step
    (a := "b") (c := .acquire .write) trivial).step (a := "c") (c := .acquire .read) trivial

/-- The parked reader has the writer before it; once the writer is interrupted, it is not parked
any longer. -/
theorem no_lost_wakeup_queued :
    Reaches queuedPast queued ∧ queued.ready = [] ∧ Permits queuedPast "b" .interrupt ∧
    (∃ v ∈ queued.parked, v.mode = .write) ∧
    (queued.step "b" .interrupt).1.ready = [] ∧
    ∀ w ∈ (queued.step "b" .interrupt).1.parked, w.mode ≠ .read := by
  obtain ⟨-, hreader, -, -, hstep⟩ := no_lost_wakeup reaches_queued rfl
  obtain ⟨-, hready, hafter⟩ := hstep "b" .interrupt trivial
  refine ⟨reaches_queued, rfl, trivial, ?_, hready, hafter (by decide) (by decide)⟩
  exact (hreader ⟨"c", .read⟩ (by decide) rfl).resolve_left (by simp [queuedPast, held])

end Lock

end LayeredSettings
