/-
LayeredSettings/Proofs/Accounts.lean

What a lock counts.

A lock keeps two numbers and a flag and never asks who is there.
`Lock.Accounts` says what they stand for: how often the lock is held in each
mode, that a writer holds it alone, and how many writers wait.  Who waits is
given as a list, so that an actor between announcing its wish and its attempt
counts as waiting although it has not parked yet; the order of the list does not
matter (`Accounts.perm`).

The accounts stay right whatever an actor does: it announces a wish, makes an
attempt, leaves, or is interrupted (`Accounts.announce`, `Accounts.attempt`,
`Accounts.leave`, `Accounts.dismiss`).  Leaving needs that the lock is held;
nothing asks that an actor holds the lock only once.
-/
import LayeredSettings.Proofs.Session
import Mathlib.Data.List.Nodup

namespace LayeredSettings

namespace Lock

variable {l : Lock} {w : Waiter} {ws ws' : List Waiter} {a : Actor} {mode : Mode}

/-! ### Those that wait -/

/-- A notification only moves those that wait. -/
theorem waiters_notifyAll : l.notifyAll.waiters.Perm l.waiters := by
  rw [notifyAll, waiters, List.nil_append]
  exact List.perm_append_comm

/-- An actor that parks waits besides the others. -/
theorem waiters_park : { l with parked := l.parked ++ [w] }.waiters.Perm (w :: l.waiters) := by
  rw [waiters, List.append_assoc]
  exact List.perm_middle

theorem waiters_leave (mode : Mode) : (l.leave mode).waiters.Perm l.waiters := by
  rcases mode
  · simp only [leave]
    split
    · exact waiters_notifyAll
    · exact .refl _
  · exact waiters_notifyAll

theorem dismiss_of_read (h : w.mode = .read) :
    l.dismiss w = { l with parked := l.parked.erase w } := by
  simp only [dismiss, h]

theorem dismiss_of_write (h : w.mode = .write) :
    l.dismiss w = ({ l with parked := l.parked.erase w }.withdraw .write).notifyAll := by
  simp only [dismiss, h]

/-- An interrupted waiter waits no longer. -/
theorem waiters_dismiss (hw : w ∈ l.parked) : l.waiters.Perm (w :: (l.dismiss w).waiters) := by
  have hparked : l.waiters.Perm (w :: (l.parked.erase w ++ l.ready)) :=
    (List.perm_cons_erase hw).append_right l.ready
  refine hparked.trans (List.Perm.cons w ?_)
  rcases e : w.mode
  · rw [dismiss_of_read e]
    exact .refl _
  · rw [dismiss_of_write e]
    exact (waiters_notifyAll (l := { l with parked := l.parked.erase w }.withdraw .write)).symm

theorem ne_of_not_awaits (h : l.awaits a = false) : ∀ v ∈ l.waiters, v.actor ≠ a := by
  intro v hv heq
  rw [awaits, List.any_eq_false] at h
  exact h v hv (by simp [heq])

/-! ### Accounts -/

/-- What the numbers and the flag of a lock say of how often it is held, by mode, and of those
that wait for it. -/
structure Accounts (l : Lock) (held : Mode → Nat) (ws : List Waiter) : Prop where
  readers : l.readers = held .read
  writer : held .write = l.writer.toNat
  alone : l.writer = true → held .read = 0
  waiting : l.writersWaiting = ws.countP fun w => w.mode = .write
  single : (ws.map (·.actor)).Nodup

namespace Accounts

variable {held : Mode → Nat}

theorem free : Accounts free (fun _ => 0) [] := by
  constructor <;> simp [Lock.free]

theorem nobody_reads_iff (h : Accounts l held ws) : held .read = 0 ↔ l.readers = 0 := by
  rw [h.readers, Int.natCast_eq_zero]

theorem nobody_writes_iff (h : Accounts l held ws) : held .write = 0 ↔ l.writer = false := by
  rw [h.writer, Bool.toNat_eq_zero]

/-- A writer waits exactly if one is counted. -/
theorem writer_waits_iff (h : Accounts l held ws) :
    l.writersWaiting ≠ 0 ↔ ∃ w ∈ ws, w.mode = .write := by
  rw [h.waiting, ← Nat.pos_iff_ne_zero, List.countP_pos_iff]
  simp

/-- A reader may enter if no writer holds the lock or waits for it. -/
theorem admits_read_iff (h : Accounts l held ws) :
    l.admits .read = true ↔ held .write = 0 ∧ ∀ w ∈ ws, w.mode ≠ .write := by
  have hwaits : l.writersWaiting = 0 ↔ ∀ w ∈ ws, w.mode ≠ .write := by
    rw [← not_iff_not, ← ne_eq, h.writer_waits_iff]
    simp
  rw [h.nobody_writes_iff, ← hwaits]
  simp [admits]

/-- A writer may enter if nobody holds the lock. -/
theorem admits_write_iff (h : Accounts l held ws) :
    l.admits .write = true ↔ held .write = 0 ∧ held .read = 0 := by
  rw [h.nobody_writes_iff, h.nobody_reads_iff]
  simp [admits]

/-- It only matters what a lock counts. -/
theorem congr {l' : Lock} (h : Accounts l held ws) (hreaders : l'.readers = l.readers)
    (hwriter : l'.writer = l.writer) (hwaiting : l'.writersWaiting = l.writersWaiting) :
    Accounts l' held ws where
  readers := hreaders.trans h.readers
  writer := hwriter ▸ h.writer
  alone := hwriter ▸ h.alone
  waiting := hwaiting.trans h.waiting
  single := h.single

/-- It does not matter in which order actors wait. -/
theorem perm (h : Accounts l held ws) (hws : ws.Perm ws') : Accounts l held ws' where
  readers := h.readers
  writer := h.writer
  alone := h.alone
  waiting := h.waiting.trans (hws.countP_eq _)
  single := (hws.map _).nodup_iff.1 h.single

/-- An actor that does not wait announces its wish, and waits. -/
theorem announce (h : Accounts l held ws) (hwaits : ∀ w ∈ ws, w.actor ≠ a) :
    Accounts (l.announce mode) held (⟨a, mode⟩ :: ws) where
  readers := by cases mode <;> exact h.readers
  writer := by cases mode <;> exact h.writer
  alone := by cases mode <;> exact h.alone
  waiting := by cases mode <;> simp [Lock.announce, h.waiting]
  single := by
    rw [List.map_cons, List.nodup_cons]
    refine ⟨?_, h.single⟩
    simpa using hwaits

/-- A writer that waits no longer is not counted as waiting. -/
theorem withdraw (h : Accounts l held (w :: ws)) : Accounts (l.withdraw w.mode) held ws where
  readers := by cases w.mode <;> exact h.readers
  writer := by cases w.mode <;> exact h.writer
  alone := by cases w.mode <;> exact h.alone
  waiting := by
    have hw := h.waiting
    rcases e : w.mode
    · simpa [Lock.withdraw, e] using hw
    · simp [Lock.withdraw, hw, e]
  single := (List.nodup_cons.1 h.single).2

/-- A waiting actor enters a lock that admits it. -/
theorem enter (h : Accounts l held (w :: ws)) (hadmits : l.admits w.mode = true) :
    Accounts (l.enter w.mode) (Function.update held w.mode (held w.mode + 1)) ws := by
  have hleft := h.withdraw
  rcases e : w.mode <;> rw [e] at hadmits hleft
  · -- a reader enters while no writer holds the lock
    simp only [Lock.admits, Bool.and_eq_true, Bool.not_eq_true'] at hadmits
    have hwriter : l.writer = false := hadmits.1
    refine ⟨?_, ?_, ?_, hleft.waiting, hleft.single⟩
    · simp [Lock.enter, h.readers]
    · simpa [Lock.enter] using h.writer
    · intro hset
      rw [show (l.enter .read).writer = l.writer from rfl, hwriter] at hset
      cases hset
  · -- a writer enters while nobody holds the lock
    simp only [Lock.admits, Bool.and_eq_true, Bool.not_eq_true', beq_iff_eq] at hadmits
    obtain ⟨hwriter, hreaders⟩ := hadmits
    have hread : held .read = 0 := h.nobody_reads_iff.2 hreaders
    have hwrite : held .write = 0 := h.nobody_writes_iff.2 hwriter
    refine ⟨?_, ?_, ?_, hleft.waiting, hleft.single⟩
    · simpa [Lock.enter, Lock.withdraw] using h.readers
    · simp [Lock.enter, hwrite]
    · simp [hread]

/-- An attempt of a waiting actor: the lock is held once more, or the actor still waits. -/
theorem attempt (h : Accounts l held (w :: ws)) (hws : l.waiters.Perm ws) :
    Accounts (l.attempt w).1
      (if (l.attempt w).2 then Function.update held w.mode (held w.mode + 1) else held)
      (l.attempt w).1.waiters := by
  rcases e : l.admits w.mode with - | -
  · -- it parks: the same actors wait, in another order
    simp only [Lock.attempt_of_not_admits e, Bool.false_eq_true, if_false]
    have hparks : Accounts { l with parked := l.parked ++ [w] } held (w :: ws) :=
      h.congr rfl rfl rfl
    exact hparks.perm (Lock.waiters_park.trans (hws.cons w)).symm
  · simp only [Lock.attempt_of_admits e, if_true]
    refine (h.enter e).perm (hws.symm.trans (List.Perm.of_eq ?_))
    simp [Lock.waiters]

/-- The lock is held once less. -/
theorem leave (h : Accounts l held ws) (hheld : 0 < held mode) :
    Accounts (l.leave mode) (Function.update held mode (held mode - 1)) ws := by
  rcases mode
  · -- the last reader notifies, which changes no count
    have hread : Accounts { l with readers := l.readers - 1 }
        (Function.update held .read (held .read - 1)) ws := by
      refine ⟨?_, ?_, ?_, h.waiting, h.single⟩
      · have hreaders := h.readers
        simp only [Function.update_self]
        omega
      · simpa using h.writer
      · intro hset
        have hnone := h.alone hset
        simp [hnone]
    simp only [Lock.leave]
    split
    · exact hread.congr rfl rfl rfl
    · exact hread
  · -- the flag allows one writer only, so nobody is left
    refine ⟨?_, ?_, fun hset => (by cases hset), h.waiting, h.single⟩
    · simpa [Lock.leave, Lock.notifyAll] using h.readers
    · have hone := h.writer
      have hle := Bool.toNat_le l.writer
      rw [Function.update_self]
      show _ = 0
      omega

/-- A parked actor is interrupted. -/
theorem dismiss (h : Accounts l held l.waiters) (hw : w ∈ l.parked) :
    Accounts (l.dismiss w) held (l.dismiss w).waiters := by
  have hleft := (h.perm (Lock.waiters_dismiss hw)).withdraw
  rcases e : w.mode <;> rw [e] at hleft
  · rw [Lock.dismiss_of_read e] at hleft ⊢
    exact hleft.congr rfl rfl rfl
  · rw [Lock.dismiss_of_write e] at hleft ⊢
    exact hleft.congr rfl rfl rfl

end Accounts

end Lock

end LayeredSettings
