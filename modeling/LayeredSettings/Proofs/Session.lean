/-
LayeredSettings/Proofs/Session.lean

Sessions: a lock together with the actors that hold it.

The lock itself does not record who holds it.  A session does: who enters becomes
a holder, who releases is one no longer (`Session.obey`, `Session.resume`).  A
session moves by a command while no actor is ready, and by a resumption while one
is (`Session.Next`); an actor is told to enter only while it holds nothing and to
release only what it holds (`Session.Permits`).  So the reachable sessions include
those between two resumptions of one step.

The lock of a session goes through the steps of `Lock.step` (`Session.lock_step`),
a step leaves no actor ready (`Session.ready_step`), and what a permitted run of
steps leads to is reachable (`Session.reachable_run`).
-/
import Mathlib.Data.Finset.Card
import Mathlib.Logic.Relation
import Mathlib.Data.Fintype.Defs
import LayeredSettings.Lock

namespace LayeredSettings

/-! ### Locks -/

namespace Lock

instance : Fintype Mode := ⟨{.read, .write}, fun mode => by cases mode <;> decide⟩

variable {l : Lock} {w : Waiter}

/-- The actors that wait to enter, parked or ready. -/
def waiters (l : Lock) : List Waiter := l.parked ++ l.ready

@[simp] theorem ready_announce (mode : Mode) : (l.announce mode).ready = l.ready := by
  cases mode <;> rfl

@[simp] theorem parked_announce (mode : Mode) : (l.announce mode).parked = l.parked := by
  cases mode <;> rfl

@[simp] theorem ready_enter (mode : Mode) : (l.enter mode).ready = l.ready := by
  cases mode <;> rfl

@[simp] theorem parked_enter (mode : Mode) : (l.enter mode).parked = l.parked := by
  cases mode <;> rfl

theorem attempt_of_admits (h : l.admits w.mode = true) : l.attempt w = (l.enter w.mode, true) := by
  rw [attempt, if_pos h]

theorem attempt_of_not_admits (h : l.admits w.mode = false) :
    l.attempt w = ({ l with parked := l.parked ++ [w] }, false) := by
  rw [attempt, if_neg (by simp [h])]

/-- An attempt makes nobody ready. -/
@[simp] theorem ready_attempt : (l.attempt w).1.ready = l.ready := by
  rcases h : l.admits w.mode with - | -
  · rw [attempt_of_not_admits h]
  · rw [attempt_of_admits h, ready_enter]

end Lock

/-! ### Sessions -/

/-- The actors that hold a lock, by mode. -/
abbrev Holders := Lock.Mode → Finset Actor

namespace Holders

/-- The holders with one more. -/
def gain (h : Holders) (mode : Lock.Mode) (a : Actor) : Holders :=
  Function.update h mode (insert a (h mode))

/-- The holders with one less. -/
def lose (h : Holders) (mode : Lock.Mode) (a : Actor) : Holders :=
  Function.update h mode ((h mode).erase a)

end Holders

/-- A lock and the actors that hold it. -/
structure Session where
  lock : Lock
  holders : Holders

namespace Session

variable {s : Session} {a : Actor} {c : Lock.Command} {w : Lock.Waiter}

/-- Nobody holds the lock or waits for it. -/
def start : Session := ⟨Lock.free, fun _ => ∅⟩

/-- The actors that wait to enter in a mode. -/
def pending (s : Session) (mode : Lock.Mode) : Finset Actor :=
  ((s.lock.waiters.filter fun w => w.mode = mode).map (·.actor)).toFinset

/-- An attempt of an actor: a holder if it entered. -/
def attempt (s : Session) (w : Lock.Waiter) : Session :=
  ⟨(s.lock.attempt w).1,
    if (s.lock.attempt w).2 then s.holders.gain w.mode w.actor else s.holders⟩

/-- What an actor may be told: to enter while it holds nothing, to release what it holds. -/
def Permits (s : Session) (a : Actor) : Lock.Command → Prop
  | .acquire _ => ∀ mode, a ∉ s.holders mode
  | .release mode => a ∈ s.holders mode
  | .interrupt => True

instance (s : Session) (a : Actor) : ∀ c, Decidable (s.Permits a c)
  | .acquire _ => inferInstanceAs (Decidable (∀ mode, a ∉ s.holders mode))
  | .release mode => inferInstanceAs (Decidable (a ∈ s.holders mode))
  | .interrupt => isTrue trivial

/-- What one actor does on a command until it stops. -/
def obey (s : Session) (a : Actor) (c : Lock.Command) : Session :=
  ⟨(s.lock.obey a c).1,
    match c, (s.lock.obey a c).2 with
    | .acquire mode, .done => s.holders.gain mode a
    | .release mode, .done => s.holders.lose mode a
    | _, _ => s.holders⟩

/-- The first ready actor tries again. -/
def resume (s : Session) : Session :=
  ⟨s.lock.resume.1,
    match s.lock.ready, s.lock.resume.2 with
    | w :: _, some a => s.holders.gain w.mode a
    | _, _ => s.holders⟩

/-! ### Moves -/

/-- One move: a command while nobody is ready, or a resumption. -/
inductive Next : Session → Session → Prop where
  | obey {s : Session} {a : Actor} {c : Lock.Command} :
      s.lock.ready = [] → s.Permits a c → Next s (s.obey a c)
  | resume {s : Session} : s.lock.ready ≠ [] → Next s s.resume

/-- What moves lead to from the start. -/
def Reachable (s : Session) : Prop := Relation.ReflTransGen Next start s

theorem obey_acquire_of_awaits {mode : Lock.Mode} (h : s.lock.awaits a = true) :
    s.obey a (.acquire mode) = s := by
  simp [obey, Lock.obey, h]

theorem obey_acquire {mode : Lock.Mode} (h : s.lock.awaits a = false) :
    s.obey a (.acquire mode) =
      attempt ⟨s.lock.announce mode, s.holders⟩ ⟨a, mode⟩ := by
  rcases e : (s.lock.announce mode).attempt ⟨a, mode⟩ with ⟨after, - | -⟩
  · simp [obey, Lock.obey, attempt, h, e]
  · simp [obey, Lock.obey, attempt, h, e]

theorem obey_release_of_awaits {mode : Lock.Mode} (h : s.lock.awaits a = true) :
    s.obey a (.release mode) = s := by
  simp [obey, Lock.obey, h]

theorem obey_release {mode : Lock.Mode} (h : s.lock.awaits a = false) :
    s.obey a (.release mode) = ⟨s.lock.leave mode, s.holders.lose mode a⟩ := by
  simp [obey, Lock.obey, h]

theorem obey_interrupt_of_not_parked
    (h : s.lock.parked.find? (fun w => w.actor == a) = none) : s.obey a .interrupt = s := by
  simp [obey, Lock.obey, h]

theorem obey_interrupt (h : s.lock.parked.find? (fun w => w.actor == a) = some w) :
    s.obey a .interrupt = ⟨s.lock.dismiss w, s.holders⟩ := by
  simp [obey, Lock.obey, h]

theorem resume_of_ready {rest : List Lock.Waiter} (h : s.lock.ready = w :: rest) :
    s.resume = attempt ⟨{ s.lock with ready := rest }, s.holders⟩ w := by
  rcases e : Lock.attempt { s.lock with ready := rest } w with ⟨after, - | -⟩
  · simp [resume, Lock.resume, attempt, h, e]
  · simp [resume, Lock.resume, attempt, h, e]

/-! ### Steps -/

/-- Some resumptions. -/
def resumeAll : Nat → Session → Session
  | 0, s => s
  | n + 1, s => resumeAll n s.resume

/-- A command, then the resumption of all that became ready. -/
def step (s : Session) (a : Actor) (c : Lock.Command) : Session :=
  resumeAll (s.obey a c).lock.ready.length (s.obey a c)

/-- Steps, one after the other. -/
def run : List (Actor × Lock.Command) → Session → Session
  | [], s => s
  | (a, c) :: rest, s => run rest (s.step a c)

/-- Whether each command of a run is permitted when it is given. -/
def PermitsAll : List (Actor × Lock.Command) → Session → Prop
  | [], _ => True
  | (a, c) :: rest, s => s.Permits a c ∧ PermitsAll rest (s.step a c)

instance decidablePermitsAll :
    ∀ (cs : List (Actor × Lock.Command)) (s : Session), Decidable (PermitsAll cs s)
  | [], _ => isTrue trivial
  | (a, c) :: rest, s =>
      have := decidablePermitsAll rest (s.step a c)
      inferInstanceAs (Decidable (s.Permits a c ∧ PermitsAll rest (s.step a c)))

theorem lock_resumeAll (n : Nat) (s : Session) :
    (s.resumeAll n).lock = (s.lock.resumeAll n).1 := by
  induction n generalizing s with
  | zero => rfl
  | succ n ih => exact ih s.resume

/-- The lock of a session goes through the steps of the lock. -/
theorem lock_step : (s.step a c).lock = (s.lock.step a c).1 :=
  lock_resumeAll _ _

theorem ready_resume : s.resume.lock.ready = s.lock.ready.tail := by
  rcases h : s.lock.ready with - | ⟨w, rest⟩
  · simp [resume, Lock.resume, h]
  · rw [resume_of_ready h]
    exact Lock.ready_attempt

/-- After as many resumptions as there are ready actors none is ready: a resumed actor that
cannot enter parks again. -/
theorem ready_resumeAll (s : Session) : (s.resumeAll s.lock.ready.length).lock.ready = [] := by
  suffices h : ∀ (n : Nat) (s : Session), s.lock.ready.length = n →
      (s.resumeAll n).lock.ready = [] from h _ s rfl
  intro n
  induction n with
  | zero => exact fun s hn => List.eq_nil_of_length_eq_zero hn
  | succ n ih =>
      intro s hn
      refine ih s.resume ?_
      rw [ready_resume, List.length_tail, hn, Nat.add_sub_cancel]

theorem ready_step : (s.step a c).lock.ready = [] :=
  ready_resumeAll _

theorem reachable_resumeAll (n : Nat) {s : Session} (h : s.Reachable) :
    (s.resumeAll n).Reachable := by
  induction n generalizing s with
  | zero => exact h
  | succ n ih =>
      refine ih ?_
      rcases hready : s.lock.ready with - | ⟨w, rest⟩
      · -- with nobody ready a resumption is no move, and changes nothing
        have hstill : s.resume = s := by simp [resume, Lock.resume, hready]
        rwa [hstill]
      · exact h.tail (.resume (by simp [hready]))

theorem reachable_step (h : s.Reachable) (hready : s.lock.ready = []) (hc : s.Permits a c) :
    (s.step a c).Reachable :=
  reachable_resumeAll _ (h.tail (.obey hready hc))

/-- What a permitted run leads to is reachable. -/
theorem reachable_run {cs : List (Actor × Lock.Command)} (h : PermitsAll cs start) :
    (start.run cs).Reachable := by
  -- between two steps nobody is ready, which the next command needs
  suffices hrun : ∀ (cs : List (Actor × Lock.Command)) (s : Session), s.Reachable →
      s.lock.ready = [] → PermitsAll cs s → (s.run cs).Reachable from
    hrun cs start .refl rfl h
  intro cs
  induction cs with
  | nil => exact fun s hs _ _ => hs
  | cons entry rest ih =>
      rintro s hs hready ⟨hc, hrest⟩
      exact ih _ (reachable_step hs hready hc) ready_step hrest

end Session

end LayeredSettings
