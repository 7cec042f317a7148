/-
LayeredSettings/Proofs/History.lean

Histories: what happened at a lock, event by event.

An actor enters or parks, leaves, or is interrupted (`Lock.Event`); what it comes
to is told by the outcome of its command, or by its attempt when it was ready.
Who holds the lock how often is read off the events (`Lock.held`), so an actor may
hold it more than once, and ask for it while it holds it.

`Lock.Reaches past l` says that the events `past`, the latest first, lead from a
free lock to `l`.  An actor is told to release only what it holds, and that is
all that is asked: commands may come while actors are ready, and a ready actor
may try again whether or not others became ready before it.  The steps of
`Lock.step`, in which all ready actors try again in order, are among the ways to
go on (`Reaches.step`).

Main result: the accounts of a lock are right after every history
(`Reaches.accounts`).
-/
import LayeredSettings.Proofs.Accounts
import Mathlib.Data.Multiset.AddSub

namespace LayeredSettings

namespace Lock

/-- Something that happens at a lock. -/
inductive Event where
  | enters (w : Waiter)
  | parks (w : Waiter)
  | leaves (a : Actor) (mode : Mode)
  | interrupted (a : Actor)
  deriving DecidableEq

/-- Events, the latest first. -/
abbrev History := List Event

variable {l l' : Lock} {w v : Waiter} {a : Actor} {c : Command} {mode : Mode} {past : History}

/-! ### Holding -/

/-- The actors that hold a lock in a mode, each as often as it does. -/
def held : History → Mode → Multiset Actor
  | [], _ => 0
  | .enters w :: past, mode =>
      if w.mode = mode then w.actor ::ₘ held past mode else held past mode
  | .leaves a m :: past, mode => if m = mode then (held past mode).erase a else held past mode
  | .parks _ :: past, mode => held past mode
  | .interrupted _ :: past, mode => held past mode

/-- How often a lock is held in a mode. -/
def tally (past : History) (mode : Mode) : Nat := (held past mode).card

/-- What an actor may be told: to release only what it holds. -/
def Permits (past : History) (a : Actor) : Command → Prop
  | .release mode => a ∈ held past mode
  | _ => True

instance (past : History) (a : Actor) : ∀ c, Decidable (Permits past a c)
  | .acquire _ => isTrue trivial
  | .release mode => inferInstanceAs (Decidable (a ∈ held past mode))
  | .interrupt => isTrue trivial

/-! ### Events -/

/-- How an attempt ends. -/
def trial (l : Lock) (w : Waiter) : Event := if (l.attempt w).2 then .enters w else .parks w

/-- What a command comes to, by its outcome. -/
def eventOf (l : Lock) (a : Actor) (c : Command) : Option Event :=
  match c, (l.obey a c).2 with
  | .acquire mode, .done => some (.enters ⟨a, mode⟩)
  | .acquire mode, .blocked => some (.parks ⟨a, mode⟩)
  | .release mode, .done => some (.leaves a mode)
  | .interrupt, .interrupted => some (.interrupted a)
  | _, _ => none

/-- The lock without a ready actor, which is about to try again. -/
def rouse (l : Lock) (w : Waiter) : Lock := { l with ready := l.ready.erase w }

theorem rouse_admits : (l.rouse w).admits mode = l.admits mode := by
  cases mode <;> rfl

/-- The events that lead to a lock. -/
inductive Reaches : History → Lock → Prop
  | start : Reaches [] free
  | obey {past : History} {l : Lock} {a : Actor} {c : Command} :
      Reaches past l → Permits past a c →
        Reaches ((l.eventOf a c).toList ++ past) (l.obey a c).1
  | retry {past : History} {l : Lock} {w : Waiter} :
      Reaches past l → w ∈ l.ready →
        Reaches ((l.rouse w).trial w :: past) ((l.rouse w).attempt w).1

/-- What a command may come to: nothing, an attempt, a release, or an interruption. -/
theorem obey_cases (l : Lock) (a : Actor) (c : Command) :
    ((l.obey a c).1 = l ∧ l.eventOf a c = none) ∨
    (∃ mode, c = .acquire mode ∧ l.awaits a = false ∧
      (l.obey a c).1 = ((l.announce mode).attempt ⟨a, mode⟩).1 ∧
      l.eventOf a c = some ((l.announce mode).trial ⟨a, mode⟩)) ∨
    (∃ mode, c = .release mode ∧ (l.obey a c).1 = l.leave mode ∧
      l.eventOf a c = some (.leaves a mode)) ∨
    (∃ w ∈ l.parked, w.actor = a ∧ (l.obey a c).1 = l.dismiss w ∧
      l.eventOf a c = some (.interrupted a)) := by
  -- an acquisition, a release and an interrupt; an actor that waits is told that it is busy
  rcases c with mode | mode | -
  · rcases hwaits : l.awaits a with - | -
    · refine .inr (.inl ⟨mode, rfl, rfl, ?_⟩)
      rcases e : (l.announce mode).attempt ⟨a, mode⟩ with ⟨after, - | -⟩ <;>
        simp [eventOf, trial, Lock.obey, hwaits, e]
    · left
      simp [eventOf, Lock.obey, hwaits]
  · rcases hwaits : l.awaits a with - | -
    · refine .inr (.inr (.inl ⟨mode, rfl, ?_⟩))
      simp [eventOf, Lock.obey, hwaits]
    · left
      simp [eventOf, Lock.obey, hwaits]
  · rcases hfind : l.parked.find? (fun w => w.actor == a) with - | w
    · left
      simp [eventOf, Lock.obey, hfind]
    · refine .inr (.inr (.inr ⟨w, List.mem_of_find?_eq_some hfind, ?_, ?_⟩))
      · simpa using List.find?_some hfind
      · simp [eventOf, Lock.obey, hfind]

theorem eq_enter_of_attempt (h : l.attempt w = (l', true)) : l' = l.enter w.mode := by
  rcases e : l.admits w.mode with - | -
  · rw [attempt_of_not_admits e] at h
    cases (Prod.mk.inj h).2
  · rw [attempt_of_admits e] at h
    exact (Prod.mk.inj h).1.symm

theorem eq_park_of_attempt (h : l.attempt w = (l', false)) :
    l' = { l with parked := l.parked ++ [w] } := by
  rcases e : l.admits w.mode with - | -
  · rw [attempt_of_not_admits e] at h
    exact (Prod.mk.inj h).1.symm
  · rw [attempt_of_admits e] at h
    cases (Prod.mk.inj h).2

/-- An actor that enters at once does so by an attempt, with its wish made known. -/
theorem attempt_of_obey_done (h : l.obey a (.acquire mode) = (l', .done)) :
    l.awaits a = false ∧ (l.announce mode).attempt ⟨a, mode⟩ = (l', true) := by
  rcases hwaits : l.awaits a with - | -
  · rcases e : (l.announce mode).attempt ⟨a, mode⟩ with ⟨after, - | -⟩
    · simp [Lock.obey, hwaits, e] at h
    · simpa [Lock.obey, hwaits, e] using h
  · simp [Lock.obey, hwaits] at h

/-- So does an actor that parks. -/
theorem attempt_of_obey_blocked (h : l.obey a (.acquire mode) = (l', .blocked)) :
    l.awaits a = false ∧ (l.announce mode).attempt ⟨a, mode⟩ = (l', false) := by
  rcases hwaits : l.awaits a with - | -
  · rcases e : (l.announce mode).attempt ⟨a, mode⟩ with ⟨after, - | -⟩
    · simpa [Lock.obey, hwaits, e] using h
    · simp [Lock.obey, hwaits, e] at h
  · simp [Lock.obey, hwaits] at h

theorem leave_of_obey_done (h : l.obey a (.release mode) = (l', .done)) : l' = l.leave mode := by
  rcases hwaits : l.awaits a with - | -
  · simpa [Lock.obey, hwaits, eq_comm] using h
  · simp [Lock.obey, hwaits] at h

theorem dismiss_of_obey_interrupted (h : l.obey a .interrupt = (l', .interrupted)) :
    ∃ w ∈ l.parked, w.actor = a ∧ l' = l.dismiss w := by
  rcases hfind : l.parked.find? (fun w => w.actor == a) with - | w
  · simp [Lock.obey, hfind] at h
  · refine ⟨w, List.mem_of_find?_eq_some hfind, ?_, ?_⟩
    · simpa using List.find?_some hfind
    · simpa [Lock.obey, hfind, eq_comm] using h

/-! ### Accounts -/

theorem tally_trial :
    tally (l.trial w :: past) =
      if (l.attempt w).2 then Function.update (tally past) w.mode (tally past w.mode + 1)
      else tally past := by
  funext mode
  rcases e : (l.attempt w).2 with - | -
  · simp [tally, trial, e, held]
  · rcases eq_or_ne mode w.mode with rfl | hmode
    · simp [tally, trial, e, held]
    · simp [tally, trial, e, held, hmode, hmode.symm]

theorem tally_leaves (ha : a ∈ held past mode) :
    tally (.leaves a mode :: past) = Function.update (tally past) mode (tally past mode - 1) := by
  funext m
  rcases eq_or_ne m mode with rfl | hm
  · simp [tally, held, Multiset.card_erase_of_mem ha]
  · simp [tally, held, hm, hm.symm]

theorem waiters_rouse (hw : w ∈ l.ready) : l.waiters.Perm (w :: (l.rouse w).waiters) :=
  ((List.perm_cons_erase hw).append_left l.parked).trans List.perm_middle

/-- After every history the lock counts how often it is held and how many writers wait. -/
theorem Reaches.accounts (h : Reaches past l) : Accounts l (tally past) l.waiters := by
  induction h with
  | start => exact Accounts.free
  | @obey past l a c _ hc ih =>
      rcases obey_cases l a c with ⟨hl, he⟩ | ⟨mode, rfl, hwaits, hl, he⟩ | ⟨mode, rfl, hl, he⟩ |
        ⟨w, hw, -, hl, he⟩ <;> rw [hl, he]
      · exact ih
      · -- the actor counts as waiting until its attempt is over
        have htries : Accounts (l.announce mode) (tally past) (⟨a, mode⟩ :: l.waiters) :=
          ih.announce (ne_of_not_awaits hwaits)
        rw [Option.toList_some, List.singleton_append, tally_trial]
        exact htries.attempt (List.Perm.of_eq (by simp [waiters]))
      · have hheld : 0 < tally past mode := Multiset.card_pos_iff_exists_mem.2 ⟨a, hc⟩
        rw [Option.toList_some, List.singleton_append, tally_leaves hc]
        exact (ih.leave hheld).perm (waiters_leave mode).symm
      · exact ih.dismiss hw
  | @retry past l w _ hw ih =>
      rw [tally_trial]
      have htries : Accounts (l.rouse w) (tally past) (w :: (l.rouse w).waiters) :=
        (ih.perm (waiters_rouse hw)).congr rfl rfl rfl
      exact htries.attempt (.refl _)

/-! ### Steps -/

/-- The event of a resumption, if an actor is ready. -/
def resumeEvent (l : Lock) : Option Event := l.ready.head?.map fun w => (l.rouse w).trial w

/-- The events of some resumptions. -/
def resumeEvents : Nat → Lock → History
  | 0, _ => []
  | n + 1, l => resumeEvents n l.resume.1 ++ l.resumeEvent.toList

/-- The events of a step. -/
def stepEvents (l : Lock) (a : Actor) (c : Command) : History :=
  resumeEvents (l.obey a c).1.ready.length (l.obey a c).1 ++ (l.eventOf a c).toList

theorem resume_of_ready {rest : List Waiter} (h : l.ready = w :: rest) :
    l.resume = (((l.rouse w).attempt w).1,
      if ((l.rouse w).attempt w).2 then some w.actor else none) := by
  have hrouse : l.rouse w = { l with ready := rest } := by simp [rouse, h]
  simp [resume, h, hrouse]

/-- A resumption is one way to go on. -/
theorem Reaches.resume (h : Reaches past l) :
    Reaches (l.resumeEvent.toList ++ past) l.resume.1 := by
  rcases hready : l.ready with - | ⟨w, rest⟩
  · simpa [resumeEvent, Lock.resume, hready] using h
  · rw [resume_of_ready hready]
    simpa [resumeEvent, hready] using h.retry (w := w) (by simp [hready])

theorem Reaches.resumeAll (h : Reaches past l) (n : Nat) :
    Reaches (resumeEvents n l ++ past) (l.resumeAll n).1 := by
  induction n generalizing past l with
  | zero => exact h
  | succ n ih =>
      have hrest := ih h.resume
      rwa [← List.append_assoc] at hrest

/-- A step leads on, by its events. -/
theorem Reaches.step (h : Reaches past l) (hc : Permits past a c) :
    Reaches (l.stepEvents a c ++ past) (l.step a c).1 := by
  have hafter := (h.obey hc).resumeAll (l.obey a c).1.ready.length
  rwa [← List.append_assoc] at hafter

/-- A step leaves no actor ready. -/
theorem ready_step : (l.step a c).1.ready = [] := by
  have hsession := Session.lock_step (s := ⟨l, fun _ => ∅⟩) (a := a) (c := c)
  exact hsession ▸ Session.ready_step

end Lock

end LayeredSettings
