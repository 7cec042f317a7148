/-
LayeredSettings/Proofs/Preference.lean

Writers are preferred.

A writer that has parked waits until it enters or is interrupted, however often it
is notified and parks again (`Reaches.waits`), and while a writer waits no reader
is admitted (`not_offers_reader`).  So between the parking of a writer and the entry
of any reader the writer has entered or was interrupted.

The other half is about a command that leaves the lock free while a writer is parked.
All who were parked try again one by one, in whatever order (`Settles`); as long as
the lock is free readers park again (`Settles.of_free`), and once a writer is in
everybody does (`Settles.of_writer`).  So this writer is the only one to get in.  The
order in which they parked, in which `Lock.step` resumes them, is one such order
(`settles_resumeAll`).

Main result: `Lock.writer_preference`.
-/
import LayeredSettings.Proofs.Wakeup

namespace LayeredSettings

namespace Lock

variable {l l' : Lock} {w v : Waiter} {a b : Actor} {c : Command} {mode : Mode} {e : Event}
  {past later mid earlier : History}

/-! ### Waiting on -/

theorem trial_eq_enters_iff : l.trial w = .enters v ↔ w = v ∧ l.admits w.mode = true := by
  rcases e : l.admits w.mode with - | -
  · simp [trial, attempt_of_not_admits e]
  · simp [trial, attempt_of_admits e]

theorem trial_of_admits (h : l.admits w.mode = true) : l.trial w = .enters w :=
  trial_eq_enters_iff.2 ⟨rfl, h⟩

theorem trial_of_not_admits (h : l.admits w.mode = false) : l.trial w = .parks w := by
  simp [trial, attempt_of_not_admits h]

theorem mem_waiters_attempt (hw : w ∈ l.waiters) : w ∈ (l.attempt v).1.waiters := by
  rcases e : l.admits v.mode with - | -
  · rw [attempt_of_not_admits e]
    exact waiters_park.mem_iff.2 (List.mem_cons_of_mem v hw)
  · simpa [attempt_of_admits e, waiters] using hw

theorem mem_waiters_of_parks (h : l.trial v = .parks w) : w ∈ (l.attempt v).1.waiters := by
  rcases e : l.admits v.mode with - | -
  · obtain rfl := Event.parks.inj ((trial_of_not_admits e).symm.trans h)
    rw [attempt_of_not_admits e]
    exact waiters_park.mem_iff.2 List.mem_cons_self
  · rw [trial_of_admits e] at h
    cases h

/-- A command takes nobody off those that wait but an actor that it interrupts. -/
theorem mem_waiters_obey (hw : w ∈ l.waiters)
    (he : l.eventOf a c ≠ some (.interrupted w.actor)) : w ∈ (l.obey a c).1.waiters := by
  rcases obey_cases l a c with ⟨hl, -⟩ | ⟨mode, -, -, hl, -⟩ | ⟨mode, -, hl, -⟩ |
    ⟨v, hv, hva, hl, hevent⟩ <;> rw [hl]
  · exact hw
  · exact mem_waiters_attempt (by simpa [waiters] using hw)
  · exact (waiters_leave mode).mem_iff.2 hw
  · rcases List.mem_cons.1 ((waiters_dismiss hv).mem_iff.1 hw) with rfl | hrest
    · exact absurd (by rw [hevent, hva]) he
    · exact hrest

/-- A resumption takes nobody off those that wait but an actor that enters. -/
theorem mem_waiters_retry (hv : v ∈ l.ready) (hw : w ∈ l.waiters)
    (he : (l.rouse v).trial v ≠ .enters w) : w ∈ ((l.rouse v).attempt v).1.waiters := by
  rcases List.mem_cons.1 ((waiters_rouse hv).mem_iff.1 hw) with rfl | hrest
  · rcases e : (l.rouse w).admits w.mode with - | -
    · exact mem_waiters_of_parks (trial_of_not_admits e)
    · exact absurd (trial_of_admits e) he
  · exact mem_waiters_attempt hrest

/-- An actor that has parked waits until it enters or is interrupted. -/
theorem Reaches.waits (h : Reaches past l) (hpast : past = mid ++ .parks w :: earlier)
    (henters : .enters w ∉ mid) (hinterrupted : .interrupted w.actor ∉ mid) :
    w ∈ l.waiters := by
  induction h generalizing mid with
  | start => simp at hpast
  | @obey past l a c _ _ ih =>
      rcases hevent : l.eventOf a c with - | e
      · rw [hevent] at hpast
        refine mem_waiters_obey (ih hpast henters hinterrupted) ?_
        rw [hevent]
        exact nofun
      · rw [hevent, Option.toList_some, List.singleton_append] at hpast
        rcases mid with - | ⟨first, mid⟩
        · -- the command has just parked the actor
          obtain rfl : e = .parks w := (List.cons.inj hpast).1
          rcases obey_cases l a c with ⟨-, he⟩ | ⟨mode, -, -, hl, he⟩ | ⟨mode, -, -, he⟩ |
            ⟨v, -, -, -, he⟩ <;> rw [hevent] at he
          · cases he
          · rw [hl]
            exact mem_waiters_of_parks (Option.some.inj he).symm
          · cases he
          · cases he
        · obtain ⟨rfl, hrest⟩ := List.cons.inj hpast
          simp only [List.mem_cons, not_or] at henters hinterrupted
          refine mem_waiters_obey (ih hrest henters.2 hinterrupted.2) ?_
          rw [hevent]
          exact fun heq => hinterrupted.1 (Option.some.inj heq).symm
  | @retry past l v _ hv ih =>
      rcases mid with - | ⟨first, mid⟩
      · -- the actor has tried again and parked
        exact mem_waiters_of_parks (List.cons.inj hpast).1
      · obtain ⟨rfl, hrest⟩ := List.cons.inj hpast
        simp only [List.mem_cons, not_or] at henters hinterrupted
        exact mem_waiters_retry hv (ih hrest henters.2 hinterrupted.2) (Ne.symm henters.1)

/-! ### What may happen next -/

/-- An event may happen next at a lock. -/
def Offers (l : Lock) (e : Event) : Prop :=
  (∃ a c, l.eventOf a c = some e) ∨ ∃ w ∈ l.ready, (l.rouse w).trial w = e

/-- Each event of a history happened at a lock that the events before it lead to. -/
theorem Reaches.before (h : Reaches past l) (hpast : past = later ++ e :: earlier) :
    ∃ l₀, Reaches earlier l₀ ∧ l₀.Offers e := by
  induction h generalizing later with
  | start => simp at hpast
  | @obey past l a c h _ ih =>
      rcases hevent : l.eventOf a c with - | first
      · rw [hevent] at hpast
        exact ih hpast
      · rw [hevent, Option.toList_some, List.singleton_append] at hpast
        -- the event is the last one, or the history before the command has it
        rcases later with - | ⟨x, later⟩
        · obtain ⟨rfl, rfl⟩ := List.cons.inj hpast
          exact ⟨l, h, .inl ⟨a, c, hevent⟩⟩
        · exact ih (List.cons.inj hpast).2
  | @retry past l w h hw ih =>
      rcases later with - | ⟨x, later⟩
      · obtain ⟨rfl, rfl⟩ := List.cons.inj hpast
        exact ⟨l, h, .inr ⟨w, hw, rfl⟩⟩
      · exact ih (List.cons.inj hpast).2

/-- No reader enters while a writer waits. -/
theorem Reaches.not_offers_reader (h : Reaches past l) (hw : w ∈ l.waiters)
    (hmode : w.mode = .write) : ¬ l.Offers (.enters ⟨b, .read⟩) := by
  -- a writer that waits is counted, and then readers are not admitted
  have hclosed : l.admits .read ≠ true := fun hadmits =>
    (h.accounts.admits_read_iff.1 hadmits).2 w hw hmode
  rintro (⟨a, c, hevent⟩ | ⟨v, -, htrial⟩)
  · rcases obey_cases l a c with ⟨-, he⟩ | ⟨mode, -, -, -, he⟩ | ⟨mode, -, -, he⟩ |
      ⟨v, -, -, -, he⟩ <;> rw [hevent] at he
    · cases he
    · obtain ⟨hactor, hadmits⟩ := trial_eq_enters_iff.1 (Option.some.inj he).symm
      obtain rfl : mode = .read := (Waiter.mk.inj hactor).2
      exact hclosed hadmits
    · cases he
    · cases he
  · obtain ⟨rfl, hadmits⟩ := trial_eq_enters_iff.1 htrial
    exact hclosed hadmits

/-! ### The step that frees a lock -/

theorem resume_of_not_ready (h : l.ready = []) :
    l.resume = (l, none) ∧ l.resumeEvent = none := by
  simp [resume, resumeEvent, h]

theorem resume_of_not_admits {rest : List Waiter} (hready : l.ready = w :: rest)
    (h : l.admits w.mode = false) :
    l.resume = ({ l with parked := l.parked ++ [w], ready := rest }, none) ∧
      l.resumeEvent = some (.parks w) := by
  have hshut : (l.rouse w).admits w.mode = false := by rwa [rouse_admits]
  have hrouse : l.rouse w = { l with ready := rest } := by simp [rouse, hready]
  rw [resume_of_ready hready, attempt_of_not_admits hshut, hrouse, resumeEvent, hready]
  exact ⟨rfl, congrArg some (trial_of_not_admits hshut)⟩

theorem resume_of_admits {rest : List Waiter} (hready : l.ready = w :: rest)
    (h : l.admits w.mode = true) :
    l.resume = ({ l with ready := rest }.enter w.mode, some w.actor) ∧
      l.resumeEvent = some (.enters w) := by
  have hopen : (l.rouse w).admits w.mode = true := by rwa [rouse_admits]
  have hrouse : l.rouse w = { l with ready := rest } := by simp [rouse, hready]
  rw [resume_of_ready hready, attempt_of_admits hopen, hrouse, resumeEvent, hready]
  exact ⟨rfl, congrArg some (trial_of_admits hopen)⟩

theorem resumeAll_succ (n : Nat) :
    l.resumeAll (n + 1) =
      ((l.resume.1.resumeAll n).1, l.resume.2.toList ++ (l.resume.1.resumeAll n).2) := rfl

/-- The ready actors try again one by one, in whatever order, until none is ready: the events, the
latest first, and the lock in the end. -/
inductive Settles : Lock → History → Lock → Prop
  | done {l : Lock} : l.ready = [] → Settles l [] l
  | retry {l l' : Lock} {w : Waiter} {later : History} :
      w ∈ l.ready → Settles ((l.rouse w).attempt w).1 later l' →
        Settles l (later ++ [(l.rouse w).trial w]) l'

/-- The actors that enter, the latest first. -/
def entered : History → List Actor
  | [] => []
  | .enters w :: past => w.actor :: entered past
  | _ :: past => entered past

theorem entered_append (later past : History) :
    entered (later ++ past) = entered later ++ entered past := by
  induction later with
  | nil => rfl
  | cons e later ih =>
      rcases e with w | w | ⟨a, m⟩ | a <;> simp [entered, ih]

/-- Settling goes on from a history. -/
theorem Reaches.settles (h : Reaches past l) (hsettles : Settles l later l') :
    Reaches (later ++ past) l' := by
  induction hsettles generalizing past with
  | done _ => exact h
  | retry hw _ ih =>
      rw [List.append_assoc]
      exact ih (h.retry hw)

/-- To be resumed in order is one way to settle. -/
theorem settles_resumeAll {n : Nat} (hn : l.ready.length = n) :
    Settles l (resumeEvents n l) (l.resumeAll n).1 := by
  induction n generalizing l with
  | zero => exact .done (List.length_eq_zero_iff.1 hn)
  | succ n ih =>
      obtain ⟨w, rest, hready⟩ := List.exists_cons_of_length_eq_add_one hn
      have hrest : ((l.rouse w).attempt w).1.ready = rest := by
        simp [ready_attempt, rouse, hready]
      -- the first ready actor is no longer ready after its attempt, and nobody has become so
      have hlength : ((l.rouse w).attempt w).1.ready.length = n := by
        rw [hrest]
        simpa [hready] using hn
      rw [resumeAll_succ, resumeEvents, resume_of_ready hready, resumeEvent, hready]
      exact .retry (by simp [hready]) (ih hlength)

/-- The actors that get in as they are resumed are those that the events say enter. -/
theorem entered_resumeEvents (n : Nat) :
    (l.resumeAll n).2 = (entered (resumeEvents n l)).reverse := by
  induction n generalizing l with
  | zero => rfl
  | succ n ih =>
      rw [resumeAll_succ, resumeEvents, entered_append, List.reverse_append, ih]
      rcases hready : l.ready with - | ⟨w, rest⟩
      · simp [resume_of_not_ready hready, entered]
      · rcases h : l.admits w.mode with - | -
        · simp [resume_of_not_admits hready h, entered]
        · simp [resume_of_admits hready h, entered]

theorem Settles.leaves_notMem (h : Settles l later l') : .leaves a mode ∉ later := by
  induction h with
  | done _ => exact List.not_mem_nil
  | @retry l l' w later _ _ ih =>
      intro hmem
      rcases List.mem_append.1 hmem with hlater | hlast
      · exact ih hlater
      · -- an attempt ends with parking or entering
        rcases h : (l.rouse w).admits w.mode with - | -
        · rw [trial_of_not_admits h] at hlast
          cases List.mem_singleton.1 hlast
        · rw [trial_of_admits h] at hlast
          cases List.mem_singleton.1 hlast

/-- Without a release, events only add to those that hold the lock. -/
theorem held_append (h : ∀ a m, .leaves a m ∉ later) :
    held (later ++ past) mode = held later mode + held past mode := by
  induction later with
  | nil => simp [held]
  | cons e later ih =>
      have hrest := ih fun a m hmem => h a m (List.mem_cons_of_mem e hmem)
      rcases e with w | w | ⟨a, m⟩ | a
      · by_cases hmode : w.mode = mode <;> simp [held, hmode, hrest]
      · simpa [held] using hrest
      · exact absurd List.mem_cons_self (h a m)
      · simpa [held] using hrest

/-- While a writer holds the lock nobody gets in. -/
theorem Settles.of_writer (h : Settles l later l') (hwriter : l.writer = true) :
    entered later = [] ∧ ∀ mode, held later mode = 0 := by
  induction h with
  | done _ => exact ⟨rfl, fun _ => rfl⟩
  | @retry l l' w later _ hlater ih =>
      -- nobody is admitted beside a writer
      have hshut : (l.rouse w).admits w.mode = false := by
        rcases w.mode <;> simp [rouse, admits, hwriter]
      rw [attempt_of_not_admits hshut] at ih hlater
      obtain ⟨hnone, hheld⟩ := ih hwriter
      rw [trial_of_not_admits hshut]
      refine ⟨?_, fun mode => ?_⟩
      · rw [entered_append, hnone]
        rfl
      · rw [held_append fun a m => hlater.leaves_notMem, hheld]
        rfl

/-- Of the ready actors of a free lock one writer gets in, and nobody else. -/
theorem Settles.of_free (h : Settles l later l') (hwriter : l.writer = false)
    (hreaders : l.readers = 0) (hwaiting : l.writersWaiting ≠ 0)
    (hw : ∃ w ∈ l.ready, w.mode = .write) :
    ∃ w ∈ l.ready, w.mode = .write ∧ entered later = [w.actor] ∧
      held later .write = {w.actor} ∧ held later .read = 0 := by
  induction h with
  | done hready =>
      obtain ⟨w, hw, -⟩ := hw
      rw [hready] at hw
      cases hw
  | @retry l l' v later hv hlater ih =>
      have hnotMem : ∀ a m, .leaves a m ∉ later := fun a m => hlater.leaves_notMem
      rcases hmode : v.mode
      · -- a reader parks again, since a writer still waits
        have hshut : (l.rouse v).admits v.mode = false := by
          simp [hmode, rouse, admits, hwaiting]
        have hothers : ∃ w ∈ (l.rouse v).ready, w.mode = .write := by
          obtain ⟨w, hw, hwrite⟩ := hw
          refine ⟨w, (List.mem_erase_of_ne ?_).2 hw, hwrite⟩
          rintro rfl
          rw [hmode] at hwrite
          cases hwrite
        rw [attempt_of_not_admits hshut] at ih
        obtain ⟨w, hmem, hwrite, hentered, hheld, hread⟩ := ih hwriter hreaders hwaiting hothers
        rw [trial_of_not_admits hshut, entered_append, held_append hnotMem, held_append hnotMem,
          hentered, hheld, hread]
        exact ⟨w, List.mem_of_mem_erase hmem, hwrite, rfl, rfl, rfl⟩
      · -- the first writer to try enters, and then everybody finds the lock held
        have hopen : (l.rouse v).admits v.mode = true := by
          simp [hmode, rouse, admits, hwriter, hreaders]
        rw [attempt_of_admits hopen, hmode] at hlater
        obtain ⟨hnone, hheld⟩ := hlater.of_writer rfl
        rw [trial_of_admits hopen, entered_append, held_append hnotMem, held_append hnotMem, hnone,
          hheld, hheld]
        exact ⟨v, hv, hmode, by simp [entered], by simp [held, hmode], by simp [held, hmode]⟩

/-- A lock that nobody holds has no writer parked. -/
theorem Reaches.no_writer_parked (h : Reaches past l) (hfree : ∀ mode, held past mode = 0) :
    ∀ w ∈ l.parked, w.mode ≠ .write := by
  intro w hw hmode
  obtain ⟨mode, a, ha⟩ := h.holder_of_parked_writer hw hmode
  simp [hfree mode] at ha

/-- A command that leaves the lock free while a writer is parked is a release. -/
theorem Reaches.freed (h : Reaches past l) (hw : w ∈ l.parked) (hmode : w.mode = .write)
    (hfree : ∀ mode, held ((l.eventOf a c).toList ++ past) mode = 0) :
    ∃ mode, (l.obey a c).1 = l.leave mode := by
  -- a parked writer means that somebody held the lock, and only a release changes that
  have hheld : ¬ ∀ mode, held past mode = 0 := fun hnone => h.no_writer_parked hnone w hw hmode
  rcases obey_cases l a c with ⟨-, he⟩ | ⟨mode, -, -, -, he⟩ | ⟨mode, -, hl, -⟩ | ⟨v, -, -, -, he⟩
  · rw [he] at hfree
    exact absurd hfree hheld
  · rw [he, Option.toList_some, List.singleton_append] at hfree
    rcases e : (l.announce mode).admits mode with - | -
    · have hparks : (l.announce mode).trial ⟨a, mode⟩ = .parks ⟨a, mode⟩ := trial_of_not_admits e
      rw [hparks] at hfree
      exact absurd hfree hheld
    · have henters : (l.announce mode).trial ⟨a, mode⟩ = .enters ⟨a, mode⟩ := trial_of_admits e
      have hnone := hfree mode
      rw [henters] at hnone
      simp [held] at hnone
  · exact ⟨mode, hl⟩
  · rw [he] at hfree
    exact absurd hfree hheld

/-- Once the lock is left free while a writer is parked, one of the waiting writers gets in, in
whatever order those that are ready try again. -/
theorem Reaches.settles_freed (h : Reaches past l) (hc : Permits past a c)
    (hparked : ∃ w ∈ l.parked, w.mode = .write)
    (hfree : ∀ mode, held ((l.eventOf a c).toList ++ past) mode = 0)
    (hsettles : Settles (l.obey a c).1 later l') :
    ∃ w ∈ l.waiters, w.mode = .write ∧
      Reaches (later ++ ((l.eventOf a c).toList ++ past)) l' ∧
      held (later ++ ((l.eventOf a c).toList ++ past)) .write = {w.actor} ∧
      held (later ++ ((l.eventOf a c).toList ++ past)) .read = 0 ∧
      entered later = [w.actor] := by
  obtain ⟨v, hv, hvmode⟩ := hparked
  have hafter := h.obey hc
  obtain ⟨mode, hleave⟩ := h.freed hv hvmode hfree
  have hwaiters : (l.obey a c).1.waiters.Perm l.waiters := by
    rw [hleave]
    exact waiters_leave mode
  -- the release has woken the parked writer, since no writer stays parked at a free lock
  have hvafter : v ∈ (l.obey a c).1.waiters :=
    hwaiters.mem_iff.2 (List.mem_append_left _ hv)
  have hvready : v ∈ (l.obey a c).1.ready := by
    rcases List.mem_append.1 hvafter with hparked | hvready
    · exact absurd hvmode (hafter.no_writer_parked hfree v hparked)
    · exact hvready
  have hnobody : ∀ mode, tally ((l.eventOf a c).toList ++ past) mode = 0 :=
    fun mode => tally_eq_zero_iff.2 (hfree mode)
  obtain ⟨w, hw, hwmode, hentered, hwrite, hread⟩ := hsettles.of_free
    (hafter.accounts.nobody_writes_iff.1 (hnobody .write))
    (hafter.accounts.nobody_reads_iff.1 (hnobody .read))
    (hafter.accounts.writer_waits_iff.2 ⟨v, hvafter, hvmode⟩) ⟨v, hvready, hvmode⟩
  refine ⟨w, hwaiters.mem_iff.1 (List.mem_append_right _ hw), hwmode, hafter.settles hsettles,
    ?_, ?_, hentered⟩
  · rw [held_append fun a m => hsettles.leaves_notMem, hwrite, hfree]
    rfl
  · rw [held_append fun a m => hsettles.leaves_notMem, hread, hfree]
    rfl

/-- **Writer preference.**  Between the parking of a writer and the entry of any reader the
writer has entered or was interrupted.  And a step that leaves the lock free while a writer is
parked ends with one of the waiting writers holding the lock, and nobody else has got in: in
whatever order those that are ready try again, and in particular in the order in which they
parked. -/
theorem writer_preference (h : Reaches past l) :
    (∀ later mid earlier a b,
      past = later ++ .enters ⟨b, .read⟩ :: (mid ++ .parks ⟨a, .write⟩ :: earlier) →
      .enters ⟨a, .write⟩ ∈ mid ∨ .interrupted a ∈ mid) ∧
    (∀ a c, Permits past a c →
      (∃ w ∈ l.parked, w.mode = .write) →
      (∀ mode, held ((l.eventOf a c).toList ++ past) mode = 0) →
      ∀ later l', Settles (l.obey a c).1 later l' →
      ∃ w ∈ l.waiters, w.mode = .write ∧
        Reaches (later ++ ((l.eventOf a c).toList ++ past)) l' ∧
        held (later ++ ((l.eventOf a c).toList ++ past)) .write = {w.actor} ∧
        held (later ++ ((l.eventOf a c).toList ++ past)) .read = 0 ∧
        entered later = [w.actor]) ∧
    (l.ready = [] → ∀ a c, Permits past a c →
      (∃ w ∈ l.parked, w.mode = .write) →
      (∀ mode, held ((l.eventOf a c).toList ++ past) mode = 0) →
      ∃ w ∈ l.parked, w.mode = .write ∧
        Reaches (l.stepEvents a c ++ past) (l.step a c).1 ∧
        held (l.stepEvents a c ++ past) .write = {w.actor} ∧
        held (l.stepEvents a c ++ past) .read = 0 ∧
        (l.step a c).2.2 = [w.actor]) := by
  refine ⟨?_, ?_, ?_⟩
  · intro later mid earlier a b hpast
    obtain ⟨l₀, h₀, hoffers⟩ := h.before hpast
    by_contra hnone
    rw [not_or] at hnone
    have hwaits := h₀.waits rfl hnone.1 hnone.2
    exact h₀.not_offers_reader hwaits rfl hoffers
  · intro a c hc hparked hfree later l' hsettles
    exact h.settles_freed hc hparked hfree hsettles
  · -- to be resumed in order is one of the orders, and nobody was ready before
    intro hready a c hc hparked hfree
    obtain ⟨w, hw, hwmode, -, hwrite, hread, hentered⟩ :=
      h.settles_freed hc hparked hfree (settles_resumeAll rfl)
    rw [waiters_of_not_ready hready] at hw
    rw [stepEvents, List.append_assoc]
    refine ⟨w, hw, hwmode, ?_, hwrite, hread, ?_⟩
    · rw [← List.append_assoc]
      exact h.step hc
    · have hwoken := entered_resumeEvents (l := (l.obey a c).1) (l.obey a c).1.ready.length
      rw [hentered] at hwoken
      exact hwoken

/-- The history in which the reader leaves, the writer after it, and the reader behind gets in. -/
def servedPast : History :=
  [.enters ⟨"c", .read⟩, .leaves "b" .write, .parks ⟨"c", .read⟩, .enters ⟨"b", .write⟩,
    .leaves "a" .read] ++ queuedPast

theorem reaches_served : Reaches servedPast ⟨1, false, 0, [], []⟩ :=
  (reaches_queued.step (a := "a") (c := .release .read) (by decide)).step
    (a := "b") (c := .release .write) (by decide)

/-- The reader behind the writer may be the first to try again: it parks, and then the writer
enters. -/
theorem settles_reader_first :
    Settles (queued.obey "a" (.release .read)).1 [.enters ⟨"b", .write⟩, .parks ⟨"c", .read⟩]
      ⟨0, true, 0, [⟨"c", .read⟩], []⟩ :=
  @Settles.retry _ _ ⟨"c", .read⟩ [.enters ⟨"b", .write⟩] (by decide)
    (@Settles.retry _ _ ⟨"b", .write⟩ [] (by decide) (.done rfl))

/-- The parked writer is the one that holds the lock once the reader has left, also when the reader
behind it tries first, and it has entered before that reader does. -/
theorem writer_preference_served :
    (Reaches queuedPast queued ∧ queued.ready = [] ∧
      Permits queuedPast "a" (.release .read) ∧ (∃ w ∈ queued.parked, w.mode = .write) ∧
      (∃ w ∈ queued.waiters, w.mode = .write ∧
        entered [.enters ⟨"b", .write⟩, .parks ⟨"c", .read⟩] = [w.actor]) ∧
      ∃ w ∈ queued.parked, w.mode = .write ∧
        held (queued.stepEvents "a" (.release .read) ++ queuedPast) .write = {w.actor}) ∧
    (Reaches servedPast ⟨1, false, 0, [], []⟩ ∧
      .enters ⟨"b", .write⟩ ∈ (servedPast.drop 1).take 5) := by
  have hleft : Permits queuedPast "a" (.release .read) := by decide
  have hwriter : ∃ w ∈ queued.parked, w.mode = .write := by decide
  have hfree : ∀ mode,
      held ((queued.eventOf "a" (.release .read)).toList ++ queuedPast) mode = 0 := by decide
  obtain ⟨-, hanyOrder, hinOrder⟩ := writer_preference reaches_queued
  refine ⟨⟨reaches_queued, rfl, hleft, hwriter, ?_, ?_⟩, reaches_served, ?_⟩
  · obtain ⟨w, hw, hmode, -, -, -, hentered⟩ :=
      hanyOrder "a" (.release .read) hleft hwriter hfree _ _ settles_reader_first
    exact ⟨w, hw, hmode, hentered⟩
  · obtain ⟨w, hw, hmode, -, hheld, -⟩ :=
      hinOrder rfl "a" (.release .read) hleft hwriter hfree
    exact ⟨w, hw, hmode, hheld⟩
  · -- the reader enters last, and the writer that parked before it was not interrupted
    have hbetween := (writer_preference reaches_served).1 [] ((servedPast.drop 1).take 5)
      [.enters ⟨"a", .read⟩] "b" "c" rfl
    exact hbetween.resolve_right (by decide)

end Lock

end LayeredSettings
