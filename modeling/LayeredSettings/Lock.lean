/-
LayeredSettings/Lock.lean

A lock that many readers share or one writer holds, for actors of whom one runs
at a time.

An actor that cannot enter parks.  A notification makes every parked actor
ready, in the order in which they parked; ready actors are resumed one by one in
that order, and each tries again and enters or parks behind the others.  Writers
are preferred: while one waits, no reader enters.

A step is what one actor does until it stops (`Lock.obey`), followed by the
resumption of all that became ready (`Lock.settle`).  Who holds the lock is not
recorded: anyone may release, so the number of readers may fall below zero.
-/

namespace LayeredSettings

/-- An actor, by name. -/
abbrev Actor := String

/-- How a lock is held. -/
inductive Lock.Mode where
  | read
  | write
  deriving DecidableEq, Inhabited

/-- An actor that waits to enter. -/
structure Lock.Waiter where
  actor : Actor
  mode : Lock.Mode
  deriving DecidableEq, Inhabited

/-- What an actor is told to do. -/
inductive Lock.Command where
  | acquire (mode : Lock.Mode)
  | release (mode : Lock.Mode)
  | interrupt
  deriving DecidableEq, Inhabited

/-- What became of a command. -/
inductive Lock.Outcome where
  | done
  | blocked
  | busy
  | interrupted
  | notBlocked
  deriving DecidableEq, Inhabited

/-- A lock and the actors that wait for it: `parked` until they are notified, then `ready`. -/
structure Lock where
  readers : Int
  writer : Bool
  writersWaiting : Nat
  parked : List Lock.Waiter
  ready : List Lock.Waiter
  deriving DecidableEq, Inhabited

namespace Lock

/-- A lock that nobody holds or waits for. -/
def free : Lock := ⟨0, false, 0, [], []⟩

/-! ### Entering -/

/-- Whether a lock may be entered. -/
def admits (l : Lock) : Mode → Bool
  | .read => !l.writer && l.writersWaiting == 0
  | .write => !l.writer && l.readers == 0

/-- The lock with the wish to enter made known: writers are counted while they wait. -/
def announce (l : Lock) : Mode → Lock
  | .read => l
  | .write => { l with writersWaiting := l.writersWaiting + 1 }

/-- The lock with a writer that waits no longer. -/
def withdraw (l : Lock) : Mode → Lock
  | .read => l
  | .write => { l with writersWaiting := l.writersWaiting - 1 }

/-- The lock entered. -/
def enter (l : Lock) : Mode → Lock
  | .read => { l with readers := l.readers + 1 }
  | .write => { l.withdraw .write with writer := true }

/-- One attempt of an actor: it enters, or it parks behind the others. -/
def attempt (l : Lock) (w : Waiter) : Lock × Bool :=
  if l.admits w.mode then (l.enter w.mode, true)
  else ({ l with parked := l.parked ++ [w] }, false)

/-- The lock with every parked actor ready. -/
def notifyAll (l : Lock) : Lock := { l with parked := [], ready := l.ready ++ l.parked }

/-! ### Commands -/

/-- Whether an actor waits. -/
def awaits (l : Lock) (a : Actor) : Bool := (l.parked ++ l.ready).any fun w => w.actor == a

/-- The lock released once; the last reader and the writer notify. -/
def leave (l : Lock) : Mode → Lock
  | .read =>
      let left := { l with readers := l.readers - 1 }
      if left.readers = 0 then left.notifyAll else left
  | .write => { l with writer := false }.notifyAll

/-- The lock without a waiter that was interrupted; the readers that a writer held back may try
again. -/
def dismiss (l : Lock) (w : Waiter) : Lock :=
  let without := { l with parked := l.parked.erase w }
  match w.mode with
  | .read => without
  | .write => (without.withdraw .write).notifyAll

/-- What one actor does on a command until it stops. -/
def obey (l : Lock) (a : Actor) : Command → Lock × Outcome
  | .acquire mode =>
      if l.awaits a then (l, .busy)
      else
        let (after, entered) := (l.announce mode).attempt ⟨a, mode⟩
        (after, if entered then .done else .blocked)
  | .release mode => if l.awaits a then (l, .busy) else (l.leave mode, .done)
  | .interrupt =>
      match l.parked.find? fun w => w.actor == a with
      | none => (l, .notBlocked)
      | some w => (l.dismiss w, .interrupted)

/-! ### Resumption -/

/-- The first ready actor tries again: the lock, and the actor if it entered. -/
def resume (l : Lock) : Lock × Option Actor :=
  match l.ready with
  | [] => (l, none)
  | w :: rest =>
      let (after, entered) := { l with ready := rest }.attempt w
      (after, if entered then some w.actor else none)

/-- Some resumptions: the lock, and the actors that entered. -/
def resumeAll : Nat → Lock → Lock × List Actor
  | 0, l => (l, [])
  | n + 1, l =>
      let (after, entered) := l.resume
      let (last, others) := resumeAll n after
      (last, entered.toList ++ others)

/-- All ready actors resumed, in order. -/
def settle (l : Lock) : Lock × List Actor := resumeAll l.ready.length l

/-- A command, then the resumption of all that became ready. -/
def step (l : Lock) (a : Actor) (c : Command) : Lock × Outcome × List Actor :=
  let (after, outcome) := l.obey a c
  let (settled, woken) := after.settle
  (settled, outcome, woken)

end Lock

end LayeredSettings
