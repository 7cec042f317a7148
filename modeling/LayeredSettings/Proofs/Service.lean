/-
LayeredSettings/Proofs/Service.lean

A handle in use by any number of clients at once.

A client takes the lock for its operation, works, and gives the lock back; it
copies the document out, puts another one in place, or edits a draft one edit at a
time and then puts the draft in place or drops it (`Service.Stage.next`).  Between
any two of these steps other clients may take theirs, in any order
(`Service.Action`): a client that found the lock taken tries again once it was
notified, and may be interrupted while it is parked.  An action that is not open to
its client does nothing.

`Service.act_cases` lists what an action can change.  Main result:
`Service.Guarded.change`.  Whatever changes, the clients that are at work or about
to leave are those that hold the lock, so a client that may write is the only one
at work (`Guarded.alone`).
-/
import LayeredSettings.Handle
import LayeredSettings.Proofs.Exclusion
import LayeredSettings.Proofs.History

namespace LayeredSettings

/-! ### Operations -/

namespace Handle

/-- What a client does with a draft, which depends on what it finds there: its edits, and a message
if it gives up after them. -/
abbrev Script := Document → List (Path × Value) × Option String

/-- What a client does with a handle. -/
inductive Operation where
  | snapshot
  | replace (d : Document)
  | write (script : Script)

/-- What becomes of an operation. -/
inductive Answer where
  | copied (d : Document)
  | installed
  | dropped (why : Stop)
  deriving DecidableEq

namespace Operation

/-- How an operation holds the lock. -/
def mode : Operation → Lock.Mode
  | .snapshot => .read
  | .replace _ => .write
  | .write _ => .write

end Operation

/-- What becomes of reading the whole document. -/
def Answer.ofSnapshot : Except Stop Document → Answer
  | .ok d => .copied d
  | .error e => .dropped e

/-- What becomes of writing. -/
def Answer.ofWrite : Except Stop Unit → Answer
  | .ok () => .installed
  | .error e => .dropped e

/-- An operation on a handle that nobody else uses. -/
def Operation.alone (h : Handle) : Operation → Handle × Answer
  | .snapshot => (h.snapshot.1, .ofSnapshot h.snapshot.2)
  | .replace d => ((h.replace d).1, .ofWrite (h.replace d).2.outcome)
  | .write script =>
      let (edits, giveUp) := script h.document
      ((h.write edits giveUp).1, .ofWrite (h.write edits giveUp).2)

/-- Whoever uses an idle handle leaves it idle. -/
theorem holding_of {α : Type} (d : Document) (mode : Lock.Mode)
    (use : Document → Document × Except Stop α) :
    (Handle.of d).holding mode use = (Handle.of (use d).1, (use d).2) := by
  cases mode <;> rfl

theorem alone_snapshot (d : Document) : Operation.snapshot.alone (of d) = (of d, .copied d) := by
  simp [Operation.alone, snapshot, inspect, holding_of, Answer.ofSnapshot]

theorem alone_replace (d e : Document) :
    (Operation.replace e).alone (of d) = (of e, .installed) := by
  simp [Operation.alone, replace, holding_of, Answer.ofWrite, Run.emit]

theorem alone_write_of_error {d : Document} {script : Script} {e : Stop}
    (h : edit (script d).1 d = .error e) :
    (Operation.write script).alone (of d) = (of d, .dropped e) := by
  have hdocument : (of d).document = d := rfl
  simp [Operation.alone, hdocument, write, holding_of, h, Answer.ofWrite]

theorem alone_write_of_giveUp {d draft : Document} {script : Script} {message : String}
    (h : edit (script d).1 d = .ok draft) (hgiveUp : (script d).2 = some message) :
    (Operation.write script).alone (of d) = (of d, .dropped (.abandoned message)) := by
  have hdocument : (of d).document = d := rfl
  simp [Operation.alone, hdocument, write, holding_of, h, hgiveUp, Answer.ofWrite]

theorem alone_write_of_ok {d draft : Document} {script : Script}
    (h : edit (script d).1 d = .ok draft) (hgiveUp : (script d).2 = none) :
    (Operation.write script).alone (of d) = (of draft, .installed) := by
  have hdocument : (of d).document = d := rfl
  simp [Operation.alone, hdocument, write, holding_of, h, hgiveUp, Answer.ofWrite]

/-- An operation alone leaves the handle idle, and copies out the document that it finds. -/
theorem exists_alone (op : Operation) (d : Document) :
    ∃ d' answer, op.alone (of d) = (of d', answer) ∧ ∀ e, answer = .copied e → e = d := by
  rcases op with - | e | script
  · refine ⟨d, .copied d, alone_snapshot d, fun e heq => ?_⟩
    exact (Answer.copied.inj heq).symm
  · exact ⟨e, .installed, alone_replace d e, nofun⟩
  · rcases hedit : edit (script d).1 d with r | draft
    · exact ⟨d, _, alone_write_of_error hedit, nofun⟩
    · rcases hgiveUp : (script d).2 with - | message
      · exact ⟨draft, _, alone_write_of_ok hedit hgiveUp, nofun⟩
      · exact ⟨d, _, alone_write_of_giveUp hedit hgiveUp, nofun⟩

end Handle

/-! ### Services -/

namespace Service

open Handle (Operation Answer)

/-- How far a client has come with its operation. -/
inductive Stage where
  | idle
  | entering (op : Operation)
  | inside (op : Operation)
  | drafting (draft : Document) (edits : List (Path × Value)) (giveUp : Option String)
  | leaving (mode : Lock.Mode)

/-- The next step of a client that holds the lock: the document, its stage, and what became of
its operation if it is done. -/
def Stage.next (d : Document) : Stage → Option (Document × Stage × Option Answer)
  | .inside .snapshot => some (d, .leaving .read, some (.copied d))
  | .inside (.replace e) => some (e, .leaving .write, some .installed)
  | .inside (.write script) => some (d, .drafting d (script d).1 (script d).2, none)
  | .drafting draft ((path, v) :: rest) giveUp =>
      match Settings.schema.assign draft path v with
      | .ok next => some (d, .drafting next rest giveUp, none)
      | .error r => some (d, .leaving .write, some (.dropped (.refused r)))
  | .drafting draft [] none => some (draft, .leaving .write, some .installed)
  | .drafting _ [] (some message) =>
      some (d, .leaving .write, some (.dropped (.abandoned message)))
  | _ => none

/-- How a client at some stage holds the lock. -/
def Stage.held? : Stage → Option Lock.Mode
  | .inside op => some op.mode
  | .drafting _ _ _ => some .write
  | .leaving mode => some mode
  | _ => none

/-- A client at work keeps the lock until it leaves. -/
theorem Stage.held?_of_next {d d' : Document} {stage stage' : Stage} {answer : Option Answer}
    (h : stage.next d = some (d', stage', answer)) : stage'.held? = stage.held? := by
  revert h
  fun_cases Stage.next d stage <;> rintro ⟨⟩ <;> rfl

/-- Something that happens to a client. -/
inductive Deed where
  | begins (a : Actor) (op : Operation)
  | acquires (a : Actor) (op : Operation)
  | ends (a : Actor) (answer : Answer)
  | returns (a : Actor)
  | interrupted (a : Actor)

/-- What happened to the clients of a service, the latest first. -/
abbrev Record := List Deed

end Service

/-- A document, the lock that guards it, and how far each client has come. -/
structure Service where
  document : Document
  lock : Lock
  stage : Actor → Service.Stage

namespace Service

open Handle (Operation Answer)

/-- A document that nobody has used yet. -/
def start (d : Document) : Service := ⟨d, Lock.free, fun _ => .idle⟩

/-- The service with a client at another stage. -/
def put (s : Service) (l : Lock) (a : Actor) (stage : Stage) : Service :=
  { s with lock := l, stage := Function.update s.stage a stage }

/-! ### Actions -/

/-- Who is to take a step next. -/
inductive Action where
  | begin (a : Actor) (op : Operation)
  | retry (w : Lock.Waiter)
  | interrupt (a : Actor)
  | work (a : Actor)
  | leave (a : Actor)

/-- An idle client asks for the lock. -/
def begin (s : Service) (a : Actor) (op : Operation) : Service × Record :=
  match s.stage a, s.lock.obey a (.acquire op.mode) with
  | .idle, (l, .done) => (s.put l a (.inside op), [.acquires a op, .begins a op])
  | .idle, (l, .blocked) => (s.put l a (.entering op), [.begins a op])
  | _, _ => (s, [])

/-- A ready client tries again. -/
def retry (s : Service) (w : Lock.Waiter) : Service × Record :=
  if w ∈ s.lock.ready then
    match s.stage w.actor, (s.lock.rouse w).attempt w with
    | .entering op, (l, true) => (s.put l w.actor (.inside op), [.acquires w.actor op])
    | .entering op, (l, false) => (s.put l w.actor (.entering op), [])
    | _, _ => (s, [])
  else (s, [])

/-- A parked client is interrupted, and its operation is over. -/
def interrupt (s : Service) (a : Actor) : Service × Record :=
  match s.stage a, s.lock.obey a .interrupt with
  | .entering _, (l, .interrupted) => (s.put l a .idle, [.interrupted a])
  | _, _ => (s, [])

/-- A client that holds the lock takes its next step. -/
def work (s : Service) (a : Actor) : Service × Record :=
  match (s.stage a).next s.document with
  | some (d, stage, answer) =>
      ({ s.put s.lock a stage with document := d }, (answer.map (.ends a ·)).toList)
  | none => (s, [])

/-- A client that is done gives the lock back. -/
def leave (s : Service) (a : Actor) : Service × Record :=
  match s.stage a with
  | .leaving mode =>
      match s.lock.obey a (.release mode) with
      | (l, .done) => (s.put l a .idle, [.returns a])
      | _ => (s, [])
  | _ => (s, [])

/-- What an action makes of a service, and what happens. -/
def act (s : Service) : Action → Service × Record
  | .begin a op => s.begin a op
  | .retry w => s.retry w
  | .interrupt a => s.interrupt a
  | .work a => s.work a
  | .leave a => s.leave a

/-- Actions one after the other, the latest first, from a document that nobody has used yet. -/
def run (d : Document) : List Action → Service × Record
  | [] => (start d, [])
  | action :: earlier =>
      let (s, past) := run d earlier
      let (after, deeds) := s.act action
      (after, deeds ++ past)

theorem run_cons (d : Document) (action : Action) (earlier : List Action) :
    run d (action :: earlier) =
      (((run d earlier).1.act action).1, ((run d earlier).1.act action).2 ++ (run d earlier).2) :=
  rfl

/-! ### Changes -/

/-- What can change for a client. -/
inductive Change (s : Service) (a : Actor) : Service → Record → Prop
  | arrives {op : Operation} {l : Lock} :
      s.stage a = .idle → s.lock.obey a (.acquire op.mode) = (l, .done) →
        Change s a (s.put l a (.inside op)) [.acquires a op, .begins a op]
  | queues {op : Operation} {l : Lock} :
      s.stage a = .idle → s.lock.obey a (.acquire op.mode) = (l, .blocked) →
        Change s a (s.put l a (.entering op)) [.begins a op]
  | enters {op : Operation} {mode : Lock.Mode} {l : Lock} :
      ⟨a, mode⟩ ∈ s.lock.ready → s.stage a = .entering op →
      (s.lock.rouse ⟨a, mode⟩).attempt ⟨a, mode⟩ = (l, true) →
        Change s a (s.put l a (.inside op)) [.acquires a op]
  | parks {op : Operation} {mode : Lock.Mode} {l : Lock} :
      ⟨a, mode⟩ ∈ s.lock.ready → s.stage a = .entering op →
      (s.lock.rouse ⟨a, mode⟩).attempt ⟨a, mode⟩ = (l, false) →
        Change s a (s.put l a (.entering op)) []
  | interrupted {op : Operation} {l : Lock} :
      s.stage a = .entering op → s.lock.obey a .interrupt = (l, .interrupted) →
        Change s a (s.put l a .idle) [.interrupted a]
  | works {d : Document} {stage : Stage} {answer : Option Answer} :
      (s.stage a).next s.document = some (d, stage, answer) →
        Change s a { s.put s.lock a stage with document := d } (answer.map (.ends a ·)).toList
  | leaves {mode : Lock.Mode} {l : Lock} :
      s.stage a = .leaving mode → s.lock.obey a (.release mode) = (l, .done) →
        Change s a (s.put l a .idle) [.returns a]

/-- An action changes nothing, or something for one client. -/
theorem act_cases (s : Service) (action : Action) :
    s.act action = (s, []) ∨ ∃ a, Change s a (s.act action).1 (s.act action).2 := by
  -- begin, retry, interrupt, work and leave; each changes one client or nothing
  rcases action with ⟨a, op⟩ | ⟨a, mode⟩ | a | a | a
  · simp only [act, begin]
    split
    · exact .inr ⟨a, .arrives ‹_› ‹_›⟩
    · exact .inr ⟨a, .queues ‹_› ‹_›⟩
    · exact .inl rfl
  · simp only [act, retry]
    split
    · split
      · exact .inr ⟨a, .enters ‹_› ‹_› ‹_›⟩
      · exact .inr ⟨a, .parks ‹_› ‹_› ‹_›⟩
      · exact .inl rfl
    · exact .inl rfl
  · simp only [act, interrupt]
    split
    · exact .inr ⟨a, .interrupted ‹_› ‹_›⟩
    · exact .inl rfl
  · simp only [act, work]
    split
    · exact .inr ⟨a, .works ‹_›⟩
    · exact .inl rfl
  · simp only [act, leave]
    split
    · split
      · exact .inr ⟨a, .leaves ‹_› ‹_›⟩
      · exact .inl rfl
    · exact .inl rfl

/-! ### Guarded services -/

variable {s s' : Service} {a b : Actor} {op : Operation} {mode : Lock.Mode} {l l' : Lock}
  {stage : Stage} {holders : Holders} {ws : List Lock.Waiter} {deeds : Record}

@[simp] theorem document_put : (s.put l a stage).document = s.document := rfl

@[simp] theorem lock_put : (s.put l a stage).lock = l := rfl

@[simp] theorem stage_put_self : (s.put l a stage).stage a = stage := by simp [put]

@[simp] theorem stage_put_of_ne (h : b ≠ a) : (s.put l a stage).stage b = s.stage b := by
  simp [put, h]

/-- The lock is sound, those who hold it are the clients at work or about to leave, and those who
wait for it are clients that are entering. -/
structure Guarded (s : Service) (holders : Holders) : Prop where
  sound : Session.Sound s.lock holders s.lock.waiters
  holds : ∀ a mode, a ∈ holders mode ↔ (s.stage a).held? = some mode
  waits : ∀ w ∈ s.lock.waiters, ∃ op, s.stage w.actor = .entering op ∧ op.mode = w.mode

theorem guarded_start (d : Document) : (start d).Guarded fun _ => ∅ where
  sound := Session.Sound.free
  holds := by simp [start, Stage.held?]
  waits := by simp [start, Lock.free, Lock.waiters]

namespace Guarded

theorem notMem_of_held?_eq_none (h : s.Guarded holders) (ha : (s.stage a).held? = none)
    (mode : Lock.Mode) : a ∉ holders mode := by
  intro hmem
  rw [(h.holds a mode).1 hmem] at ha
  cases ha

/-- The holders are right if they are for the client that has moved on, and no others have come or
gone. -/
theorem holds_put {holders' : Holders} (h : s.Guarded holders)
    (hself : ∀ mode, a ∈ holders' mode ↔ stage.held? = some mode)
    (hothers : ∀ b ≠ a, ∀ mode, b ∈ holders' mode ↔ b ∈ holders mode) (b : Actor)
    (mode : Lock.Mode) : b ∈ holders' mode ↔ ((s.put l a stage).stage b).held? = some mode := by
  rcases eq_or_ne b a with rfl | hb
  · rw [stage_put_self]
    exact hself mode
  · rw [stage_put_of_ne hb, hothers b hb mode]
    exact h.holds b mode

/-- Those who waited before and are not the client that has moved on wait as before. -/
theorem waits_put (h : s.Guarded holders) (hbefore : ∀ w ∈ ws, w ∈ s.lock.waiters)
    (hne : ∀ w ∈ ws, w.actor ≠ a) :
    ∀ w ∈ ws, ∃ op, (s.put l a stage).stage w.actor = .entering op ∧ op.mode = w.mode := by
  intro w hw
  rw [stage_put_of_ne (hne w hw)]
  exact h.waits w (hbefore w hw)

/-- A client makes an attempt: it holds the lock, or it waits for it. -/
theorem attempt {entered : Bool} (h : s.Guarded holders)
    (hsound : Session.Sound l holders (⟨a, op.mode⟩ :: ws)) (hws : l.waiters.Perm ws)
    (hbefore : ∀ w ∈ ws, w ∈ s.lock.waiters) (ha : (s.stage a).held? = none)
    (he : l.attempt ⟨a, op.mode⟩ = (l', entered)) :
    ∃ holders', (s.put l' a (if entered then .inside op else .entering op)).Guarded holders' := by
  have hafter := hsound.attempt hws
  have hout := h.notMem_of_held?_eq_none ha
  have hne : ∀ w ∈ ws, w.actor ≠ a := fun w hw heq =>
    (List.nodup_cons.1 hsound.single).1 (List.mem_map.2 ⟨w, hw, heq⟩)
  -- the client parks and holds nothing, or it enters and holds the lock in its mode
  cases entered with
  | false =>
      obtain rfl := Lock.eq_park_of_attempt he
      refine ⟨holders, ?_, h.holds_put (fun mode => ?_) fun b hb mode => Iff.rfl, fun w hw => ?_⟩
      · simpa [Session.attempt, he] using hafter
      · simp [hout, Stage.held?]
      · rcases List.mem_cons.1 (Lock.waiters_park.mem_iff.1 hw) with rfl | hw
        · exact ⟨op, by simp, rfl⟩
        · exact h.waits_put hbefore hne w (hws.mem_iff.1 hw)
  | true =>
      obtain rfl := Lock.eq_enter_of_attempt he
      refine ⟨holders.gain op.mode a, ?_, h.holds_put (fun mode => ?_) fun b hb mode => ?_,
        fun w hw => ?_⟩
      · simpa [Session.attempt, he] using hafter
      · simp [Holders.mem_gain, hout, Stage.held?, eq_comm]
      · simp [Holders.mem_gain, hb]
      · exact h.waits_put hbefore hne w (hws.mem_iff.1 (by simpa [Lock.waiters] using hw))

/-- A client that is not at work and does not wait makes its wish known and makes an attempt. -/
theorem ask {entered : Bool} (h : s.Guarded holders) (hwaits : s.lock.awaits a = false)
    (ha : (s.stage a).held? = none)
    (he : (s.lock.announce op.mode).attempt ⟨a, op.mode⟩ = (l, entered)) :
    ∃ holders', (s.put l a (if entered then .inside op else .entering op)).Guarded holders' := by
  have hsound : Session.Sound (s.lock.announce op.mode) holders
      (⟨a, op.mode⟩ :: s.lock.waiters) :=
    h.sound.announce (Lock.ne_of_not_awaits hwaits) (h.notMem_of_held?_eq_none ha)
  exact h.attempt hsound (List.Perm.of_eq (by simp [Lock.waiters])) (fun w hw => hw) ha he

/-- A client that has been notified tries again. -/
theorem retry {entered : Bool} (h : s.Guarded holders) (hready : ⟨a, mode⟩ ∈ s.lock.ready)
    (hstage : s.stage a = .entering op)
    (he : (s.lock.rouse ⟨a, mode⟩).attempt ⟨a, mode⟩ = (l, entered)) :
    ∃ holders', (s.put l a (if entered then .inside op else .entering op)).Guarded holders' := by
  have hwaiters := Lock.waiters_rouse hready
  -- it waits in the mode of the operation that it is entering for
  obtain rfl : op.mode = mode := by
    obtain ⟨op', hop', hmode⟩ := h.waits _ (hwaiters.mem_iff.2 List.mem_cons_self)
    obtain rfl : op = op' := Stage.entering.inj (hstage.symm.trans hop')
    exact hmode
  have hsound : Session.Sound (s.lock.rouse ⟨a, op.mode⟩) holders
      (⟨a, op.mode⟩ :: (s.lock.rouse ⟨a, op.mode⟩).waiters) :=
    (h.sound.perm hwaiters).congr rfl rfl rfl
  refine h.attempt hsound (.refl _) (fun w hw => ?_) (by rw [hstage]; rfl) he
  exact hwaiters.mem_iff.2 (List.mem_cons_of_mem _ hw)

/-- A parked client is interrupted. -/
theorem interrupt (h : s.Guarded holders) (hstage : s.stage a = .entering op)
    (hobey : s.lock.obey a .interrupt = (l, .interrupted)) :
    (s.put l a .idle).Guarded holders := by
  obtain ⟨w, hw, rfl, rfl⟩ := Lock.dismiss_of_obey_interrupted hobey
  have hwaiters := Lock.waiters_dismiss hw
  -- the client waited once, so nobody waits under its name any more
  have hsingle := (hwaiters.map (·.actor)).nodup_iff.1 h.sound.single
  have hout := h.notMem_of_held?_eq_none (a := w.actor) (by rw [hstage]; rfl)
  refine ⟨h.sound.dismiss hw, h.holds_put (fun mode => ?_) fun b hb mode => Iff.rfl,
    h.waits_put (fun v hv => ?_) fun v hv heq => ?_⟩
  · simp [hout, Stage.held?]
  · exact hwaiters.mem_iff.2 (List.mem_cons_of_mem w hv)
  · exact (List.nodup_cons.1 hsingle).1 (List.mem_map.2 ⟨v, hv, heq⟩)

/-- A client at work goes on, and holds the lock as before. -/
theorem work {d : Document} {answer : Option Answer} (h : s.Guarded holders)
    (hnext : (s.stage a).next s.document = some (d, stage, answer)) :
    Guarded { s.put s.lock a stage with document := d } holders := by
  have hholds : ∀ mode, a ∈ holders mode ↔ stage.held? = some mode := by
    intro mode
    rw [Stage.held?_of_next hnext]
    exact h.holds a mode
  refine ⟨h.sound, h.holds_put (l := s.lock) hholds fun b hb mode => Iff.rfl,
    h.waits_put (l := s.lock) (fun v hv => hv) fun v hv heq => ?_⟩
  -- a client that waits is not at work
  obtain ⟨op, hop, -⟩ := h.waits v hv
  rw [heq] at hop
  rw [hop] at hnext
  cases hnext

/-- A client that is done gives the lock back. -/
theorem leave (h : s.Guarded holders) (hstage : s.stage a = .leaving mode)
    (hobey : s.lock.obey a (.release mode) = (l, .done)) :
    (s.put l a .idle).Guarded (holders.lose mode a) := by
  obtain rfl := Lock.leave_of_obey_done hobey
  have hwaiters := Lock.waiters_leave (l := s.lock) mode
  -- a client that is about to leave is one of the holders
  have ha : a ∈ holders mode := (h.holds a mode).2 (by rw [hstage]; rfl)
  refine ⟨(h.sound.leave ha).perm hwaiters.symm, h.holds_put (fun m => ?_) fun b hb m => ?_,
    h.waits_put (fun v hv => hwaiters.mem_iff.1 hv) fun v hv heq => ?_⟩
  · rw [Holders.mem_lose, h.holds a m, hstage]
    simp [Stage.held?, eq_comm]
  · simp [Holders.mem_lose, hb]
  · exact h.sound.outside v (hwaiters.mem_iff.1 hv) mode (heq ▸ ha)

/-- What changes for a client keeps a service guarded. -/
theorem change (h : s.Guarded holders) (hchange : Change s a s' deeds) :
    ∃ holders', s'.Guarded holders' := by
  -- a client that asks or tries again makes an attempt; the others give something up or only work
  cases hchange with
  | arrives hstage hobey =>
      obtain ⟨hwaits, htry⟩ := Lock.attempt_of_obey_done hobey
      exact h.ask hwaits (by rw [hstage]; rfl) htry
  | queues hstage hobey =>
      obtain ⟨hwaits, htry⟩ := Lock.attempt_of_obey_blocked hobey
      exact h.ask hwaits (by rw [hstage]; rfl) htry
  | enters hready hstage htry => exact h.retry hready hstage htry
  | parks hready hstage htry => exact h.retry hready hstage htry
  | interrupted hstage hobey => exact ⟨holders, h.interrupt hstage hobey⟩
  | works hnext => exact ⟨holders, h.work hnext⟩
  | leaves hstage hobey => exact ⟨_, h.leave hstage hobey⟩

/-- A client that holds the lock to write is the only one that holds it. -/
theorem alone (h : s.Guarded holders) (ha : (s.stage a).held? = some .write)
    (hb : (s.stage b).held? = some mode) : b = a := by
  have hwrites : a ∈ holders .write := (h.holds a .write).2 ha
  have hholds : b ∈ holders mode := (h.holds b mode).2 hb
  have hone : (holders .write).card = s.lock.writer.toNat := h.sound.writer
  have hpos : 0 < (holders .write).card := Finset.card_pos.2 ⟨a, hwrites⟩
  -- the flag is set, so there is one writer and no reader
  have hset : s.lock.writer = true := by
    rw [hone] at hpos
    exact Bool.toNat_eq_one.1 (le_antisymm (Bool.toNat_le _) hpos)
  rcases mode
  · rw [h.sound.apart hset] at hholds
    cases hholds
  · have hle : (holders .write).card ≤ 1 := hone ▸ Bool.toNat_le _
    exact Finset.card_le_one.1 hle b hholds a hwrites

end Guarded

/-- Whatever is done with a document, it stays guarded. -/
theorem guarded_run (d : Document) (schedule : List Action) :
    ∃ holders, (run d schedule).1.Guarded holders := by
  induction schedule with
  | nil => exact ⟨_, guarded_start d⟩
  | cons action earlier ih =>
      obtain ⟨holders, h⟩ := ih
      rcases act_cases (run d earlier).1 action with hsame | ⟨a, hchange⟩
      · exact ⟨holders, by rwa [run_cons, hsame]⟩
      · exact h.change hchange

end Service

end LayeredSettings
