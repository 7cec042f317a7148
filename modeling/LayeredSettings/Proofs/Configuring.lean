/-
LayeredSettings/Proofs/Configuring.lean

A sink that is set up call after call, some of them refused.

A call that succeeds sets everything anew.  One that is refused for its name
leaves the sink as it is, but one that is refused for an odd level has set the
service by then (`Log.Sink.setUp_cases`).  So the level is that of the last call
that succeeded, the two filters acting as one (`Log.Sink.admits_iff`), and the
service is that of the last call that succeeded unless a later one was refused for
its level (`Log.Sink.setUpAll_of_answers`).

Main result: `Log.Sink.write_of_answers`.
-/
import LayeredSettings.Log.Sink

namespace LayeredSettings

namespace Log

/-- A call that sets a sink up: by a level, with a service, or by the threshold of a document. -/
inductive Setup where
  | direct (level : Level) (service : String) (timestamps : Bool)
  | byDocument (d : Document)

/-- The service that a call asks for; a document keeps the one that is set. -/
def Setup.service (s : Sink) : Setup → String
  | .direct _ service _ => service
  | .byDocument _ => s.service

/-- What a call is answered: the service that it asked for, and the number of its level if the
call succeeded. -/
structure Answer where
  service : String
  granted : Except Refusal Int

/-- The service that is left behind by a call refused for an odd level. -/
def Answer.left? (a : Answer) : Option String :=
  match a.granted with
  | .error (.oddLevel _) => some a.service
  | _ => none

namespace Sink

/-! ### Calls -/

/-- The sink behind a call, and the number of the level if the call succeeds. -/
def setUp (s : Sink) : Setup → Sink × Except Refusal Int
  | .direct level service timestamps =>
      match s.configure level service timestamps with
      | (after, .ok ()) => (after, level.number)
      | (after, .error r) => (after, .error r)
  | .byDocument d => s.configureFrom d

/-- The sink behind calls. -/
def setUpAll (s : Sink) (calls : List Setup) : Sink := calls.foldl (fun s c => (s.setUp c).1) s

/-- What calls are answered, one after the other. -/
def answers : Sink → List Setup → List Answer
  | _, [] => []
  | s, c :: rest => ⟨c.service s, (s.setUp c).2⟩ :: answers (s.setUp c).1 rest

/-! ### One call -/

theorem number_eq_error {level : Level} {r : Refusal} (h : level.number = .error r) :
    ∃ name, r = .unknownLevel name := by
  cases level with
  | numbered n => cases h
  | named name =>
    rw [Level.number, namedLevel] at h
    split at h
    · cases h
    · exact ⟨name, (Except.error.inj h).symm⟩

theorem thresholdLevel_eq_error {v : Value} {r : Refusal} (h : thresholdLevel v = .error r) :
    r = .unknownThreshold v := by
  cases v with
  | text name =>
    rw [thresholdLevel] at h
    split at h
    · cases h
    · exact (Except.error.inj h).symm
  | _ => exact (Except.error.inj h).symm

/-- A level that has a number is set if the first filter knows it, and is refused when the service
is already set if not. -/
theorem configure_of_number {level : Level} {n : Int} (h : level.number = .ok n) (s : Sink)
    (service : String) (timestamps : Bool) :
    s.configure level service timestamps =
      if standardLevels.contains (min n levelCritical) then
        (⟨service, timestamps, min n levelCritical, n⟩, .ok ())
      else ({ s with service := service }, .error (.oddLevel (min n levelCritical))) := by
  rw [configure, h]

/-- A call sets everything anew, or it is refused for an odd level when its service is set, or it
is refused for a name and nothing changes. -/
theorem setUp_cases (s : Sink) (c : Setup) :
    (∃ n timestamps, s.setUp c =
      (⟨c.service s, timestamps, min n levelCritical, n⟩, .ok n)) ∨
    (∃ n, n ∉ standardLevels ∧
      s.setUp c = ({ s with service := c.service s }, .error (.oddLevel n))) ∨
    ∃ r, s.setUp c = (s, .error r) ∧ ∀ n, r ≠ .oddLevel n := by
  cases c with
  | direct level service timestamps =>
    rcases hn : level.number with r | n
    · refine .inr (.inr ⟨r, ?_, ?_⟩)
      · rw [setUp, configure, hn]
      · obtain ⟨name, rfl⟩ := number_eq_error hn
        intro n
        exact nofun
    · rw [setUp, configure_of_number hn]
      by_cases hknown : standardLevels.contains (min n levelCritical) = true
      · rw [if_pos hknown]
        exact .inl ⟨n, timestamps, by rw [hn]; rfl⟩
      · -- the service is set by the time that the first filter refuses the level
        rw [if_neg hknown]
        exact .inr (.inl ⟨_, mt List.contains_iff_mem.mpr hknown, rfl⟩)
  | byDocument d =>
    rcases hn : thresholdLevel (.text (Settings.threshold d)) with r | n
    · refine .inr (.inr ⟨r, ?_, ?_⟩)
      · rw [setUp, configureFrom, hn]
      · obtain rfl := thresholdLevel_eq_error hn
        intro n
        exact nofun
    · rw [setUp, configureFrom, hn]
      simp only [configure_of_number (show (Level.numbered n).number = .ok n from rfl)]
      by_cases hknown : standardLevels.contains (min n levelCritical) = true
      · rw [if_pos hknown]
        exact .inl ⟨n, true, rfl⟩
      · rw [if_neg hknown]
        exact .inr (.inl ⟨_, mt List.contains_iff_mem.mpr hknown, rfl⟩)

/-! ### All calls -/

/-- The service that the last call refused for an odd level has left. -/
def leftService? (answers : List Answer) : Option String :=
  (answers.filterMap Answer.left?).getLast?

theorem leftService?_cons_of_odd (service : String) (n : Int) (rest : List Answer) :
    leftService? (⟨service, .error (.oddLevel n)⟩ :: rest) =
      some ((leftService? rest).getD service) := by
  have hleft : Answer.left? ⟨service, .error (.oddLevel n)⟩ = some service := rfl
  rw [leftService?, List.filterMap_cons_some hleft, List.getLast?_cons]
  rfl

theorem leftService?_cons_of_name {r : Refusal} (h : ∀ n, r ≠ .oddLevel n) (service : String)
    (rest : List Answer) :
    leftService? (⟨service, .error r⟩ :: rest) = leftService? rest := by
  have hleft : Answer.left? ⟨service, .error r⟩ = none := by
    cases r with
    | oddLevel n => exact absurd rfl (h n)
    | unknownThreshold v => rfl
    | unknownLevel name => rfl
  rw [leftService?, List.filterMap_cons_none hleft, leftService?]

/-- Calls that are all refused change the service at most. -/
theorem setUpAll_of_refused {s : Sink} {calls : List Setup}
    (h : ∀ a ∈ s.answers calls, ∃ r, a.granted = .error r) :
    s.setUpAll calls =
      { s with service := (leftService? (s.answers calls)).getD s.service } := by
  induction calls generalizing s with
  | nil => rfl
  | cons c rest ih =>
    rw [answers, List.forall_mem_cons] at h
    obtain ⟨⟨r, hr⟩, hrest⟩ := h
    have hstep := ih hrest
    show (s.setUp c).1.setUpAll rest = _
    rw [hstep, answers]
    -- a call that is refused leaves a service behind or nothing at all
    rcases setUp_cases s c with ⟨n, timestamps, hc⟩ | ⟨n, -, hc⟩ | ⟨r', hc, hname⟩
    · rw [hc] at hr
      cases hr
    · rw [hc, leftService?_cons_of_odd]
      rfl
    · rw [hc, leftService?_cons_of_name hname]

/-- Behind a call that succeeded and others that were refused the levels are those of the call
that succeeded, and the service is its own or that of a call refused for its level. -/
theorem setUpAll_of_answers {s : Sink} {calls : List Setup} {before after : List Answer}
    {service : String} {n : Int}
    (h : s.answers calls = before ++ ⟨service, .ok n⟩ :: after)
    (hafter : ∀ a ∈ after, ∃ r, a.granted = .error r) :
    ∃ timestamps, s.setUpAll calls =
      ⟨(leftService? after).getD service, timestamps, min n levelCritical, n⟩ := by
  induction before generalizing s calls with
  | nil =>
    rcases calls with - | ⟨c, rest⟩
    · cases h
    · rw [answers, List.nil_append, List.cons.injEq, Answer.mk.injEq] at h
      obtain ⟨⟨rfl, hgranted⟩, rfl⟩ := h
      -- this call was granted, so it was the one that set everything up anew
      rcases setUp_cases s c with ⟨m, timestamps, hc⟩ | ⟨m, -, hc⟩ | ⟨r, hc, -⟩
      · rw [hc] at hgranted
        obtain rfl := Except.ok.inj hgranted
        refine ⟨timestamps, ?_⟩
        show (s.setUp c).1.setUpAll rest = _
        rw [setUpAll_of_refused hafter, hc]
      · rw [hc] at hgranted
        cases hgranted
      · rw [hc] at hgranted
        cases hgranted
  | cons a before ih =>
    rcases calls with - | ⟨c, rest⟩
    · cases h
    · rw [answers, List.cons_append, List.cons.injEq] at h
      -- the sink after the first call answers the others in the same way
      show ∃ timestamps, (s.setUp c).1.setUpAll rest = _
      exact ih h.2

/-! ### Events -/

/-- The two filters act as one: the first one lets everything through that the second does. -/
theorem admits_iff {service : String} {timestamps : Bool} {n level : Int} :
    (Sink.mk service timestamps (min n levelCritical) n).admits level = true ↔ n ≤ level := by
  rw [admits, Bool.and_eq_true, decide_eq_true_iff, decide_eq_true_iff]
  constructor
  · rintro ⟨-, h⟩
    exact h
  · intro h
    exact ⟨Int.le_trans (Int.min_le_left n levelCritical) h, h⟩

/-- A record has the service that is bound or that the event brings, and else that of the sink. -/
theorem get?_record_service (s : Sink) (bound : Table) (e : Event) (logger now : String) :
    Table.get? (s.record bound e logger now) "service" =
      some ((Table.get? (overlaid bound e.fields) "service").getD (.text s.service)) := by
  -- the event, its level and the logger are other keys than the service
  have hbody : Table.get? (overlaid (overlaid bound e.fields)
        [("event", .text e.name), ("level", .text e.severity.name), ("logger", .text logger)])
        "service" = Table.get? (overlaid bound e.fields) "service" := by
    show Table.get? (Table.put (Table.put (Table.put _ "event" _) "level" _) "logger" _) _ = _
    rw [Table.get?_put, if_neg (by decide), Table.get?_put, if_neg (by decide), Table.get?_put,
      if_neg (by decide)]
  have htime (t : Table) : Table.get? (if s.timestamps then Table.put t "timestamp" (.text now)
      else t) "service" = Table.get? t "service" := by
    split
    · rw [Table.get?_put, if_neg (by decide)]
    · rfl
  rw [record, htime]
  rcases hheld : Table.get? (overlaid bound e.fields) "service" with - | v
  · rw [hheld] at hbody
    simp only [hbody]
    rw [Table.get?_put, if_pos rfl]
    rfl
  · rw [hheld] at hbody
    simp only [hbody]
    rfl

/-- Behind calls of which the last that succeeded asked for a service and got a level, an event is
written if and only if it is at least of this level, and its record has the service that it brings
or that is bound, and else that of the call, unless a later call was refused for its level.  A call
that is refused changes nothing, unless it is refused for its level, and then the service only. -/
theorem write_of_answers {s : Sink} {calls : List Setup} {before after : List Answer}
    {service : String} {n : Int}
    (h : s.answers calls = before ++ ⟨service, .ok n⟩ :: after)
    (hafter : ∀ a ∈ after, ∃ r, a.granted = .error r) :
    (∀ bound e logger now,
      (s.setUpAll calls).write bound e logger now =
        (if n ≤ e.severity.level then [(s.setUpAll calls).record bound e logger now] else []) ∧
      Table.get? ((s.setUpAll calls).record bound e logger now) "service" =
        some ((Table.get? (overlaid bound e.fields) "service").getD
          (.text ((leftService? after).getD service)))) ∧
    ∀ (t : Sink) (c : Setup) (r : Refusal), (t.setUp c).2 = .error r →
      (t.setUp c).1 = t ∨
        ((∃ m, m ∉ standardLevels ∧ r = .oddLevel m) ∧
          (t.setUp c).1 = { t with service := c.service t }) := by
  constructor
  · intro bound e logger now
    obtain ⟨timestamps, hsink⟩ := setUpAll_of_answers h hafter
    constructor
    · rw [write, hsink]
      by_cases hlevel : n ≤ e.severity.level
      · rw [if_pos (admits_iff.mpr hlevel), if_pos hlevel]
      · rw [if_neg (mt admits_iff.mp hlevel), if_neg hlevel]
    · rw [get?_record_service, hsink]
  · intro t c r hr
    -- a call that is refused did nothing, or it set the service before the level was found odd
    rcases setUp_cases t c with ⟨m, timestamps, hc⟩ | ⟨m, hodd, hc⟩ | ⟨r', hc, -⟩
    · rw [hc] at hr
      cases hr
    · rw [hc] at hr ⊢
      exact .inr ⟨⟨m, hodd, (Except.error.inj hr).symm⟩, rfl⟩
    · rw [hc]
      exact .inl rfl

/-- Behind a call for warnings one is refused for its name and one for its level. -/
theorem write_of_answers_importer :
    initial.answers [.direct (.named "warning") "index" false,
        .direct (.named "verbose") "worker" true, .direct (.numbered 15) "importer" true] =
      [⟨"index", .ok 30⟩, ⟨"worker", .error (.unknownLevel "verbose")⟩,
        ⟨"importer", .error (.oddLevel 15)⟩] ∧
    (∀ a ∈ ([⟨"worker", .error (.unknownLevel "verbose")⟩,
        ⟨"importer", .error (.oddLevel 15)⟩] : List Answer), ∃ r, a.granted = .error r) ∧
    let s := initial.setUpAll [.direct (.named "warning") "index" false,
      .direct (.named "verbose") "worker" true, .direct (.numbered 15) "importer" true]
    s.write [] ⟨.info, "started", []⟩ "app" "now" = [] ∧
    s.write [] ⟨.error, "stopped", []⟩ "app" "now" =
      [s.record [] ⟨.error, "stopped", []⟩ "app" "now"] ∧
    Table.get? (s.record [] ⟨.error, "stopped", []⟩ "app" "now") "service" =
      some (.text "importer") := by
  have h : initial.answers [.direct (.named "warning") "index" false,
      .direct (.named "verbose") "worker" true, .direct (.numbered 15) "importer" true] =
      [] ++ ⟨"index", .ok 30⟩ :: [⟨"worker", .error (.unknownLevel "verbose")⟩,
        ⟨"importer", .error (.oddLevel 15)⟩] := rfl
  have hafter : ∀ a ∈ ([⟨"worker", .error (.unknownLevel "verbose")⟩,
      ⟨"importer", .error (.oddLevel 15)⟩] : List Answer), ∃ r, a.granted = .error r := by
    simp
  have hevent := (write_of_answers h hafter).1
  refine ⟨h, hafter, ?_, ?_, ?_⟩
  · exact (hevent [] ⟨.info, "started", []⟩ "app" "now").1
  · exact (hevent [] ⟨.error, "stopped", []⟩ "app" "now").1
  · exact (hevent [] ⟨.error, "stopped", []⟩ "app" "now").2

/-- A call that is refused for its level has put its service in the place of that of the call
before it. -/
theorem write_restamped :
    initial.answers [.direct (.numbered 20) "index" false,
        .direct (.numbered 15) "importer" false] =
      [⟨"index", .ok 20⟩, ⟨"importer", .error (.oddLevel 15)⟩] ∧
    (initial.setUpAll [.direct (.numbered 20) "index" false,
        .direct (.numbered 15) "importer" false]).write [] ⟨.info, "started", []⟩ "app" "" =
      [[("event", .text "started"), ("level", .text "info"), ("logger", .text "app"),
        ("service", .text "importer")]] :=
  ⟨rfl, rfl⟩

end Sink

end Log

end LayeredSettings
