/-
LayeredSettings/Proofs/Requests.lean

A handle in the hands of one caller, request after request.

The reference is a document that nobody guards: a write is the assignments of its
edits in order, a load or a reload is the document of a resolution, and a request
that fails leaves the document as it is (`Use.onDocument`, `Request.onDocument`).

On an idle handle a request does what it does on the document, and leaves the handle
idle (`Use.onHandle_of`, `Request.onHandle_of`).  Main result:
`Handle.trace_eq_reference`.  This goes on for any run of requests, so none of them
finds the lock taken.
-/
import LayeredSettings.Proofs.Service

namespace LayeredSettings

namespace Handle

variable {α : Type}

/-! ### Requests -/

/-- What is asked of a handle. -/
inductive Use (α : Type) where
  | replace (d : Document)
  | reload (files : Files) (source : Source) (environment : Environment)
  | write (edits : List (Path × Value)) (giveUp : Option String)
  | read (f : Document → Except Stop α)

/-- What is asked of the owner of a handle. -/
inductive Request (α : Type) where
  | new (d : Document)
  | load (files : Files) (source : Source) (environment : Environment)
  | use (u : Use α)

/-- What becomes of a request; without a handle there is nothing to use. -/
inductive Response (α : Type) where
  | done
  | resolved (d : Document)
  | value (a : α)
  | failed (why : Stop)
  | absent
  deriving DecidableEq

/-- The response to a request that may fail. -/
def Response.of {β : Type} (succeeded : β → Response α) : Except Stop β → Response α
  | .ok b => succeeded b
  | .error why => .failed why

/-- Uses a handle. -/
def Use.onHandle (h : Handle) : Use α → Handle × Response α
  | .replace d => ((h.replace d).1, .of (fun _ => .done) (h.replace d).2.outcome)
  | .reload files source environment =>
      ((h.reload files source environment).1,
        .of .resolved (h.reload files source environment).2.outcome)
  | .write edits giveUp => ((h.write edits giveUp).1, .of (fun _ => .done) (h.write edits giveUp).2)
  | .read f => ((h.inspect f).1, .of .value (h.inspect f).2)

/-- Serves a request, with the handle that is there. -/
def Request.onHandle (h? : Option Handle) : Request α → Option Handle × Response α
  | .new d => (some (.of d), .done)
  | .load files source environment =>
      match (Handle.load files source environment).outcome with
      | .ok h => (some h, .done)
      | .error f => (h?, .failed (.failed f))
  | .use u =>
      match h? with
      | some h => (some (u.onHandle h).1, (u.onHandle h).2)
      | none => (none, .absent)

/-- The handle after each request, and the response. -/
def trace (h? : Option Handle) : List (Request α) → List (Option Handle × Response α)
  | [] => []
  | request :: rest => request.onHandle h? :: trace (request.onHandle h?).1 rest

/-! ### The reference -/

/-- Validated assignments, one after the other. -/
def assignAll (edits : List (Path × Value)) (d : Document) : Except Schema.Refusal Document :=
  edits.foldlM (fun d e => Settings.schema.assign d e.1 e.2) d

/-- What using a handle is to make of its document. -/
def Use.onDocument (d : Document) : Use α → Document × Response α
  | .replace e => (e, .done)
  | .reload files source environment =>
      match (resolve files source environment).outcome with
      | .ok r => (r.document, .resolved r.document)
      | .error f => (d, .failed (.failed f))
  | .write edits giveUp =>
      match assignAll edits d, giveUp with
      | .ok e, none => (e, .done)
      | .ok _, some message => (d, .failed (.abandoned message))
      | .error r, _ => (d, .failed (.refused r))
  | .read f => (d, .of .value (f d))

/-- What a request is to make of the document that is there. -/
def Request.onDocument (d? : Option Document) : Request α → Option Document × Response α
  | .new d => (some d, .done)
  | .load files source environment =>
      match (resolve files source environment).outcome with
      | .ok r => (some r.document, .done)
      | .error f => (d?, .failed (.failed f))
  | .use u =>
      match d? with
      | some d => (some (u.onDocument d).1, (u.onDocument d).2)
      | none => (none, .absent)

/-- The document after each request, and the response. -/
def reference (d? : Option Document) : List (Request α) → List (Option Document × Response α)
  | [] => []
  | request :: rest => request.onDocument d? :: reference (request.onDocument d?).1 rest

/-! ### One request -/

theorem edit_eq_assignAll (edits : List (Path × Value)) (d : Document) :
    edit edits d = (assignAll edits d).mapError .refused := by
  induction edits generalizing d with
  | nil => rfl
  | cons e rest ih =>
    simp only [edit, assignAll, List.foldlM_cons]
    rcases Settings.schema.assign d e.1 e.2 with r | d'
    · rfl
    · exact ih d'

theorem replace_of (d e : Document) :
    (of d).replace e =
      (of e,
        Run.emit .info "config_replaced" [("schema_version", .text (Settings.version e))]) := by
  simp only [replace, holding_of]

/-- Using an idle handle leaves it idle and does to its document what the reference does. -/
theorem Use.onHandle_of (u : Use α) (d : Document) :
    u.onHandle (of d) = (of (u.onDocument d).1, (u.onDocument d).2) := by
  cases u with
  | replace e =>
    simp only [onHandle, replace_of]
    rfl
  | reload files source environment =>
    -- the lock is taken only once the resolution has succeeded
    simp only [onHandle, Handle.reload, onDocument]
    rcases resolve files source environment with ⟨events, f | r⟩
    · rfl
    · simp only [replace_of]
      rfl
  | write edits giveUp =>
    simp only [onHandle, Handle.write, holding_of, onDocument, edit_eq_assignAll]
    rcases assignAll edits d with r | e
    · rfl
    · rcases giveUp with - | message <;> rfl
  | read f =>
    simp only [onHandle, inspect, holding_of]
    rfl

theorem Request.onHandle_of (request : Request α) (d? : Option Document) :
    request.onHandle (d?.map of) =
      ((request.onDocument d?).1.map of, (request.onDocument d?).2) := by
  cases request with
  | new d => rfl
  | load files source environment =>
    simp only [onHandle, Handle.load, onDocument, Run.bind_eq, Run.bind]
    rcases (resolve files source environment).outcome with f | r <;> rfl
  | use u =>
    -- without a handle there is nothing to use
    rcases d? with - | d
    · rfl
    · simp only [onHandle, onDocument, Option.map_some, Use.onHandle_of]

/-! ### Runs -/

/-- From an idle handle, or from none, every handle on the way is idle. -/
theorem trace_of (requests : List (Request α)) (d? : Option Document) :
    trace (d?.map of) requests =
      (reference d? requests).map fun e => (e.1.map of, e.2) := by
  induction requests generalizing d? with
  | nil => rfl
  | cons request rest ih =>
    simp only [trace, reference, List.map_cons, Request.onHandle_of, ih]

/-- **Requests are all or nothing.**  After each request of a run the handle has the document of the
reference, and the response is that of the reference.  The lock is free then, so that whatever is
asked for next is not held up. -/
theorem trace_eq_reference (requests : List (Request α)) :
    (trace none requests).map (fun e => (e.1.map Handle.document, e.2)) =
        reference none requests ∧
      ∀ e ∈ trace none requests, ∀ h, e.1 = some h →
        h.lock = Lock.free ∧ ∀ mode, (h.lock.step caller (.acquire mode)).2.1 = .done := by
  -- each handle of the trace is a fresh one on the document of the reference
  have hall : trace none requests = (reference none requests).map fun e => (e.1.map of, e.2) :=
    trace_of requests none
  have hdocument : ∀ d? : Option Document, (d?.map of).map Handle.document = d? := by
    rintro (- | d) <;> rfl
  rw [hall]
  constructor
  · simp only [List.map_map, Function.comp_def, hdocument, List.map_id']
  · intro e he h hh
    obtain ⟨x, -, rfl⟩ := List.mem_map.1 he
    obtain ⟨d, -, rfl⟩ := Option.map_eq_some_iff.1 hh
    refine ⟨rfl, fun mode => ?_⟩
    cases mode <;> rfl

-- the first edit of the second write is undone with the one that fails
example :
    (trace none [.new Settings.initial,
      .use (.write [(["website", "name"], .text "Index")] none),
      .use (.write [(["website", "name"], .text "Other"), (["website", "nope"], .null)] none),
      .use (.read fun d => .ok (Settings.siteName d))]).map (·.2)
    = [.done, .done, .failed (.refused (.invalid "Website" [⟨["nope"], .unknownField⟩])),
      .value "Index"] := by
  decide +kernel

end Handle

end LayeredSettings
