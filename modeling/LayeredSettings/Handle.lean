/-
LayeredSettings/Handle.lean

The settings of a running index behind a lock.  Readers share the lock and only
copy out; a writer holds it alone.

Every operation takes the lock for one caller and gives it back (`Handle.holding`),
so an idle lock is idle again afterwards.  A write works on a draft, which takes
the place of the document only if all edits succeed and the caller does not give
up; a reload resolves first and only then puts the result in place.
-/
import LayeredSettings.Lock
import LayeredSettings.Resolution

namespace LayeredSettings

/-- A document and the lock that guards it. -/
structure Handle where
  document : Document
  lock : Lock
  deriving DecidableEq, Inhabited

namespace Handle

/-- Why an operation ends without a result. -/
inductive Stop where
  | failed (f : Failure)
  | refused (r : Schema.Refusal)
  | abandoned (message : String)
  | blocked
  deriving DecidableEq, Inhabited

/-- A handle on a document. -/
def of (d : Document) : Handle := ⟨d, Lock.free⟩

/-! ### Holding the lock -/

/-- The caller of an operation, as an actor of the lock. -/
def caller : Actor := "caller"

/-- Uses the document while the lock is held; what comes out is the document that stays in place
and the result. -/
def holding {α : Type} (h : Handle) (mode : Lock.Mode)
    (use : Document → Document × Except Stop α) : Handle × Except Stop α :=
  match h.lock.step caller (.acquire mode) with
  | (held, .done, _) =>
      let (d, result) := use h.document
      (⟨d, (held.step caller (.release mode)).1⟩, result)
  | (held, _, _) => (⟨h.document, held⟩, .error .blocked)

/-! ### Reading -/

/-- What a function makes of the document. -/
def inspect {α : Type} (h : Handle) (f : Document → Except Stop α) : Handle × Except Stop α :=
  h.holding .read fun d => (d, f d)

/-- A copy of the document. -/
def snapshot (h : Handle) : Handle × Except Stop Document := h.inspect .ok

/-- The name of the website. -/
def siteName (h : Handle) : Handle × Except Stop String :=
  h.inspect fun d => .ok (Settings.siteName d)

/-- The public address of the index, if one is set. -/
def baseUrl? (h : Handle) : Handle × Except Stop (Option String) :=
  h.inspect fun d => .ok (Settings.baseUrl? d)

/-- A handle on one line. -/
def line (h : Handle) : Handle × Except Stop String :=
  h.inspect fun d => .ok ("Configuration(site_name=" ++ Text.quoted (Settings.siteName d) ++ ")")

/-- The part of the document that fields lead to, with secrets masked. -/
def view (h : Handle) (path : Path) : Handle × Except Stop Value :=
  h.inspect fun d =>
    match Settings.schema.project d path with
    | .ok (s, v) => .ok (s.masked v)
    | .error r => .error (.refused r)

/-! ### Writing -/

/-- Puts a document in place of the present one. -/
def replace (h : Handle) (d : Document) : Handle × Run Stop Unit :=
  match h.holding .write fun _ => (d, .ok ()) with
  | (after, .ok ()) =>
      (after, Run.emit .info "config_replaced" [("schema_version", .text (Settings.version d))])
  | (after, .error e) => (after, Run.fail e)

/-- Assignments to fields of a document, one after the other. -/
def edit : List (Path × Value) → Document → Except Stop Document
  | [], d => .ok d
  | (path, v) :: rest, d =>
      match Settings.schema.assign d path v with
      | .ok e => edit rest e
      | .error r => .error (.refused r)

/-- Edits a draft, which takes the place of the document unless an edit fails or the caller gives
up. -/
def write (h : Handle) (edits : List (Path × Value)) (giveUp : Option String) :
    Handle × Except Stop Unit :=
  h.holding .write fun d =>
    match edit edits d, giveUp with
    | .ok draft, none => (draft, .ok ())
    | .ok _, some message => (d, .error (.abandoned message))
    | .error e, _ => (d, .error e)

/-! ### Resolving -/

/-- A handle on the settings of a source and an environment. -/
def load (files : Files) (source : Source) (environment : Environment) : Run Failure Handle := do
  let r ← resolve files source environment
  return of r.document

/-- Puts the settings of a source and an environment in place of the present ones; if they cannot
be resolved, nothing changes. -/
def reload (h : Handle) (files : Files) (source : Source) (environment : Environment) :
    Handle × Run Stop Document :=
  match resolve files source environment with
  | ⟨events, .ok r⟩ =>
      let (after, replaced) := h.replace r.document
      (after, do
        ⟨events, .ok ()⟩
        replaced
        return r.document)
  | ⟨events, .error f⟩ =>
      (h, do
        ⟨events, .ok ()⟩
        Run.emit .warning "config_reload_failed" [("exc_info", .boolean true)]
        Run.fail (.failed f))

end Handle

end LayeredSettings
