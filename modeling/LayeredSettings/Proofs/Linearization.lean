/-
LayeredSettings/Proofs/Linearization.lean

A handle in use by many clients answers as if each operation were done alone.

The operations that write have their turns in the order in which they got the lock
(`Service.turns`); a turn is committed when its document is put in place, and
leaves nothing behind otherwise.  `Service.sequential` does the committed
operations alone, one after the other.

A client that holds the lock has got it at some moment, and no turn has begun or
been committed since (`Service.Since`): whoever else could do so would hold the
lock to write.  So the document that it works on is the one that the turns before
that moment have left, and a draft is what its edits have made of this document
(`Service.Fits`).

Main result: `Service.linearizable`.
-/
import LayeredSettings.Proofs.Service

namespace LayeredSettings

namespace Service

open Handle (Operation Answer)

variable {d d₀ : Document} {s s' : Service} {a b : Actor} {op : Operation} {answer : Answer}
  {deed : Deed} {deeds past earlier : Record} {stage : Stage}

/-! ### Turns -/

/-- An operation that got the lock to write, and whether its document was put in place. -/
structure Turn where
  actor : Actor
  op : Operation
  installed : Bool

/-- The latest turn of a client committed. -/
def commit (a : Actor) : List Turn → List Turn
  | [] => []
  | t :: ts => if t.actor = a then { t with installed := true } :: ts else t :: commit a ts

/-- The turns, the latest to get the lock first. -/
def turns : Record → List Turn
  | [] => []
  | .acquires a op :: past =>
      if op.mode = .write then ⟨a, op, false⟩ :: turns past else turns past
  | .ends a .installed :: past => commit a (turns past)
  | _ :: past => turns past

/-- The committed operations, in the order in which they got the lock. -/
def committed (past : Record) : List Operation :=
  (((turns past).filter (·.installed)).map (·.op)).reverse

/-- Operations done alone, one after the other. -/
def sequential (d : Document) (ops : List Operation) : Handle :=
  ops.foldl (fun h op => (op.alone h).1) (Handle.of d)

theorem sequential_append_singleton (d : Document) (ops : List Operation) (op : Operation) :
    sequential d (ops ++ [op]) = (op.alone (sequential d ops)).1 := by
  rw [sequential, List.foldl_append]
  rfl

theorem exists_sequential (d : Document) (ops : List Operation) :
    ∃ e, sequential d ops = Handle.of e := by
  induction ops using List.reverseRecOn with
  | nil => exact ⟨d, rfl⟩
  | append_singleton ops op ih =>
      obtain ⟨e, he⟩ := ih
      obtain ⟨e', answer, halone, -⟩ := Handle.exists_alone op e
      exact ⟨e', by rw [sequential_append_singleton, he, halone]⟩

theorem committed_acquires : committed (.acquires a op :: past) = committed past := by
  by_cases hmode : op.mode = .write <;> simp [committed, turns, hmode]

theorem turns_ends (h : answer ≠ .installed) : turns (.ends a answer :: past) = turns past := by
  cases answer with
  | copied => rfl
  | installed => exact absurd rfl h
  | dropped => rfl

theorem committed_congr {past' : Record} (h : turns past = turns past') :
    committed past = committed past' := by
  rw [committed, h, committed]

/-! ### Since a client got the lock -/

/-- Something happened, and since then a client has not got the lock. -/
def Followed (past : Record) (a : Actor) (deed : Deed) (earlier : Record) : Prop :=
  ∃ mid, past = mid ++ deed :: earlier ∧ ∀ op, .acquires a op ∉ mid

/-- A client has begun an operation, and has not got the lock since. -/
def Asks (past : Record) (a : Actor) (op : Operation) : Prop :=
  ∃ earlier, Followed past a (.begins a op) earlier

/-- A client got the lock, and no turn has begun or been committed since. -/
def Since (past : Record) (a : Actor) (op : Operation) : Prop :=
  ∃ earlier, Followed past a (.acquires a op) earlier ∧
    turns past = turns (.acquires a op :: earlier)

theorem followed_cons : Followed (deed :: past) a deed past :=
  ⟨[], rfl, fun _ => List.not_mem_nil⟩

theorem Followed.later (h : Followed past a deed earlier)
    (hdeeds : ∀ op, .acquires a op ∉ deeds) : Followed (deeds ++ past) a deed earlier := by
  obtain ⟨mid, rfl, hmid⟩ := h
  refine ⟨deeds ++ mid, (List.append_assoc ..).symm, fun op hmem => ?_⟩
  exact (List.mem_append.1 hmem).elim (hdeeds op) (hmid op)

theorem Asks.later (h : Asks past a op) (hdeeds : ∀ op', .acquires a op' ∉ deeds) :
    Asks (deeds ++ past) a op := by
  obtain ⟨earlier, hbegins⟩ := h
  exact ⟨earlier, hbegins.later hdeeds⟩

theorem Since.later (h : Since past a op) (hdeeds : ∀ op', .acquires a op' ∉ deeds)
    (hturns : turns (deeds ++ past) = turns past) : Since (deeds ++ past) a op := by
  obtain ⟨earlier, hgets, hsame⟩ := h
  exact ⟨earlier, hgets.later hdeeds, hturns.trans hsame⟩

theorem since_acquires : Since (.acquires a op :: past) a op :=
  ⟨past, followed_cons, rfl⟩

/-- Nothing was committed between a client's getting the lock and now. -/
theorem Since.committed_eq (h : Since past a op) :
    ∃ earlier, Followed past a (.acquires a op) earlier ∧ committed past = committed earlier := by
  obtain ⟨earlier, hgets, hturns⟩ := h
  exact ⟨earlier, hgets, (committed_congr hturns).trans committed_acquires⟩

/-- A turn is committed after all that were committed before. -/
theorem Since.committed_ends (h : Since past a op) (hmode : op.mode = .write) :
    committed (.ends a .installed :: past) = committed past ++ [op] := by
  obtain ⟨earlier, -, hturns⟩ := h
  have hnow : turns past = ⟨a, op, false⟩ :: turns earlier := by
    rw [hturns, turns, if_pos hmode]
  have hthen : turns (.ends a .installed :: past) = ⟨a, op, true⟩ :: turns earlier := by
    rw [turns, hnow, commit, if_pos rfl]
  simp [committed, hnow, hthen]

/-! ### How deeds are accounted for -/

/-- What a deed owes to those before it.  The end of an operation is the one that it comes to
alone, after the operations that were committed before its client got the lock; it adds itself
to these if its document is put in place.  An interrupted client has not got the lock. -/
def Accounted (d₀ : Document) (past : Record) : Deed → Prop
  | .ends a answer =>
      ∃ op earlier, Followed past a (.acquires a op) earlier ∧ committed past = committed earlier ∧
        op.alone (sequential d₀ (committed earlier)) =
          (sequential d₀ (committed (.ends a answer :: past)), answer) ∧
        committed (.ends a answer :: past) =
          if answer = .installed then committed earlier ++ [op] else committed earlier
  | .interrupted a => ∃ op, Asks past a op
  | _ => True

/-- Every deed is accounted for. -/
def AllAccounted (d₀ : Document) : Record → Prop
  | [] => True
  | deed :: past => Accounted d₀ past deed ∧ AllAccounted d₀ past

theorem AllAccounted.of_append {later : Record}
    (h : AllAccounted d₀ (later ++ deed :: past)) : Accounted d₀ past deed := by
  induction later with
  | nil => exact h.1
  | cons first later ih => exact ih h.2

/-- An operation ends as it does alone. -/
theorem Since.ends (h : Since past a op)
    (hdoc : sequential d₀ (committed past) = Handle.of d) {d' : Document}
    (halone : op.alone (Handle.of d) = (Handle.of d', answer))
    (hmode : answer = .installed → op.mode = .write) (hsame : answer ≠ .installed → d' = d) :
    Accounted d₀ past (.ends a answer) ∧
      sequential d₀ (committed (.ends a answer :: past)) = Handle.of d' := by
  obtain ⟨earlier, hgets, hcommitted⟩ := h.committed_eq
  -- the operation adds itself if it is installed, and nothing otherwise
  have hafter : committed (.ends a answer :: past) =
      if answer = .installed then committed earlier ++ [op] else committed earlier := by
    split
    · rename_i hinstalled
      rw [hinstalled, h.committed_ends (hmode hinstalled), hcommitted]
    · rename_i hdropped
      rw [committed_congr (turns_ends hdropped), hcommitted]
  have hbefore : sequential d₀ (committed earlier) = Handle.of d := hcommitted ▸ hdoc
  have hnow : sequential d₀ (committed (.ends a answer :: past)) = Handle.of d' := by
    rw [hafter]
    split
    · rw [sequential_append_singleton, hbefore, halone]
    · rename_i hdropped
      rw [hbefore, hsame hdropped]
  refine ⟨⟨op, earlier, hgets, hcommitted, ?_, hafter⟩, hnow⟩
  rw [hbefore, hnow, halone]

/-! ### Stages and records -/

/-- What is on record about a client at some stage. -/
def Fits (d : Document) (past : Record) (a : Actor) : Stage → Prop
  | .entering op => Asks past a op
  | .inside op => Since past a op
  | .drafting draft edits giveUp =>
      ∃ script : Handle.Script, Since past a (.write script) ∧
        Handle.edit (script d).1 d = Handle.edit edits draft ∧ (script d).2 = giveUp
  | _ => True

/-- What is on record stays right while others do not touch what a holder relies on. -/
theorem Fits.later {d' : Document} (h : Fits d past a stage)
    (hdeeds : ∀ op', .acquires a op' ∉ deeds)
    (hkeeps : stage.held? ≠ none → turns (deeds ++ past) = turns past ∧ d' = d) :
    Fits d' (deeds ++ past) a stage := by
  rcases stage with - | op | op | ⟨draft, edits, giveUp⟩ | mode
  · trivial
  · exact Asks.later h hdeeds
  · exact Since.later h hdeeds (hkeeps nofun).1
  · -- the document that the draft was copied from is still in place
    obtain ⟨hturns, rfl⟩ := hkeeps nofun
    obtain ⟨script, hsince, hedit⟩ := h
    exact ⟨script, hsince.later hdeeds hturns, hedit⟩
  · trivial

theorem Change.stage_of_ne (h : Change s a s' deeds) (hb : b ≠ a) : s'.stage b = s.stage b := by
  cases h <;> simp [put, hb]

theorem Change.actor_of_acquires (h : Change s a s' deeds) (hmem : .acquires b op ∈ deeds) :
    b = a := by
  cases h <;> simp_all

/-- An operation that only reads takes no turn. -/
theorem turns_acquires_of_ne (h : op.mode ≠ .write) :
    turns (.acquires a op :: past) = turns past :=
  if_neg h

/-- A step at work that puts no document in place changes neither turns nor documents, and one
that does is a step of a client that may write. -/
theorem Stage.next_cases {d' : Document} {stage' : Stage} {answer : Option Answer}
    (h : stage.next d = some (d', stage', answer)) :
    (answer ≠ some .installed ∧ d' = d) ∨
      (answer = some .installed ∧ stage'.held? = some .write) := by
  revert h
  -- one case for each line of the definition; only two of them answer that a document was installed
  fun_cases Stage.next d stage <;> rintro ⟨⟩
  · exact .inl ⟨by simp, rfl⟩
  · exact .inr ⟨rfl, rfl⟩
  · exact .inl ⟨by simp, rfl⟩
  · exact .inl ⟨by simp, rfl⟩
  · exact .inl ⟨by simp, rfl⟩
  · exact .inr ⟨rfl, rfl⟩
  · exact .inl ⟨by simp, rfl⟩

/-- Turns and documents change only for a client that holds the lock to write. -/
theorem Change.keeps (h : Change s a s' deeds) (past : Record)
    (hheld : (s'.stage a).held? ≠ some .write) :
    turns (deeds ++ past) = turns past ∧ s'.document = s.document := by
  -- a client that gets the lock holds it in the mode of its operation
  have hreads : ∀ {op : Operation} {l : Lock},
      ((s.put l a (.inside op)).stage a).held? ≠ some .write → op.mode ≠ .write := by
    intro op l hheld hwrite
    simp [Stage.held?, hwrite] at hheld
  cases h with
  | arrives => exact ⟨turns_acquires_of_ne (hreads hheld), rfl⟩
  | enters => exact ⟨turns_acquires_of_ne (hreads hheld), rfl⟩
  | @works d' stage' answer hnext =>
      -- putting a document in place is left to those that may write
      rcases Stage.next_cases hnext with ⟨hdropped, rfl⟩ | ⟨-, hwrite⟩
      · refine ⟨?_, rfl⟩
        rcases answer with - | answer
        · rfl
        · exact turns_ends fun heq => hdropped (congrArg some heq)
      · simp [put, hwrite] at hheld
  | queues => exact ⟨rfl, rfl⟩
  | parks => exact ⟨rfl, rfl⟩
  | interrupted => exact ⟨rfl, rfl⟩
  | leaves => exact ⟨rfl, rfl⟩

/-- What is on record about a service: who does what, how each deed came about, and that the
document is what the committed operations have made of the first one. -/
structure Kept (d₀ : Document) (s : Service) (past : Record) : Prop where
  fits : ∀ a, Fits s.document past a (s.stage a)
  accounted : AllAccounted d₀ past
  document : sequential d₀ (committed past) = Handle.of s.document

theorem kept_start (d : Document) : Kept d (start d) [] :=
  ⟨fun _ => trivial, trivial, rfl⟩

/-- An operation that comes to its end is on record as done. -/
theorem Kept.ends {d' : Document} {stage : Stage} (h : Kept d₀ s past) (hsince : Since past a op)
    (halone : op.alone (Handle.of s.document) = (Handle.of d', answer))
    (hmode : answer = .installed → op.mode = .write)
    (hsame : answer ≠ .installed → d' = s.document) (hstage : stage = .leaving op.mode) :
    Fits d' (.ends a answer :: past) a stage ∧ AllAccounted d₀ (.ends a answer :: past) ∧
      sequential d₀ (committed (.ends a answer :: past)) = Handle.of d' := by
  obtain ⟨hend, hdocument⟩ := hsince.ends h.document halone hmode hsame
  subst hstage
  exact ⟨trivial, ⟨hend, h.accounted⟩, hdocument⟩

/-- A step at work is on record. -/
theorem Kept.works {d' : Document} {stage : Stage} {answer : Option Answer}
    (h : Kept d₀ s past) (hnext : (s.stage a).next s.document = some (d', stage, answer)) :
    let deeds := (answer.map (.ends a ·)).toList
    Fits d' (deeds ++ past) a stage ∧ AllAccounted d₀ (deeds ++ past) ∧
      sequential d₀ (committed (deeds ++ past)) = Handle.of d' := by
  have hfits := h.fits a
  rcases hstage : s.stage a with - | op | op | ⟨draft, edits, giveUp⟩ | mode <;>
    rw [hstage] at hfits hnext
  · cases hnext
  · cases hnext
  · rcases op with - | e | script
    · cases hnext
      exact h.ends hfits (Handle.alone_snapshot _) nofun (fun _ => rfl) rfl
    · cases hnext
      exact h.ends hfits (Handle.alone_replace _ _) (fun _ => rfl) nofun rfl
    · -- the draft is a copy of the document, and all edits are still to be made
      cases hnext
      exact ⟨⟨script, hfits, rfl, rfl⟩, h.accounted, h.document⟩
  · obtain ⟨script, hsince, hedit, hgiveUp⟩ := hfits
    rcases edits with - | ⟨⟨path, v⟩, rest⟩
    · rcases giveUp with - | message
      · cases hnext
        exact h.ends hsince (Handle.alone_write_of_ok hedit hgiveUp) (fun _ => rfl) nofun rfl
      · cases hnext
        exact h.ends hsince (Handle.alone_write_of_giveUp hedit hgiveUp) nofun (fun _ => rfl) rfl
    · rcases e : Settings.schema.assign draft path v with r | next
      · simp only [Stage.next, e] at hnext
        simp only [Handle.edit, e] at hedit
        cases hnext
        exact h.ends hsince (Handle.alone_write_of_error hedit) nofun (fun _ => rfl) rfl
      · -- one edit is made, and the others are still to be made
        simp only [Stage.next, e] at hnext
        simp only [Handle.edit, e] at hedit
        cases hnext
        exact ⟨⟨script, hsince, hedit, hgiveUp⟩, h.accounted, h.document⟩
  · cases hnext

/-- What changes for a client is on record for this client: where it stands now, and what it has
done. -/
theorem Kept.own (h : Kept d₀ s past) (hchange : Change s a s' deeds) :
    Fits s'.document (deeds ++ past) a (s'.stage a) ∧ AllAccounted d₀ (deeds ++ past) ∧
      sequential d₀ (committed (deeds ++ past)) = Handle.of s'.document := by
  have hfits := h.fits a
  cases hchange with
  | arrives =>
      rw [stage_put_self]
      refine ⟨since_acquires, ⟨trivial, trivial, h.accounted⟩, ?_⟩
      exact (congrArg _ committed_acquires).trans h.document
  | queues =>
      rw [stage_put_self]
      exact ⟨⟨past, followed_cons⟩, ⟨trivial, h.accounted⟩, h.document⟩
  | enters =>
      rw [stage_put_self]
      refine ⟨since_acquires, ⟨trivial, h.accounted⟩, ?_⟩
      exact (congrArg _ committed_acquires).trans h.document
  | parks hready hstage =>
      rw [stage_put_self]
      rw [hstage] at hfits
      exact ⟨hfits, h.accounted, h.document⟩
  | interrupted hstage =>
      -- the client was still asking for the lock
      rw [stage_put_self]
      rw [hstage] at hfits
      exact ⟨trivial, ⟨⟨_, hfits⟩, h.accounted⟩, h.document⟩
  | works hnext => simpa [put] using h.works hnext
  | leaves =>
      rw [stage_put_self]
      exact ⟨trivial, ⟨trivial, h.accounted⟩, h.document⟩

/-- What changes for a client is on record, if the client that may write is the only one at
work afterwards. -/
theorem Kept.change {holders : Holders} (h : Kept d₀ s past) (hchange : Change s a s' deeds)
    (hguarded : s'.Guarded holders) : Kept d₀ s' (deeds ++ past) := by
  obtain ⟨hfits, haccounted, hdocument⟩ := h.own hchange
  refine ⟨fun b => ?_, haccounted, hdocument⟩
  rcases eq_or_ne b a with rfl | hb
  · exact hfits
  · have hstage := hchange.stage_of_ne hb
    rw [hstage]
    refine (h.fits b).later (fun op hmem => hb (hchange.actor_of_acquires hmem)) fun hheld => ?_
    -- the other client holds the lock, so this one does not hold it to write
    refine hchange.keeps past fun hwrite => hb ?_
    obtain ⟨mode, hmode⟩ := Option.ne_none_iff_exists'.1 hheld
    exact hguarded.alone hwrite (hstage ▸ hmode)

/-- The record of every run. -/
theorem kept_run (d : Document) (schedule : List Action) :
    Kept d (run d schedule).1 (run d schedule).2 := by
  induction schedule with
  | nil => exact kept_start d
  | cons action earlier ih =>
      obtain ⟨holders, hguarded⟩ := guarded_run d (action :: earlier)
      rw [run_cons] at hguarded ⊢
      rcases act_cases (run d earlier).1 action with hsame | ⟨a, hchange⟩
      · rw [hsame]
        exact ih
      · exact ih.change hchange hguarded

/-- **Linearizability.**  However the steps of any number of clients follow one another, the
document is what the committed operations make of the first one, one after the other in the order
in which they got the lock.  An operation that has come to its end did so as it does alone after
those that were committed before its client got the lock, and nothing was committed in between;
it is the next committed operation if its document was put in place, and nothing otherwise.  A
client that was interrupted had not got the lock. -/
theorem linearizable (d : Document) (schedule : List Action) :
    let (s, past) := run d schedule
    sequential d (committed past) = Handle.of s.document ∧
    (∀ later a answer before, past = later ++ .ends a answer :: before →
      ∃ op earlier, Followed before a (.acquires a op) earlier ∧
        committed before = committed earlier ∧
        op.alone (sequential d (committed earlier)) =
          (sequential d (committed (.ends a answer :: before)), answer) ∧
        committed (.ends a answer :: before) =
          (if answer = .installed then committed earlier ++ [op] else committed earlier) ∧
        ∀ e, answer = .copied e → sequential d (committed earlier) = Handle.of e) ∧
    (∀ later a before, past = later ++ .interrupted a :: before →
      ∃ op earlier, Followed before a (.begins a op) earlier ∧
        committed (.interrupted a :: before) = committed before) := by
  obtain ⟨-, haccounted, hdocument⟩ := kept_run d schedule
  refine ⟨hdocument, fun later a answer before hpast => ?_, fun later a before hpast => ?_⟩
  · rw [hpast] at haccounted
    -- the record keeps for each answer the acquisition that it goes back to
    obtain ⟨op, earlier, hgets, hbetween, halone, hafter⟩ := haccounted.of_append
    refine ⟨op, earlier, hgets, hbetween, halone, hafter, fun e hcopied => ?_⟩
    -- a copy is taken of the document of the sequential store at that moment
    obtain ⟨found, hfound⟩ := exists_sequential d (committed earlier)
    obtain ⟨d', answer', halone', hcopy⟩ := Handle.exists_alone op found
    rw [hfound, halone'] at halone
    rw [hfound, hcopy e ((Prod.mk.inj halone).2.trans hcopied)]
  · rw [hpast] at haccounted
    obtain ⟨op, earlier, hbegins⟩ := haccounted.of_append
    exact ⟨op, earlier, hbegins, rfl⟩

/-- A client puts another document in place while a second one waits to copy it out. -/
def handover : List Action :=
  [.work "b", .retry ⟨"b", .read⟩, .leave "a", .work "a", .begin "b" .snapshot,
    .begin "a" (.replace (.text "new"))]

/-- What has happened when the second client is about to copy the document out. -/
def handoverPast : Record :=
  [.acquires "b" .snapshot, .returns "a", .ends "a" .installed, .begins "b" .snapshot,
    .acquires "a" (.replace (.text "new")), .begins "a" (.replace (.text "new"))]

theorem run_handover :
    (run (.text "old") handover).2 = .ends "b" (.copied (.text "new")) :: handoverPast := by
  rfl

/-- The second client copies out what the first one has put in place. -/
theorem linearizable_handover :
    (run (.text "old") handover).2 = [] ++ .ends "b" (.copied (.text "new")) :: handoverPast ∧
    sequential (.text "old") (committed handoverPast) = Handle.of (.text "new") := by
  refine ⟨run_handover, ?_⟩
  obtain ⟨op, earlier, -, hbetween, -, -, hcopied⟩ :=
    (linearizable (.text "old") handover).2.1 [] "b" (.copied (.text "new")) handoverPast
      run_handover
  rw [hbetween]
  exact hcopied (.text "new") rfl

end Service

end LayeredSettings
