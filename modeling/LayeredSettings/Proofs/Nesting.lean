/-
LayeredSettings/Proofs/Nesting.lean

Programs that bind values in blocks, one inside another.

A block gives its keys back what they were bound to when it began, whatever its
body did to them and however the body ended.  So all that a program can change is
what it binds and unbinds outside of every block over the same key
(`Log.Program.touched`), and a program of blocks alone changes nothing.

The end of one block is `Log.Bindings.get?_exit`; it is the end of the block that
began last, as a body leaves the open blocks as it found them
(`Log.Program.blocks_exec`).  Main result: `Log.Program.exec_block`.
-/
import LayeredSettings.Log.Bindings
import LayeredSettings.Log.Sink
import LayeredSettings.Value.Merge

namespace LayeredSettings

namespace Log

/-! ### Keys of a context -/

namespace Bindings

variable {b : Bindings} {key : String}

theorem get?_assign (t : Table) (key : String) (x : Option Value) (other : String) :
    Table.get? (assign t key x) other = if key = other then x else Table.get? t other := by
  rcases x with - | v
  · have hassign : assign t key none = Table.without t [key] :=
      List.filter_congr fun e _ => by rw [bne, List.contains_cons, List.contains_nil, Bool.or_false]
    rw [hassign, Table.get?_without]
    simp [eq_comm]
  · exact Table.get?_put t key other v

/-- Keys that are not among those assigned keep what they are bound to. -/
theorem get?_assignAll_of_not_mem {values : List (String × Option Value)}
    (h : key ∉ values.map (·.1)) (t : Table) :
    Table.get? (assignAll t values) key = Table.get? t key := by
  induction values generalizing t with
  | nil => rfl
  | cons e rest ih =>
    rw [List.map_cons, List.mem_cons, not_or] at h
    show Table.get? (assignAll (assign t e.1 e.2) rest) key = _
    rw [ih h.2, get?_assign, if_neg (Ne.symm h.1)]

/-- Keys that are each assigned what a function has for them are bound to that. -/
theorem get?_assignAll_map (f : String → Option Value) (values t : Table) (key : String) :
    Table.get? (assignAll t (values.map fun e => (e.1, f e.1))) key =
      if key ∈ Table.keys values then f key else Table.get? t key := by
  induction values generalizing t with
  | nil => rfl
  | cons e rest ih =>
    show Table.get? (assignAll (assign t e.1 (f e.1)) (rest.map fun e => (e.1, f e.1))) key = _
    have hkeys : key ∈ Table.keys (e :: rest) ↔ key = e.1 ∨ key ∈ Table.keys rest :=
      List.mem_cons
    rw [ih, get?_assign]
    -- of several values for one key the last one counts, but they are all the same here
    by_cases hrest : key ∈ Table.keys rest
    · rw [if_pos hrest, if_pos (hkeys.mpr (.inr hrest))]
    · rw [if_neg hrest]
      by_cases hkey : e.1 = key
      · rw [if_pos hkey, if_pos (hkeys.mpr (.inl hkey.symm)), hkey]
      · rw [if_neg hkey, if_neg fun hmem => (hkeys.mp hmem).elim (Ne.symm hkey) hrest]

theorem get?_bind_of_not_mem {values : Table} (h : key ∉ Table.keys values) (b : Bindings) :
    Table.get? (b.bind values).bound key = Table.get? b.bound key := by
  refine get?_assignAll_of_not_mem ?_ b.bound
  rwa [List.map_map]

theorem get?_unbind_of_not_mem {keys : List String} (h : key ∉ keys) (b : Bindings) :
    Table.get? (b.unbind keys).bound key = Table.get? b.bound key := by
  refine get?_assignAll_of_not_mem ?_ b.bound
  rw [List.map_map]
  simpa using h

/-- A block that ends gives its keys back what they were bound to when it began. -/
theorem get?_exit {values : Table} {before : Bindings}
    (h : b.blocks = (before.enter values).blocks) (key : String) :
    Table.get? b.exit.bound key =
      if key ∈ Table.keys values then Table.get? before.bound key
      else Table.get? b.bound key := by
  rw [exit, h]
  exact get?_assignAll_map (Table.get? before.bound) values b.bound key

theorem blocks_exit {values : Table} {before : Bindings}
    (h : b.blocks = (before.enter values).blocks) : b.exit.blocks = before.blocks := by
  rw [exit, h]
  rfl

end Bindings

/-! ### Programs -/

/-- A program that logs, and that binds values for good or in blocks. -/
inductive Program where
  | skip
  | raise
  | log (e : Event) (logger now : String)
  | bind (values : Table)
  | unbind (keys : List String)
  | block (values : Table) (body : Program)
  | seq (first second : Program)
  | attempt (body handler : Program)
  deriving Inhabited

/-- What a program leaves: what is bound, what was written, and whether it raised. -/
structure Ran where
  bindings : Bindings
  records : List Table
  raised : Bool
  deriving DecidableEq

/-- What two programs leave that ran one after the other. -/
def Ran.followedBy (half rest : Ran) : Ran := { rest with records := half.records ++ rest.records }

namespace Program

/-- A program run where events go to a sink. -/
def exec (s : Sink) : Program → Bindings → Ran
  | skip, b => ⟨b, [], false⟩
  | raise, b => ⟨b, [], true⟩
  | log e logger now, b => ⟨b, s.write b.bound e logger now, false⟩
  | bind values, b => ⟨b.bind values, [], false⟩
  | unbind keys, b => ⟨b.unbind keys, [], false⟩
  | block values body, b =>
      -- the block ends even if its body raised, and the exception goes on
      let inside := exec s body (b.enter values)
      { inside with bindings := inside.bindings.exit }
  | seq first second, b =>
      let half := exec s first b
      if half.raised then half else half.followedBy (exec s second half.bindings)
  | attempt body handler, b =>
      let half := exec s body b
      if half.raised then half.followedBy (exec s handler half.bindings) else half

/-- The keys that a program binds or unbinds outside of every block over them. -/
def touched : Program → List String
  | skip => []
  | raise => []
  | log _ _ _ => []
  | bind values => Table.keys values
  | unbind keys => keys
  | block values body => body.touched.filter fun key => key ∉ Table.keys values
  | seq first second => first.touched ++ second.touched
  | attempt body handler => body.touched ++ handler.touched

/-- Whether a program binds values in blocks only. -/
def blocksOnly : Program → Bool
  | skip => true
  | raise => true
  | log _ _ _ => true
  | bind _ => false
  | unbind _ => false
  | block _ body => body.blocksOnly
  | seq first second => first.blocksOnly && second.blocksOnly
  | attempt body handler => body.blocksOnly && handler.blocksOnly

variable (s : Sink)

/-! ### Runs -/

/-- Behind two programs in a row is bound what the first one left, if it raised, and else what the
second one left behind it. -/
theorem exec_seq_cases (first second : Program) (b : Bindings) :
    (exec s (seq first second) b).bindings = (exec s first b).bindings ∨
    (exec s (seq first second) b).bindings =
      (exec s second (exec s first b).bindings).bindings := by
  rw [exec]
  by_cases h : (exec s first b).raised = true
  · exact .inl (by rw [if_pos h])
  · exact .inr (by rw [if_neg h]; rfl)

/-- Behind an attempt is bound what the body left, and if it raised what the handler left behind
it. -/
theorem exec_attempt_cases (body handler : Program) (b : Bindings) :
    (exec s (attempt body handler) b).bindings = (exec s body b).bindings ∨
    (exec s (attempt body handler) b).bindings =
      (exec s handler (exec s body b).bindings).bindings := by
  rw [exec]
  by_cases h : (exec s body b).raised = true
  · exact .inr (by rw [if_pos h]; rfl)
  · exact .inl (by rw [if_neg h])

/-- A program leaves the open blocks as it found them. -/
theorem blocks_exec (p : Program) (b : Bindings) : (exec s p b).bindings.blocks = b.blocks := by
  induction p generalizing b with
  | skip => rfl
  | raise => rfl
  | log e logger now => rfl
  | bind values => rfl
  | unbind keys => rfl
  | block values body ih =>
    -- the body leaves the block's own entry on top, which is what the end takes off
    exact Bindings.blocks_exit (ih (b.enter values))
  | seq first second ihfirst ihsecond =>
    rcases exec_seq_cases s first second b with h | h
    · rw [h, ihfirst]
    · rw [h, ihsecond, ihfirst]
  | attempt body handler ihbody ihhandler =>
    rcases exec_attempt_cases s body handler b with h | h
    · rw [h, ihbody]
    · rw [h, ihhandler, ihbody]

/-- What is bound behind a block: the block's keys as before it, and others as its body left
them. -/
theorem get?_exec_block (values : Table) (body : Program) (b : Bindings) (key : String) :
    Table.get? (exec s (block values body) b).bindings.bound key =
      if key ∈ Table.keys values then Table.get? b.bound key
      else Table.get? (exec s body (b.enter values)).bindings.bound key :=
  Bindings.get?_exit (blocks_exec s body (b.enter values)) key

/-- A program leaves the keys alone that it does not touch outside of the blocks over them. -/
theorem get?_exec_of_not_mem {p : Program} {key : String} (h : key ∉ p.touched) (b : Bindings) :
    Table.get? (exec s p b).bindings.bound key = Table.get? b.bound key := by
  induction p generalizing b with
  | skip => rfl
  | raise => rfl
  | log e logger now => rfl
  | bind values => exact Bindings.get?_bind_of_not_mem h b
  | unbind keys => exact Bindings.get?_unbind_of_not_mem h b
  | block values body ih =>
    rw [get?_exec_block]
    by_cases hkey : key ∈ Table.keys values
    · rw [if_pos hkey]
    · -- the block binds other keys, so its body finds this one as the block does
      have hbody : key ∉ body.touched := by
        intro hmem
        exact h (List.mem_filter.mpr ⟨hmem, decide_eq_true hkey⟩)
      rw [if_neg hkey, ih hbody]
      exact Bindings.get?_bind_of_not_mem hkey b
  | seq first second ihfirst ihsecond =>
    rw [touched, List.mem_append, not_or] at h
    rcases exec_seq_cases s first second b with hrun | hrun
    · rw [hrun, ihfirst h.1]
    · rw [hrun, ihsecond h.2, ihfirst h.1]
  | attempt body handler ihbody ihhandler =>
    rw [touched, List.mem_append, not_or] at h
    rcases exec_attempt_cases s body handler b with hrun | hrun
    · rw [hrun, ihbody h.1]
    · rw [hrun, ihhandler h.2, ihbody h.1]

/-- A program that binds values in blocks only touches no key. -/
theorem touched_of_blocksOnly {p : Program} (h : p.blocksOnly = true) : p.touched = [] := by
  induction p with
  | skip => rfl
  | raise => rfl
  | log e logger now => rfl
  | bind values => cases h
  | unbind keys => cases h
  -- what a block touches of the context is what its body touches besides the keys of the block
  | block values body ih => rw [touched, ih h, List.filter_nil]
  | seq first second ihfirst ihsecond =>
    rw [blocksOnly, Bool.and_eq_true] at h
    rw [touched, ihfirst h.1, ihsecond h.2, List.append_nil]
  | attempt body handler ihbody ihhandler =>
    rw [blocksOnly, Bool.and_eq_true] at h
    rw [touched, ihbody h.1, ihhandler h.2, List.append_nil]

/-! ### Blocks -/

/-- However the body of a block ends, each key of the block is bound behind it to what it was bound
to before it, or to nothing, each other key is as the body left it, an exception goes on, and the
blocks around it are still open.  So a program that binds values in blocks only leaves the context
as it found it. -/
theorem exec_block (values : Table) (body : Program) (b : Bindings) :
    (∀ key ∈ Table.keys values,
      Table.get? (exec s (block values body) b).bindings.bound key = Table.get? b.bound key) ∧
    (∀ key, key ∉ Table.keys values →
      Table.get? (exec s (block values body) b).bindings.bound key =
        Table.get? (exec s body (b.enter values)).bindings.bound key) ∧
    (exec s (block values body) b).raised = (exec s body (b.enter values)).raised ∧
    (exec s (block values body) b).bindings.blocks = b.blocks ∧
    ∀ p : Program, p.blocksOnly = true →
      ∀ key, Table.get? (exec s p b).bindings.bound key = Table.get? b.bound key := by
  refine ⟨?_, ?_, rfl, blocks_exec s (block values body) b, ?_⟩
  · intro key hkey
    rw [get?_exec_block, if_pos hkey]
  · intro key hkey
    rw [get?_exec_block, if_neg hkey]
  · intro p hp key
    apply get?_exec_of_not_mem
    rw [touched_of_blocksOnly hp]
    exact List.not_mem_nil

/-- A block that is left by an exception, which is caught, and then another exception. -/
def interrupted : Program :=
  seq (attempt (block [("operation", .text "read")] raise) skip) raise

/-- Blocks over the same key, one in another, both left by exceptions. -/
theorem exec_block_interrupted :
    (block [("operation", .text "reload")] interrupted).blocksOnly = true ∧
    (exec .initial (block [("operation", .text "reload")] interrupted)
      ⟨[("operation", .text "startup")], []⟩).raised = true ∧
    ∀ key, Table.get? (exec .initial (block [("operation", .text "reload")] interrupted)
        ⟨[("operation", .text "startup")], []⟩).bindings.bound key =
      Table.get? [("operation", .text "startup")] key := by
  have h := exec_block .initial [("operation", .text "reload")] interrupted
    ⟨[("operation", .text "startup")], []⟩
  refine ⟨rfl, ?_, ?_⟩
  · rw [h.2.2.1]
    rfl
  · exact h.2.2.2.2 (block [("operation", .text "reload")] interrupted) rfl

/-- What a body binds and unbinds does not outlast the block over its key, and does outlast it
otherwise. -/
example : (exec .initial
    (block [("operation", .text "reload"), ("user", .text "admin")]
      (seq (bind [("operation", .text "read"), ("count", .integer 1)])
        (seq (unbind ["user"]) raise)))
    ⟨[("operation", .text "startup")], []⟩).bindings.bound =
      [("operation", .text "startup"), ("count", .integer 1)] := rfl

end Program

end Log

end LayeredSettings
