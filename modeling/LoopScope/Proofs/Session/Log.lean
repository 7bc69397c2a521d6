import LoopScope.Proofs.Session.Copies
import LoopScope.Proofs.Session.Runs
/-!
# The log of an operator

What was drained from an operator over a run, followed by what its log still holds, is what the log
held at first, followed by one entry for each call that the operator logs. Drains can stand anywhere
in the run.
-/
namespace LoopScope

namespace Operator

/-- An event about this operator. -/
def entry (op : Operator) (event : String) (errorCode : Option String) : Event :=
  .make op.context event errorCode op.schema.schema.contentHash op.slotCount

/-- The entry of a copy that passed, where the configuration asks for it. -/
def passEntries (op : Operator) (event : String) : List Event :=
  if op.config.traceCopies then [op.entry event none] else []

/-- What the operator of a name logs of a call that was answered. -/
def entries (op : Operator) (name : String) (call : Call) (answer : Answer) : List Event :=
  if call.operated? = some name then
    match call, answer with
    | .materialize _ _ _, .failed e => [op.entry "materialize" (some e.code)]
    | .materialize _ _ _, .materialized _ _ => op.passEntries "materialize"
    | .copyInto _ _ _, .failed e => [op.entry "copy_into" (some e.code)]
    | .copyInto _ _ _, .snapshot _ => op.passEntries "copy_into"
    | .cloneOperator _ _, .done => [op.entry "iteration_scope_cloned" none]
    | _, _ => []
  else []

/-- What a new operator has logged. -/
def firstEntries (op : Operator) : Call → List Event
  | .cloneOperator _ _ => []
  | _ => [op.entry "iteration_scope_created" none]

variable {op used : Operator} {name : String} {call : Call} {answer : Answer}

theorem log_logEvent (op : Operator) (event : String) (errorCode : Option String) :
    (op.logEvent event errorCode).log = op.log ++ [op.entry event errorCode] := rfl

theorem log_refused (op : Operator) (event : String) (e : ScopeError) :
    (op.logOutcome event (.error e)).log = op.log ++ [op.entry event (some e.code)] := rfl

theorem log_passed (op : Operator) (event : String) :
    (op.logOutcome event (.ok ())).log = op.log ++ op.passEntries event := by
  have hpassed : op.logOutcome event (.ok ()) =
      if op.config.traceCopies then op.logEvent event none else op := rfl
  rw [hpassed, passEntries]
  split
  · exact op.log_logEvent event none
  · exact (List.append_nil _).symm

theorem context_logOutcome (op : Operator) (event : String) (outcome : Except ScopeError Unit) :
    (op.logOutcome event outcome).context = op.context := by
  unfold logOutcome
  split
  · split <;> rfl
  · rfl

theorem entries_of_ne (op : Operator) (h : call.operated? ≠ some name) :
    op.entries name call answer = [] :=
  if_neg h

theorem entries_unbound (op : Operator) (name : String) (call : Call) :
    op.entries name call .unbound = [] := by
  unfold entries
  split
  · cases call <;> rfl
  · rfl

/-- Direct use of accessors is not logged. -/
theorem entries_of_accessed (op : Operator) (h : call.accessed? = some name) :
    op.entries name call answer = [] := by
  unfold entries
  split
  · cases call with
    | read record accessor => rfl
    | write record accessor value => rfl
    | _ => cases h
  · rfl

theorem entries_drain (op : Operator) (name : String) (answer : Answer) :
    op.entries name (.drain name) answer = [] := by
  unfold entries
  split <;> rfl

/-- An operator in use logs the same of a call as it did when it was new. -/
theorem UsedFrom.entry_eq (h : used.UsedFrom op) (hcontext : used.context = op.context) :
    used.entry = op.entry := by
  funext event errorCode
  rw [entry, entry, slotCount, slotCount, h.schema, hcontext]

theorem UsedFrom.entries_eq (h : used.UsedFrom op) (hcontext : used.context = op.context) :
    used.entries = op.entries := by
  funext name call answer
  simp only [entries, passEntries, h.entry_eq hcontext, h.config]

theorem exists_entry_of_mem {event : Event} (h : event ∈ op.entries name call answer) :
    ∃ what errorCode, event = op.entry what errorCode := by
  unfold entries at h
  split at h
  · split at h
    · exact ⟨_, _, List.mem_singleton.mp h⟩
    · unfold passEntries at h
      split at h
      · exact ⟨_, _, List.mem_singleton.mp h⟩
      · cases h
    · exact ⟨_, _, List.mem_singleton.mp h⟩
    · unfold passEntries at h
      split at h
      · exact ⟨_, _, List.mem_singleton.mp h⟩
      · cases h
    · exact ⟨_, _, List.mem_singleton.mp h⟩
    · cases h
  · cases h

end Operator

namespace Session

variable {digest : Layout.DigestFunction} {s t : Session} {call : Call} {calls : List Call}
  {answer : Answer} {name : String} {op used : Operator}

/-- What a call has drained from the log of an operator. -/
def drained (name : String) (call : Call) (answer : Answer) : List Event :=
  match answer with
  | .events log => if call = .drain name then log else []
  | _ => []

theorem drained_of_ne (h : call.operated? ≠ some name) : drained name call answer = [] := by
  have hcall : call ≠ .drain name := by
    intro he
    rw [he] at h
    exact h rfl
  unfold drained
  split
  · rw [if_neg hcall]
  · rfl

theorem Use.context (h : s.Use name op call answer used) : used.context = op.context := by
  cases h with
  | elsewhere other => rfl
  | unbound => rfl
  | busy accessed => rfl
  | missed accessed => rfl
  | read found => rfl
  | write found given => rfl
  | refusedMaterialize => rfl
  | materialize named content conforms => exact Operator.context_logOutcome _ _ _
  | refusedCopy => rfl
  | selfCopy destinationNamed sourceNamed => exact Operator.context_logOutcome _ _ _
  | copy destinationNamed sourceNamed distinct content conforms =>
    exact Operator.context_logOutcome _ _ _
  | duplicate => rfl
  | drain => rfl

/-- What one call drains and leaves is what was there and what the call adds. -/
theorem Use.log_eq (h : s.Use name op call answer used) :
    drained name call answer ++ used.log = op.log ++ op.entries name call answer := by
  cases h with
  | elsewhere other =>
    rw [drained_of_ne other, op.entries_of_ne other, List.nil_append, List.append_nil]
  | unbound =>
    rw [op.entries_unbound name call, List.append_nil]
    rfl
  | busy accessed =>
    rw [op.entries_of_accessed accessed, List.append_nil]
    rfl
  | missed accessed =>
    rw [op.entries_of_accessed accessed, List.append_nil]
    rfl
  | read found =>
    rw [op.entries_of_accessed rfl, List.append_nil]
    rfl
  | write found given =>
    rw [op.entries_of_accessed rfl, List.append_nil]
    rfl
  | refusedMaterialize =>
    rw [Operator.entries, Call.operated?, if_pos rfl]
    exact op.log_refused _ _
  | @materialize bound source r record guard snapshot named content conforms =>
    rw [Operator.entries, Call.operated?, if_pos rfl]
    exact (op.observing 0 record.slots).log_passed _
  | refusedCopy =>
    rw [Operator.entries, Call.operated?, if_pos rfl]
    exact op.log_refused _ _
  | selfCopy destinationNamed sourceNamed =>
    rw [Operator.entries, Call.operated?, if_pos rfl]
    exact op.log_passed _
  | @copy destination source into r record guard snapshot destinationNamed sourceNamed distinct
      content conforms =>
    rw [Operator.entries, Call.operated?, if_pos rfl]
    exact (op.observing 1 record.slots).log_passed _
  | duplicate =>
    rw [Operator.entries, Call.operated?, if_pos rfl]
    exact op.log_logEvent _ _
  | drain =>
    rw [op.entries_drain name, drained, if_pos rfl]
    rfl

/-- What a whole run drains and leaves is what was there and what the calls of the run add. -/
theorem UseRun.log_eq (h : UseRun digest name s calls op used) :
    s.collect digest (fun _ => drained name) calls ++ used.log =
      op.log ++ s.collect digest (fun _ => op.entries name) calls := by
  induction h with
  | nil => exact (List.append_nil _).symm
  | @cons s call calls op first used use rest ih =>
    rw [use.usedFrom.entries_eq use.context] at ih
    calc s.collect digest (fun _ => drained name) (call :: calls) ++ used.log
      _ = drained name call (s.stepBy digest call).1 ++
          ((s.stepBy digest call).2.collect digest (fun _ => drained name) calls ++ used.log) :=
        List.append_assoc _ _ _
      _ = (drained name call (s.stepBy digest call).1 ++ first.log) ++
          (s.stepBy digest call).2.collect digest (fun _ => op.entries name) calls := by
        rw [ih, List.append_assoc]
      _ = op.log ++ s.collect digest (fun _ => op.entries name) (call :: calls) := by
        rw [use.log_eq, List.append_assoc]
        rfl

/-- An operator that a call has made has the configuration and the context that the call gave it, or
those of the operator that it duplicates. -/
theorem exists_new_of_binds (h : s.Sound digest)
    (hbinds : call.Binds (s.stepBy digest call).1 name) :
    ∃ op, (s.stepBy digest call).2.operators.get? name = some op ∧
      op.log = op.firstEntries call ∧
      (∀ given context source, call = .operator name given context source →
        given.resolve = .ok op.config ∧ op.context = context) ∧
      ∀ source before, call = .cloneOperator name source →
        s.operators.get? source = some before →
        op.schema = before.schema ∧ op.config = before.config ∧ op.context = before.context := by
  cases (setupEffect_stepBy h call).operators name with
  | absent kept before after => exact (kept hbinds).elim
  | used kept before after use => exact (kept hbinds).elim
  | @built given source op reads writes config context builds resolved after fresh built schema =>
    obtain ⟨hop, -⟩ := Operator.build_eq_ok built
    have hlog : op.log = [op.entry "iteration_scope_created" none] := by
      rw [hop]
      rfl
    have hconfig : op.config = config := by
      rw [hop]
      rfl
    have hcontext : op.context = context := by
      rw [hop]
      rfl
    refine ⟨op, after, ?_, ?_, ?_⟩
    · rw [hlog, builds]
      rfl
    · intro given' context' source' he
      rw [builds] at he
      cases he
      rw [hconfig]
      exact ⟨resolved, hcontext⟩
    · intro source' before he
      rw [builds] at he
      cases he
  | @duplicated source op duplicates before after =>
    refine ⟨_, after, ?_, ?_, ?_⟩
    · rw [duplicates]
      rfl
    · intro given context source' he
      rw [duplicates] at he
      cases he
    · intro source' other he hother
      rw [duplicates] at he
      cases he
      rw [before] at hother
      cases hother
      exact ⟨rfl, rfl, rfl⟩

theorem queryOperator_of_get? (hop : s.operators.get? name = some op) (ask : Operator → Answer) :
    (s.queryOperator name ask).1 = ask op := by
  rw [queryOperator, hop]

theorem mem_firstEntries {event : Event} (h : event ∈ op.firstEntries call) :
    ∃ what errorCode, event = op.entry what errorCode := by
  unfold Operator.firstEntries at h
  split at h
  · cases h
  · exact ⟨_, _, List.mem_singleton.mp h⟩

/-- From the call that makes an operator on, and wherever drains stand, what was drained from its
log and what is left there are together what the new operator has logged, and then one entry for
each copy that failed, for each that passed if copies are traced, and for each duplicate. All entries
are about this operator, and tell of a failure just when they have an error code. -/
theorem log_law (hs : s.Reachable digest) (hbinds : call.Binds (s.stepBy digest call).1 name)
    (hkept : ∀ later ∈ calls, later.operatorName? ≠ some name) :
    ∃ op used, (s.stepBy digest call).2.operators.get? name = some op ∧
      ((s.stepBy digest call).2.runBy digest calls).operators.get? name = some used ∧
      (∀ given context source, call = .operator name given context source →
        given.resolve = .ok op.config ∧ op.context = context) ∧
      (∀ source before, call = .cloneOperator name source →
        s.operators.get? source = some before →
        op.schema = before.schema ∧ op.config = before.config ∧ op.context = before.context) ∧
      (s.stepBy digest call).2.collect digest (fun _ => drained name) calls ++ used.log =
        op.firstEntries call ++
          (s.stepBy digest call).2.collect digest (fun _ => op.entries name) calls ∧
      (∀ event ∈ (s.stepBy digest call).2.collect digest (fun _ => drained name) calls ++ used.log,
        event.traceId = op.context.traceId ∧ event.decisionId = op.context.decisionId ∧
        event.policyId = op.context.policyId ∧
        event.schemaHash = op.schema.schema.contentHash ∧ event.slotCount = op.slotCount ∧
        event.outcome = if event.errorCode.isSome then "fail" else "pass") ∧
      (((s.stepBy digest call).2.runBy digest calls).stepBy digest (.events name)).1 =
        .events used.log ∧
      (((s.stepBy digest call).2.runBy digest calls).stepBy digest (.lines name)).1 =
        .text (Event.renderLines used.log) := by
  have hsound := sound_of_reachable hs
  obtain ⟨op, hop, hfirst, hgiven, hduplicates⟩ := exists_new_of_binds hsound hbinds
  obtain ⟨used, hused, hrun⟩ := exists_useRun (hsound.stepBy call) hkept hop
  have hlog := hrun.log_eq
  rw [hfirst] at hlog
  refine ⟨op, used, hop, hused, hgiven, hduplicates, hlog, ?_, ?_, ?_⟩
  · intro event hm
    rw [hlog] at hm
    obtain ⟨what, errorCode, rfl⟩ : ∃ what errorCode, event = op.entry what errorCode := by
      rcases List.mem_append.mp hm with hm | hm
      · exact mem_firstEntries hm
      · obtain ⟨u, later, answer, -, hentry⟩ := mem_collect hm
        exact Operator.exists_entry_of_mem hentry
    exact ⟨rfl, rfl, rfl, rfl, rfl, rfl⟩
  · exact queryOperator_of_get? hused _
  · exact queryOperator_of_get? hused _

/-- A client makes an operator that traces its copies. -/
def tracingCall : Call := .operator "traced" (.given .strict) .blank (.schema "loop")

/-- It then makes a record, drains the log, fails to copy into a borrowed record, and duplicates the
operator. -/
def tracedCalls : List Call :=
  [.materialize "third" "traced" "first", .lend "second" .exclusive, .drain "traced",
    .copyInto "traced" "second" "third", .cloneOperator "copy" "traced"]

theorem log_law_sample :
    ∃ used,
      ((sample.stepBy (fun _ => []) tracingCall).2.runBy (fun _ => []) tracedCalls).operators.get?
        "traced" = some used ∧
      (sample.stepBy (fun _ => []) tracingCall).2.collect (fun _ => []) (fun _ => drained "traced")
          tracedCalls ++ used.log =
        [.make .blank "iteration_scope_created" none "sha256:" 2,
          .make .blank "materialize" none "sha256:" 2,
          .make .blank "copy_into" (some "FE-ITER-0009") "sha256:" 2,
          .make .blank "iteration_scope_cloned" none "sha256:" 2] := by
  have hdone : (sample.stepBy (fun _ => []) tracingCall).1 = .done := by cbv
  have hkept : ∀ later ∈ tracedCalls, later.operatorName? ≠ some "traced" := by decide
  obtain ⟨op, used, hop, hused, -, -, hlog, -⟩ :=
    log_law reachable_sample ⟨rfl, hdone⟩ hkept
  have hnew : (sample.stepBy (fun _ => []) tracingCall).2.operators.get? "traced" =
      some { sampleOperator with config := .strict } := by cbv
  rw [hnew] at hop
  cases hop
  refine ⟨used, hused, hlog.trans ?_⟩
  cbv

end Session

end LoopScope
