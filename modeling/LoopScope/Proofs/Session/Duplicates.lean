import LoopScope.Proofs.Session.Log
import LoopScope.Proofs.Session.Unlogged
/-!
# Duplicates

A duplicate of an operator, and a duplicate of a duplicate, has the schema instance, the
configuration and the context of the operator, and nothing of its history. Calls cannot tell it from
an operator that was just made, except by the event that tells of the making. Each operator has
accessors and a log of its own, which only calls on this operator change.
-/
namespace LoopScope

/-! ## Operators of one setup -/

namespace Operator

variable {digest : Layout.DigestFunction} {a b op : Operator} {s : Store}

/-- Two operators do the same work for the same context. -/
structure SameSetup (a b : Operator) : Prop where
  schema : a.schema = b.schema
  config : a.config = b.config
  context : a.context = b.context

theorem SameSetup.trans {c : Operator} (h : a.SameSetup b) (h' : b.SameSetup c) : a.SameSetup c :=
  ⟨h.schema.trans h'.schema, h.config.trans h'.config, h.context.trans h'.context⟩

theorem SameSetup.symm (h : a.SameSetup b) : b.SameSetup a :=
  ⟨h.schema.symm, h.config.symm, h.context.symm⟩

theorem sameSetup_logOutcome (op : Operator) (event : String) (outcome : Except ScopeError Unit) :
    (op.logOutcome event outcome).SameSetup op where
  schema := (op.usedFrom_logOutcome event outcome).schema
  config := (op.usedFrom_logOutcome event outcome).config
  context := op.context_logOutcome event outcome

theorem map_reset_of_aligned {accessors : List Accessor} {schema : Schema}
    (h : accessors.map Accessor.index = List.range schema.length) :
    accessors.map Accessor.reset = Accessor.forSchema schema := by
  rw [Accessor.forSchema, ← h, List.map_map]
  rfl

/-- The operator made anew is its duplicate, which has logged that it was made. -/
theorem WellFormed.forSchema_eq (h : op.WellFormed digest) :
    forSchema op.schema op.config op.context =
      .ok (op.cloneUninitialized.1.logEvent "iteration_scope_created" none) := by
  rw [Operator.forSchema_eq, if_neg (Nat.not_lt.mpr h.slots_le), Operator.cloneUninitialized,
    map_reset_of_aligned h.reads, map_reset_of_aligned h.writes]

theorem WellFormed.materialize_alike (ha : a.WellFormed digest) (hb : b.WellFormed digest)
    (hschema : a.schema = b.schema) {source : RecordId} {record : Record} {guard : Guard}
    (hc : s.content? source = some (record, guard)) :
    (a.materialize s source).1 = (b.materialize s source).1 ∧
      (a.materialize s source).2.2 = (b.materialize s source).2.2 := by
  rw [materialize_eq ha hc, materialize_eq hb hc, hschema]
  split
  · exact ⟨rfl, rfl⟩
  · split <;> exact ⟨rfl, rfl⟩

theorem WellFormed.copyInto_alike (ha : a.WellFormed digest) (hb : b.WellFormed digest)
    (hschema : a.schema = b.schema) (hconfig : a.config = b.config) {destination source : RecordId}
    {into record : Record} {intoGuard guard : Guard}
    (hd : s.content? destination = some (into, intoGuard))
    (hc : s.content? source = some (record, guard)) (debugChecks : Bool) :
    (a.copyInto debugChecks s destination source).1 =
        (b.copyInto debugChecks s destination source).1 ∧
      (a.copyInto debugChecks s destination source).2.2 =
        (b.copyInto debugChecks s destination source).2.2 := by
  by_cases hne : destination = source
  · subst hne
    rw [copyInto_self_eq a debugChecks hc, copyInto_self_eq b debugChecks hc, hschema]
    split
    · exact ⟨rfl, rfl⟩
    · split <;> exact ⟨rfl, rfl⟩
  · have hcheck :
        a.checkRefresh debugChecks record into = b.checkRefresh debugChecks record into := by
      simp only [checkRefresh, checkConformance, hschema, hconfig]
    rw [copyInto_eq ha debugChecks hne hd hc, copyInto_eq hb debugChecks hne hd hc, hcheck]
    split
    · exact ⟨rfl, rfl⟩
    · split <;> exact ⟨rfl, rfl⟩

/-- Calls that read logs are not logged. -/
theorem entries_of_readsLog (op : Operator) (name : String) (call : Call) (answer : Answer)
    (h : call.readsLog = true) : op.entries name call answer = [] := by
  unfold entries
  split
  · cases call with
    | events operator => rfl
    | drain operator => rfl
    | lines operator => rfl
    | _ => cases h
  · rfl

end Operator

namespace Session

variable {digest : Layout.DigestFunction} {s u : Session} {name m bound : String}
  {op used d : Operator} {call : Call} {calls : List Call} {answer : Answer}

/-! ## Duplicates of any generation -/

/-- The operators that a later session has of the one that was named `name`: the operator itself as
long as it keeps its name, and duplicates of what is among them. -/
inductive Family (digest : Layout.DigestFunction) (s : Session) (name : String) :
    Session → String → Prop
  | origin : Family digest s name s name
  | later {u : Session} {m : String} {call : Call} (h : Family digest s name u m)
      (kept : call.operatorName? ≠ some m) :
      Family digest s name (u.stepBy digest call).2 m
  | duplicate {u : Session} {m bound : String} (h : Family digest s name u m) :
      Family digest s name (u.stepBy digest (.cloneOperator bound m)).2 bound

theorem cloneOperator_stepBy (hop : s.operators.get? name = some op) (bound : String) :
    s.stepBy digest (.cloneOperator bound name) =
      (.done, { s with
        operators := (s.operators.insert name op.cloneUninitialized.2).insert bound
          op.cloneUninitialized.1 }) := by
  simp only [stepBy, cloneOperatorCall, hop]

theorem Family.sound (h : Family digest s name u m) (hs : s.Sound digest) : u.Sound digest := by
  induction h with
  | origin => exact hs
  | later h kept ih => exact ih.stepBy _
  | duplicate h ih => exact ih.stepBy _

/-- What is of the family has the setup of the first. -/
theorem Family.exists_operator (h : Family digest s name u m) (hs : s.Sound digest)
    (hop : s.operators.get? name = some op) :
    ∃ d, u.operators.get? m = some d ∧ d.SameSetup op := by
  induction h with
  | origin => exact ⟨op, hop, rfl, rfl, rfl⟩
  | later h kept ih =>
    obtain ⟨before, hbefore, hsame⟩ := ih
    obtain ⟨used, hused, huse⟩ := use_of_stepBy (h.sound hs) hbefore kept
    have hkept : used.SameSetup before :=
      ⟨huse.usedFrom.schema, huse.usedFrom.config, huse.context⟩
    exact ⟨used, hused, hkept.trans hsame⟩
  | @duplicate u m bound h ih =>
    obtain ⟨before, hbefore, hsame⟩ := ih
    have hsetup : before.cloneUninitialized.1.SameSetup before := ⟨rfl, rfl, rfl⟩
    refine ⟨before.cloneUninitialized.1, ?_, hsetup.trans hsame⟩
    rw [cloneOperator_stepBy hbefore]
    exact Table.get?_insert_self _ _ _

/-! ## A duplicate in place of a new operator -/

/-- The session with another operator under a name. -/
def withOperator (s : Session) (name : String) (op : Operator) : Session :=
  { s with operators := s.operators.insert name op }

theorem Sound.withOperator (h : s.Sound digest) (hop : op.WellFormed digest) (name : String) :
    (s.withOperator name op).Sound digest where
  balanced := h.balanced
  records := h.records
  schemas := h.schemas
  operators hget := by
    rename_i other found
    by_cases he : other = name
    · subst he
      rw [Session.withOperator, Table.get?_insert_self] at hget
      cases hget
      exact hop
    · rw [Session.withOperator, Table.get?_insert_of_ne _ _ he] at hget
      exact h.operators hget
  recordNames := h.recordNames
  argumentNames := h.argumentNames

/-- The answer to a call that does not read a log. -/
def answers (call : Call) (answer : Answer) : List Answer :=
  if call.readsLog then [] else [answer]

/-- All runs of calls get the same answers in two sessions, but for what logs tell, and leave the
same of them: the same store and names, and the same operators but for their logs. -/
def Alike (digest : Layout.DigestFunction) (s t : Session) : Prop :=
  ∀ calls, s.collect digest (fun _ => answers) calls = t.collect digest (fun _ => answers) calls ∧
    (s.runBy digest calls).unlogged = (t.runBy digest calls).unlogged

theorem alike_of_unlogged {t : Session} (h : s.unlogged = t.unlogged) : Alike digest s t := by
  intro calls
  refine ⟨collect_congr_unlogged ?_ h calls, runBy_congr h calls⟩
  intro call answer hcall
  exact if_pos hcall

/-- A session with a duplicate under a name, and with an operator that differs from the duplicate in
its log at most. -/
theorem unlogged_withOperator (digest : Layout.DigestFunction) {fresh : Operator}
    (hop : s.operators.get? name = some op)
    (hfresh : fresh.unlogged = op.cloneUninitialized.1.unlogged) (bound : String) :
    ((s.stepBy digest (.cloneOperator bound name)).2.withOperator bound fresh).unlogged =
      (s.stepBy digest (.cloneOperator bound name)).2.unlogged := by
  simp only [cloneOperator_stepBy hop, withOperator, unlogged, Table.insert_insert,
    Table.map_insert, hfresh]

/-- What was drained and is left of two logs, one of a duplicate and one of a new operator, is the
same but for what the new operator had logged at first. -/
theorem logs_of_duplicate {t : Session} {c f : Operator} (hs : s.Sound digest)
    (ht : t.Sound digest) (h : s.unlogged = t.unlogged)
    (hc : s.operators.get? name = some c) (hf : t.operators.get? name = some f)
    (hsetup : f.SameSetup c) (hempty : c.log = [])
    (hkept : ∀ call ∈ calls, call.operatorName? ≠ some name) :
    ∃ c' f', (s.runBy digest calls).operators.get? name = some c' ∧
      (t.runBy digest calls).operators.get? name = some f' ∧
      t.collect digest (fun _ => drained name) calls ++ f'.log =
        f.log ++ (s.collect digest (fun _ => drained name) calls ++ c'.log) := by
  obtain ⟨c', hc', hcRun⟩ := exists_useRun hs hkept hc
  obtain ⟨f', hf', hfRun⟩ := exists_useRun ht hkept hf
  refine ⟨c', f', hc', hf', ?_⟩
  have hentries : f.entries = c.entries :=
    Operator.UsedFrom.entries_eq ⟨hsetup.schema, hsetup.config⟩ hsetup.context
  have hsame : s.collect digest (fun _ => c.entries name) calls =
      t.collect digest (fun _ => c.entries name) calls :=
    collect_congr_unlogged (c.entries_of_readsLog name) h calls
  rw [hfRun.log_eq, hcRun.log_eq, hempty, hentries, hsame, List.nil_append]

/-! ## Isolation -/

theorem Use.eq_of_elsewhere (h : s.Use name op call answer used)
    (hcall : call.operated? ≠ some name) : used = op := by
  cases h with
  | elsewhere other => rfl
  | unbound => rfl
  | busy accessed => rfl
  | missed accessed => rfl
  | _ => exact (hcall rfl).elim

/-- An operator stays what it is while calls are made on others. -/
theorem get?_operators_runBy (h : s.Sound digest) (hop : s.operators.get? name = some op)
    (hcalls : ∀ call ∈ calls, call.operated? ≠ some name ∧ call.operatorName? ≠ some name) :
    (s.runBy digest calls).operators.get? name = some op := by
  induction calls generalizing s with
  | nil => exact hop
  | cons call calls ih =>
    obtain ⟨hoperated, hname⟩ := hcalls call List.mem_cons_self
    obtain ⟨used, hused, huse⟩ := use_of_stepBy h hop hname
    rw [huse.eq_of_elsewhere hoperated] at hused
    exact ih (h.stepBy call) hused fun later hm => hcalls later (List.mem_cons_of_mem _ hm)

/-- The client's records come out the same whichever of two operators copies them. -/
def CopyAlike (s : Session) (a b : Operator) : Prop :=
  ∀ source, s.HasHandle source →
    ((a.materialize s.store source).1 = (b.materialize s.store source).1 ∧
      (a.materialize s.store source).2.2 = (b.materialize s.store source).2.2) ∧
    ∀ destination, s.HasHandle destination → ∀ debugChecks,
      (a.copyInto debugChecks s.store destination source).1 =
          (b.copyInto debugChecks s.store destination source).1 ∧
        (a.copyInto debugChecks s.store destination source).2.2 =
          (b.copyInto debugChecks s.store destination source).2.2

theorem Sound.copyAlike {a b : Operator} (h : s.Sound digest) (ha : a.WellFormed digest)
    (hb : b.WellFormed digest) (hsame : a.SameSetup b) : s.CopyAlike a b := by
  intro source hsource
  obtain ⟨record, guard, hc⟩ := h.exists_content hsource
  refine ⟨ha.materialize_alike hb hsame.schema hc, ?_⟩
  intro destination hdestination
  obtain ⟨into, intoGuard, hd⟩ := h.exists_content hdestination
  exact ha.copyInto_alike hb hsame.schema hsame.config hd hc

/-! ## The law of duplicates -/

/-- Nothing tells the operator of a name from a new one in its place, but for what the new one has
logged at first. -/
structure SameAsNew (digest : Layout.DigestFunction) (s : Session) (name : String)
    (new : Operator) : Prop where
  alike : Alike digest s (s.withOperator name new)
  logs : ∀ calls, (∀ call ∈ calls, call.operatorName? ≠ some name) →
    ∃ c f, (s.runBy digest calls).operators.get? name = some c ∧
      ((s.withOperator name new).runBy digest calls).operators.get? name = some f ∧
      (s.withOperator name new).collect digest (fun _ => drained name) calls ++ f.log =
        new.log ++ (s.collect digest (fun _ => drained name) calls ++ c.log)

/-- The operator `op` of a name changes by calls on this name only. A call that duplicates it adds
one event to its log, and the duplicate has nothing of its history. -/
structure Isolated (digest : Layout.DigestFunction) (s : Session) (name : String)
    (op : Operator) : Prop where
  untouched : ∀ calls,
    (∀ call ∈ calls, call.operated? ≠ some name ∧ call.operatorName? ≠ some name) →
      (s.runBy digest calls).operators.get? name = some op
  answer : ∀ bound, (s.stepBy digest (.cloneOperator bound name)).1 = .done
  duplicate : ∀ bound,
    (s.stepBy digest (.cloneOperator bound name)).2.operators.get? bound =
      some { op with
        reads := op.reads.map Accessor.reset
        writes := op.writes.map Accessor.reset
        log := [] }
  logged : ∀ bound, bound ≠ name →
    (s.stepBy digest (.cloneOperator bound name)).2.operators.get? name =
      some { op with log := op.log ++ [op.entry "iteration_scope_cloned" none] }

theorem Sound.sameAsNew (h : s.Sound digest) (hop : s.operators.get? name = some op)
    (bound : String) :
    SameAsNew digest (s.stepBy digest (.cloneOperator bound name)).2 bound
      (op.cloneUninitialized.1.logEvent "iteration_scope_created" none) := by
  have hunlogged := unlogged_withOperator digest hop
    (op.cloneUninitialized.1.unlogged_logEvent "iteration_scope_created" none) bound
  have hnew := (h.operators hop).cloneUninitialized.1.logEvent "iteration_scope_created" none
  have hduplicate : (s.stepBy digest (.cloneOperator bound name)).2.operators.get? bound =
      some op.cloneUninitialized.1 := by
    rw [cloneOperator_stepBy hop]
    exact Table.get?_insert_self _ _ _
  refine ⟨alike_of_unlogged hunlogged.symm, ?_⟩
  intro calls hkept
  exact logs_of_duplicate (h.stepBy _) ((h.stepBy _).withOperator hnew bound) hunlogged.symm
    hduplicate (Table.get?_insert_self _ _ _) ⟨rfl, rfl, rfl⟩ rfl hkept

theorem Sound.isolated (h : s.Sound digest) (hop : s.operators.get? name = some op) :
    Isolated digest s name op where
  untouched calls := get?_operators_runBy h hop
  answer bound := by rw [cloneOperator_stepBy hop]
  duplicate bound := by
    rw [cloneOperator_stepBy hop]
    exact Table.get?_insert_self _ _ _
  logged bound hne := by
    rw [cloneOperator_stepBy hop]
    exact (Table.get?_insert_of_ne _ _ hne.symm).trans (Table.get?_insert_self _ _ _)

/-- The setup of an operator makes a new operator, too. Nothing but the event of its making tells it
from a duplicate, of whichever generation, and all operators of the family copy alike, whatever they
have seen and logged. Each operator changes by calls on it only. -/
theorem duplicates_alike_and_isolated (hs : s.Reachable digest)
    (hop : s.operators.get? name = some op) (hm : Family digest s name u m) :
    ∃ new d, Operator.forSchema op.schema op.config op.context = .ok new ∧
      new.log = [new.entry "iteration_scope_created" none] ∧
      u.operators.get? m = some d ∧
      (∀ bound, SameAsNew digest (u.stepBy digest (.cloneOperator bound m)).2 bound new) ∧
      (∀ other e, Family digest s name u other → u.operators.get? other = some e →
        u.CopyAlike e d) ∧
      ∀ other e, u.operators.get? other = some e → Isolated digest u other e := by
  have hsound := sound_of_reachable hs
  have hlater := hm.sound hsound
  obtain ⟨d, hd, hsetup⟩ := hm.exists_operator hsound hop
  have hnew := (hlater.operators hd).forSchema_eq
  rw [hsetup.schema, hsetup.config, hsetup.context] at hnew
  refine ⟨_, d, hnew, rfl, hd, hlater.sameAsNew hd, ?_, fun other e => hlater.isolated⟩
  intro other e hother he
  obtain ⟨e', he', hsame⟩ := hother.exists_operator hsound hop
  rw [he] at he'
  cases he'
  exact hlater.copyAlike (hlater.operators he) (hlater.operators hd) (hsame.trans hsetup.symm)

/-- The sample after its operator has copied a record and was duplicated. -/
def duplicatedSample : Session :=
  ((sample.stepBy (fun _ => []) (.materialize "third" "next" "first")).2.stepBy (fun _ => [])
    (.cloneOperator "copy" "next")).2

theorem duplicates_alike_and_isolated_sample :
    ∃ new, Operator.forSchema sampleSchema .default .blank = .ok new ∧
      SameAsNew (fun _ => []) (duplicatedSample.stepBy (fun _ => [])
        (.cloneOperator "again" "copy")).2 "again" new ∧
      (duplicatedSample.runBy (fun _ => [])
        [.materialize "fourth" "next" "third", .drain "next"]).operators.get? "copy" =
          some { sampleOperator with log := [] } := by
  have hcopied : Family (fun _ => []) sample "next"
      (sample.stepBy (fun _ => []) (.materialize "third" "next" "first")).2 "next" :=
    .later .origin nofun
  have hcopy : duplicatedSample.operators.get? "copy" = some { sampleOperator with log := [] } := by
    cbv
  have hduplicate : Family (fun _ => []) sample "next" duplicatedSample "copy" :=
    .duplicate hcopied
  obtain ⟨new, d, hnew, -, -, hsame, -, hisolated⟩ :=
    duplicates_alike_and_isolated reachable_sample operator_sample hduplicate
  refine ⟨new, hnew, hsame "again", (hisolated "copy" _ hcopy).untouched _ ?_⟩
  decide

end Session

end LoopScope
