import LoopScope.Proofs.Session.Runs
/-!
# Sessions without their logs

What an operator has logged decides nothing but what the calls that read its log answer. So two
sessions that are the same except for the logs of their operators stay so under all calls, and give
the same answers to all other calls.
-/
namespace LoopScope

namespace Table

variable {α β : Type}

/-- Changes all things that have a name. -/
def map (f : α → β) (t : Table α) : Table β := ⟨t.entries.map fun entry => (entry.1, f entry.2)⟩

theorem get?_map (f : α → β) (t : Table α) (name : String) :
    (t.map f).get? name = (t.get? name).map f := by
  obtain ⟨entries⟩ := t
  simp only [map, get?]
  induction entries with
  | nil => rfl
  | cons entry entries ih =>
    rw [List.map_cons, List.lookup_cons, List.lookup_cons, ih]
    split <;> rfl

theorem map_erase (f : α → β) (t : Table α) (name : String) :
    (t.erase name).map f = (t.map f).erase name := by
  simp only [map, erase, List.filter_map, Function.comp_def]

theorem map_map {γ : Type} (g : β → γ) (f : α → β) (t : Table α) :
    (t.map f).map g = t.map (g ∘ f) := by
  simp only [map, List.map_map, Function.comp_def]

theorem map_insert (f : α → β) (t : Table α) (name : String) (a : α) :
    (t.insert name a).map f = (t.map f).insert name (f a) := by
  rw [insert, insert, ← map_erase]
  rfl

/-- What a name stood for is forgotten when it is bound again. -/
theorem insert_insert (t : Table α) (name : String) (a b : α) :
    (t.insert name a).insert name b = t.insert name b := by
  simp [insert, erase, List.filter_filter]

end Table

/-! ## Operators -/

namespace Operator

/-- The operator with an empty log. -/
def unlogged (op : Operator) : Operator := { op with log := [] }

theorem unlogged_logEvent (op : Operator) (event : String) (errorCode : Option String) :
    (op.logEvent event errorCode).unlogged = op.unlogged := rfl

theorem unlogged_logOutcome (op : Operator) (event : String) (outcome : Except ScopeError Unit) :
    (op.logOutcome event outcome).unlogged = op.unlogged := by
  unfold logOutcome
  split
  · split <;> rfl
  · rfl

/-- Two ways to work on a store, with the same outcome and the same effect but for the log. -/
structure SameWork {α : Type} (a b : Except ScopeError α × Operator × Store) : Prop where
  outcome : a.1 = b.1
  used : a.2.1.unlogged = b.2.1.unlogged
  store : a.2.2 = b.2.2

theorem sameWork_logOutcome {α : Type} (op : Operator) (outcome : Except ScopeError α)
    (event : String) (logged : Except ScopeError Unit) (s : Store) :
    SameWork (outcome, op.unlogged.logOutcome event logged, s)
      (outcome, op.logOutcome event logged, s) where
  outcome := rfl
  used := by rw [unlogged_logOutcome, unlogged_logOutcome]; rfl
  store := rfl

/-- What an operator does to a store does not depend on its log. -/
theorem sameWork_materialize (op : Operator) (s : Store) (source : RecordId) :
    SameWork (op.unlogged.materialize s source) (op.materialize s source) := by
  have hcheck (record : Record) : op.unlogged.checkConformance record .source =
      op.checkConformance record .source := rfl
  have hnext (record : Record) : op.unlogged.nextRecord record =
      ((op.nextRecord record).1, (op.nextRecord record).2.unlogged) := rfl
  simp only [materialize, hcheck, hnext]
  cases s.toRead source with
  | error e =>
    exact sameWork_logOutcome op _ _ _ _
  | ok record =>
    dsimp only
    cases op.checkConformance record .source with
    | error e =>
      exact sameWork_logOutcome op _ _ _ _
    | ok checked =>
      dsimp only
      obtain ⟨made, moved⟩ := op.nextRecord record
      cases made with
      | error e =>
        exact sameWork_logOutcome moved _ _ _ _
      | ok made =>
        exact sameWork_logOutcome moved _ _ _ _

theorem sameWork_copyInto (op : Operator) (debugChecks : Bool) (s : Store)
    (destination source : RecordId) :
    SameWork (op.unlogged.copyInto debugChecks s destination source)
      (op.copyInto debugChecks s destination source) := by
  have hconforms (record : Record) : op.unlogged.checkConformance record .source =
      op.checkConformance record .source := rfl
  have hcheck (record into : Record) : op.unlogged.checkRefresh debugChecks record into =
      op.checkRefresh debugChecks record into := rfl
  have hrefresh (record into : Record) : op.unlogged.refresh record into =
      ((op.refresh record into).1, (op.refresh record into).2.1.unlogged,
        (op.refresh record into).2.2) := rfl
  simp only [copyInto, hconforms, hcheck, hrefresh]
  split
  · exact sameWork_logOutcome op _ _ _ _
  · cases borrowPair s destination source with
    | error e =>
      exact sameWork_logOutcome op _ _ _ _
    | ok pair =>
      dsimp only
      cases op.checkRefresh debugChecks pair.1 pair.2 with
      | error e =>
        exact sameWork_logOutcome op _ _ _ _
      | ok checked =>
        exact sameWork_logOutcome (op.refresh pair.1 pair.2).2.1 _ _ _ _

end Operator

/-- The calls whose answer depends on a log. -/
def Call.readsLog : Call → Bool
  | .events _ | .drain _ | .lines _ => true
  | _ => false

/-- The calls that look for an operator, or make one. -/
def Call.usesOperators : Call → Bool
  | .read _ (.ofOperator _ _) | .write _ (.ofOperator _ _) _ | .cloneReader _ (.ofOperator _ _)
  | .cloneWriter _ (.ofOperator _ _) | .operator _ _ _ _ | .cloneOperator _ _ | .materialize _ _ _
  | .copyInto _ _ _ | .events _ | .drain _ | .lines _ | .profiles _ | .operatorInfo _ _ => true
  | _ => false

namespace Session

variable {digest : Layout.DigestFunction} {s t : Session} {call : Call} {calls : List Call}

/-- The session with empty logs. -/
def unlogged (s : Session) : Session := { s with operators := s.operators.map Operator.unlogged }

theorem operand?_withOperators (s : Session) (operators : Table Operator) :
    ({ s with operators := operators } : Session).operand? = s.operand? := rfl

/-- Calls that have nothing to do with operators do the same whatever operators there are. -/
theorem stepBy_withOperators (digest : Layout.DigestFunction) (s : Session)
    (h : call.usesOperators = false) (operators : Table Operator) :
    ({ s with operators := operators } : Session).stepBy digest call =
      ((s.stepBy digest call).1, { (s.stepBy digest call).2 with operators := operators }) := by
  cases call with
  | schema name slots =>
    simp only [stepBy, schemaCall]
    split <;> rfl
  | arguments name values =>
    simp only [stepBy, argumentsCall, operand?_withOperators]
    split <;> rfl
  | dropArguments name =>
    simp only [stepBy, dropArgumentsCall]
    split <;> rfl
  | record name schema parent arguments =>
    cases arguments with
    | none =>
      simp only [stepBy, recordCall, operand?_withOperators]
      split <;> rfl
    | some arguments =>
      simp only [stepBy, recordOverCall, operand?_withOperators]
      split <;> rfl
  | root name schema =>
    simp only [stepBy, recordCall, operand?_withOperators]
    split <;> rfl
  | cloneRecord name record =>
    simp only [stepBy, cloneRecordCall]
    split
    · rfl
    · split <;> rfl
  | «alias» name record =>
    simp only [stepBy, aliasCall]
    split <;> rfl
  | drop record =>
    simp only [stepBy, dropCall]
    split <;> rfl
  | set record binding value =>
    simp only [stepBy, setCall, operand?_withOperators]
    split
    · split <;> rfl
    · rfl
  | put record index value =>
    simp only [stepBy, putCall, operand?_withOperators]
    split
    · split <;> rfl
    · rfl
  | get record binding =>
    simp only [stepBy, query]
    split <;> rfl
  | parent record =>
    simp only [stepBy, query]
    split <;> rfl
  | slot record index =>
    simp only [stepBy, query]
    split <;> rfl
  | snapshot record =>
    simp only [stepBy, query]
    split <;> rfl
  | info record =>
    simp only [stepBy, query, infoOf]
    split <;> rfl
  | holders record =>
    simp only [stepBy, query]
    split <;> rfl
  | sameRecord a b =>
    simp only [stepBy, sameRecordCall]
    split <;> rfl
  | sameArguments a b =>
    simp only [stepBy, queryPair]
    split
    · split <;> rfl
    · rfl
  | sameSchema a b =>
    simp only [stepBy, queryPair]
    split
    · split <;> rfl
    · rfl
  | conforms record schema =>
    simp only [stepBy, conformsCall]
    split <;> rfl
  | equal a b =>
    simp only [stepBy, equalCall, operand?_withOperators]
    split <;> rfl
  | render value =>
    simp only [stepBy, operand?_withOperators]
    split <;> rfl
  | lend record mode =>
    simp only [stepBy, lendCall]
    split
    · rfl
    · split <;> rfl
  | endLoan =>
    simp only [stepBy, endLoanCall]
    split <;> rfl
  | reader name index => rfl
  | writer name index => rfl
  | accessors schema =>
    simp only [stepBy, accessorsCall]
    split <;> rfl
  | read record accessor =>
    cases accessor with
    | standalone name =>
      simp only [stepBy, readCall, readAccessor?]
      split
      · split <;> rfl
      · rfl
    | ofOperator operator position => cases h
  | write record accessor value =>
    cases accessor with
    | standalone name =>
      simp only [stepBy, writeCall, writeAccessor?, operand?_withOperators]
      split
      · split <;> rfl
      · rfl
    | ofOperator operator position => cases h
  | cloneReader name accessor =>
    cases accessor with
    | standalone source =>
      simp only [stepBy, cloneReaderCall, readAccessor?]
      split <;> rfl
    | ofOperator operator position => cases h
  | cloneWriter name accessor =>
    cases accessor with
    | standalone source =>
      simp only [stepBy, cloneWriterCall, writeAccessor?]
      split <;> rfl
    | ofOperator operator position => cases h
  | _ => cases h

/-! ## Calls on operators -/

theorem unlogged_unlogged (s : Session) : s.unlogged.unlogged = s.unlogged := by
  simp only [unlogged, Table.map_map]
  rfl

theorem get?_unlogged (s : Session) (name : String) :
    s.unlogged.operators.get? name = (s.operators.get? name).map Operator.unlogged :=
  Table.get?_map _ _ _

theorem readAccessor?_unlogged (s : Session) (name : AccessorName) :
    s.unlogged.readAccessor? name = s.readAccessor? name := by
  cases name with
  | standalone name => rfl
  | ofOperator operator position =>
    rw [readAccessor?, readAccessor?, get?_unlogged]
    cases s.operators.get? operator <;> rfl

theorem writeAccessor?_unlogged (s : Session) (name : AccessorName) :
    s.unlogged.writeAccessor? name = s.writeAccessor? name := by
  cases name with
  | standalone name => rfl
  | ofOperator operator position =>
    rw [writeAccessor?, writeAccessor?, get?_unlogged]
    cases s.operators.get? operator <;> rfl

theorem records_unlogged (s : Session) : s.unlogged.records = s.records := rfl

theorem store_unlogged (s : Session) : s.unlogged.store = s.store := rfl

theorem debugChecks_unlogged (s : Session) : s.unlogged.debugChecks = s.debugChecks := rfl

theorem operand?_unlogged (s : Session) : s.unlogged.operand? = s.operand? := rfl

/-- Two answers with the session after each, the same but for the logs. -/
structure SameButLogs (a b : Answer × Session) : Prop where
  answer : a.1 = b.1
  session : a.2.unlogged = b.2.unlogged

theorem sameButLogs_self (s : Session) (answer : Answer) :
    SameButLogs (answer, s.unlogged) (answer, s) :=
  ⟨rfl, s.unlogged_unlogged⟩

theorem map_map_operators (s : Session) :
    (s.operators.map Operator.unlogged).map Operator.unlogged =
      s.operators.map Operator.unlogged :=
  congrArg Session.operators s.unlogged_unlogged

/-- Operators that differ in their logs at most, put under one name. -/
theorem unlogged_insert (s : Session) (store : Store) (name : String) {a b : Operator}
    (h : a.unlogged = b.unlogged) :
    ({ s.unlogged with store := store, operators := s.unlogged.operators.insert name a } :
      Session).unlogged =
      ({ s with store := store, operators := s.operators.insert name b } : Session).unlogged := by
  simp only [unlogged, Table.map_insert, s.map_map_operators, h]

theorem sameButLogs_readCall (s : Session) (record : String) (name : AccessorName) :
    SameButLogs (s.unlogged.readCall record name) (s.readCall record name) := by
  simp only [readCall, readAccessor?_unlogged, records_unlogged, store_unlogged]
  split
  · split
    · exact s.sameButLogs_self _
    · rename_i outcome used hread
      refine ⟨rfl, ?_⟩
      cases name with
      | standalone name =>
        exact congrArg (fun u : Session => { u with readers := s.readers.insert name used })
          s.unlogged_unlogged
      | ofOperator operator position =>
        simp only [putReadAccessor, get?_unlogged]
        cases s.operators.get? operator with
        | none => exact s.unlogged_unlogged
        | some op => exact s.unlogged_insert s.store operator rfl
  · exact s.sameButLogs_self _

theorem sameButLogs_cloneReaderCall (s : Session) (bound : String) (name : AccessorName) :
    SameButLogs (s.unlogged.cloneReaderCall bound name) (s.cloneReaderCall bound name) := by
  simp only [cloneReaderCall, readAccessor?_unlogged]
  split
  · exact s.sameButLogs_self _
  · rename_i a ha
    exact ⟨rfl, congrArg (fun u : Session => { u with readers := s.readers.insert bound a.reset })
      s.unlogged_unlogged⟩

theorem sameButLogs_cloneWriterCall (s : Session) (bound : String) (name : AccessorName) :
    SameButLogs (s.unlogged.cloneWriterCall bound name) (s.cloneWriterCall bound name) := by
  simp only [cloneWriterCall, writeAccessor?_unlogged]
  split
  · exact s.sameButLogs_self _
  · rename_i a ha
    exact ⟨rfl, congrArg (fun u : Session => { u with writers := s.writers.insert bound a.reset })
      s.unlogged_unlogged⟩

theorem sameButLogs_materializeCall (s : Session) (bound operator source : String) :
    SameButLogs (s.unlogged.materializeCall bound operator source)
      (s.materializeCall bound operator source) := by
  simp only [materializeCall, get?_unlogged, records_unlogged, store_unlogged]
  cases s.operators.get? operator with
  | none => exact s.sameButLogs_self _
  | some op =>
    cases s.records.get? source with
    | none => exact s.sameButLogs_self _
    | some r =>
      dsimp only [Option.map_some]
      have hwork := op.sameWork_materialize s.store r
      generalize op.unlogged.materialize s.store r = a at hwork
      generalize op.materialize s.store r = b at hwork
      obtain ⟨outcome, used, store⟩ := a
      obtain ⟨outcome', used', store'⟩ := b
      obtain ⟨rfl, hused, rfl⟩ := hwork
      have hsession := s.unlogged_insert store operator hused
      cases outcome with
      | error e => exact ⟨rfl, hsession⟩
      | ok made => exact ⟨rfl, congrArg (fun u : Session => u.bindRecord bound made) hsession⟩

theorem sameButLogs_copyIntoCall (s : Session) (operator destination source : String) :
    SameButLogs (s.unlogged.copyIntoCall operator destination source)
      (s.copyIntoCall operator destination source) := by
  simp only [copyIntoCall, get?_unlogged, records_unlogged, store_unlogged, debugChecks_unlogged]
  cases s.operators.get? operator with
  | none => exact s.sameButLogs_self _
  | some op =>
    cases s.records.get? destination with
    | none => exact s.sameButLogs_self _
    | some into =>
      cases s.records.get? source with
      | none => exact s.sameButLogs_self _
      | some r =>
        dsimp only [Option.map_some]
        have hwork := op.sameWork_copyInto s.debugChecks s.store into r
        generalize op.unlogged.copyInto s.debugChecks s.store into r = a at hwork
        generalize op.copyInto s.debugChecks s.store into r = b at hwork
        obtain ⟨outcome, used, store⟩ := a
        obtain ⟨outcome', used', store'⟩ := b
        obtain ⟨rfl, hused, rfl⟩ := hwork
        have hsession := s.unlogged_insert store operator hused
        cases outcome with
        | error e => exact ⟨rfl, hsession⟩
        | ok done => exact ⟨rfl, hsession⟩

theorem sameButLogs_writeCall (s : Session) (record : String) (name : AccessorName)
    (operand : Operand) :
    SameButLogs (s.unlogged.writeCall record name operand) (s.writeCall record name operand) := by
  simp only [writeCall, writeAccessor?_unlogged, records_unlogged, store_unlogged,
    operand?_unlogged]
  split
  · split
    · exact s.sameButLogs_self _
    · rename_i outcome used store hwrite
      refine ⟨rfl, ?_⟩
      cases name with
      | standalone name =>
        exact congrArg (fun u : Session =>
          { u with store := store, writers := s.writers.insert name used }) s.unlogged_unlogged
      | ofOperator operator position =>
        simp only [putWriteAccessor, get?_unlogged]
        cases s.operators.get? operator with
        | none => exact congrArg (fun u : Session => { u with store := store }) s.unlogged_unlogged
        | some op => exact s.unlogged_insert store operator rfl
  · exact s.sameButLogs_self _

theorem sameButLogs_bindOperator (s : Session) (name : String)
    (built : Except ScopeError Operator) :
    SameButLogs (s.unlogged.bindOperator name built) (s.bindOperator name built) := by
  cases built with
  | error e => exact s.sameButLogs_self _
  | ok op => exact ⟨rfl, s.unlogged_insert s.store name rfl⟩

theorem sameButLogs_operatorCall (s : Session) (name : String) (config : ConfigSource)
    (context : Context) (source : OperatorSource) :
    SameButLogs (s.unlogged.operatorCall digest name config context source)
      (s.operatorCall digest name config context source) := by
  unfold operatorCall
  split
  · exact s.sameButLogs_self _
  · split
    · exact sameButLogs_bindOperator { s with nextSchema := s.nextSchema + 1 } name _
    · rename_i schema reads writes
      have hschemas : s.unlogged.schemas.get? schema = s.schemas.get? schema := rfl
      rw [hschemas]
      split
      · exact s.sameButLogs_self _
      · exact s.sameButLogs_bindOperator name _
    · rename_i schema
      have hschemas : s.unlogged.schemas.get? schema = s.schemas.get? schema := rfl
      rw [hschemas]
      split
      · exact s.sameButLogs_self _
      · exact s.sameButLogs_bindOperator name _

theorem sameButLogs_cloneOperatorCall (s : Session) (bound operator : String) :
    SameButLogs (s.unlogged.cloneOperatorCall bound operator)
      (s.cloneOperatorCall bound operator) := by
  simp only [cloneOperatorCall, get?_unlogged]
  cases s.operators.get? operator with
  | none => exact s.sameButLogs_self _
  | some op =>
    refine ⟨rfl, ?_⟩
    dsimp only [Option.map_some]
    simp only [unlogged, Table.map_insert, s.map_map_operators]
    rfl

theorem sameButLogs_queryOperator (s : Session) (operator : String) {ask : Operator → Answer}
    (h : ∀ op : Operator, ask op.unlogged = ask op) :
    SameButLogs (s.unlogged.queryOperator operator ask) (s.queryOperator operator ask) := by
  simp only [queryOperator, get?_unlogged]
  cases s.operators.get? operator with
  | none => exact s.sameButLogs_self _
  | some op =>
    dsimp only [Option.map_some]
    rw [h]
    exact s.sameButLogs_self _

theorem sameButLogs_operatorInfoCall (s : Session) (operator : String) (other : Option String) :
    SameButLogs (s.unlogged.operatorInfoCall operator other)
      (s.operatorInfoCall operator other) := by
  cases other with
  | none => exact s.sameButLogs_queryOperator operator fun op => rfl
  | some other =>
    simp only [operatorInfoCall, get?_unlogged]
    cases s.operators.get? other with
    | none => exact s.sameButLogs_self _
    | some other => exact s.sameButLogs_queryOperator operator fun op => rfl

theorem unlogged_drainCall (s : Session) (operator : String) :
    (s.unlogged.drainCall operator).2.unlogged = (s.drainCall operator).2.unlogged := by
  simp only [drainCall, get?_unlogged]
  cases s.operators.get? operator with
  | none => exact s.unlogged_unlogged
  | some op => exact s.unlogged_insert s.store operator rfl

/-! ## All calls -/

/-- A call leaves the same of a session with and without logs. Its answer depends on logs only if it
reads them. -/
structure LogsApart (digest : Layout.DigestFunction) (s : Session) (call : Call) : Prop where
  session : (s.unlogged.stepBy digest call).2.unlogged = (s.stepBy digest call).2.unlogged
  answer : call.readsLog = false →
    (s.unlogged.stepBy digest call).1 = (s.stepBy digest call).1

theorem SameButLogs.logsApart
    (h : SameButLogs (s.unlogged.stepBy digest call) (s.stepBy digest call)) :
    LogsApart digest s call :=
  ⟨h.session, fun _ => h.answer⟩

theorem logsApart_of_readsLog (hcall : call.readsLog = true)
    (h : (s.unlogged.stepBy digest call).2.unlogged = (s.stepBy digest call).2.unlogged) :
    LogsApart digest s call where
  session := h
  answer hnot := by
    rw [hcall] at hnot
    cases hnot

theorem logsApart_of_ignores (digest : Layout.DigestFunction) (s : Session)
    (h : call.usesOperators = false) : LogsApart digest s call := by
  have hkept : (s.stepBy digest call).2.operators = s.operators :=
    congrArg (fun done : Answer × Session => done.2.operators)
      (s.stepBy_withOperators digest h s.operators)
  have hstep : s.unlogged.stepBy digest call = _ :=
    s.stepBy_withOperators digest h (s.operators.map Operator.unlogged)
  apply SameButLogs.logsApart
  rw [hstep]
  refine ⟨rfl, ?_⟩
  simp only [unlogged, s.map_map_operators, hkept]

theorem logsApart_stepBy (digest : Layout.DigestFunction) (s : Session) (call : Call) :
    LogsApart digest s call := by
  cases huses : call.usesOperators with
  | false => exact logsApart_of_ignores digest s huses
  | true =>
    cases call with
    | read record accessor =>
      exact SameButLogs.logsApart (s.sameButLogs_readCall record accessor)
    | write record accessor value =>
      exact SameButLogs.logsApart (s.sameButLogs_writeCall record accessor value)
    | cloneReader name accessor =>
      exact SameButLogs.logsApart (s.sameButLogs_cloneReaderCall name accessor)
    | cloneWriter name accessor =>
      exact SameButLogs.logsApart (s.sameButLogs_cloneWriterCall name accessor)
    | operator name config context source =>
      exact SameButLogs.logsApart (s.sameButLogs_operatorCall name config context source)
    | cloneOperator name operator =>
      exact SameButLogs.logsApart (s.sameButLogs_cloneOperatorCall name operator)
    | materialize name operator source =>
      exact SameButLogs.logsApart (s.sameButLogs_materializeCall name operator source)
    | copyInto operator destination source =>
      exact SameButLogs.logsApart (s.sameButLogs_copyIntoCall operator destination source)
    | profiles operator =>
      exact SameButLogs.logsApart (s.sameButLogs_queryOperator operator fun op => rfl)
    | operatorInfo operator other =>
      exact SameButLogs.logsApart (s.sameButLogs_operatorInfoCall operator other)
    | drain operator => exact logsApart_of_readsLog rfl (s.unlogged_drainCall operator)
    | events operator =>
      apply logsApart_of_readsLog rfl
      simp only [stepBy, snd_queryOperator, unlogged_unlogged]
    | lines operator =>
      apply logsApart_of_readsLog rfl
      simp only [stepBy, snd_queryOperator, unlogged_unlogged]
    | _ => cases huses

/-- Sessions that differ in their logs at most answer alike and stay so. -/
theorem stepBy_congr (digest : Layout.DigestFunction) (h : s.unlogged = t.unlogged) (call : Call) :
    (s.stepBy digest call).2.unlogged = (t.stepBy digest call).2.unlogged ∧
      (call.readsLog = false → (s.stepBy digest call).1 = (t.stepBy digest call).1) := by
  obtain ⟨hs, hsAnswer⟩ := logsApart_stepBy digest s call
  obtain ⟨ht, htAnswer⟩ := logsApart_stepBy digest t call
  rw [h] at hs hsAnswer
  exact ⟨hs.symm.trans ht, fun hcall => (hsAnswer hcall).symm.trans (htAnswer hcall)⟩

theorem runBy_congr (h : s.unlogged = t.unlogged) (calls : List Call) :
    (s.runBy digest calls).unlogged = (t.runBy digest calls).unlogged := by
  induction calls generalizing s t with
  | nil => exact h
  | cons call calls ih => exact ih (stepBy_congr digest h call).1

/-- What depends on nothing but the answers of calls that do not read logs comes out the same. -/
theorem collect_congr_unlogged {α : Type} {f : Call → Answer → List α}
    (hf : ∀ call answer, call.readsLog = true → f call answer = []) (h : s.unlogged = t.unlogged)
    (calls : List Call) :
    s.collect digest (fun _ => f) calls = t.collect digest (fun _ => f) calls := by
  induction calls generalizing s t with
  | nil => rfl
  | cons call calls ih =>
    obtain ⟨hsession, hanswer⟩ := stepBy_congr digest h call
    rw [collect, collect, ih hsession]
    cases hcall : call.readsLog with
    | true => rw [hf _ _ hcall, hf _ _ hcall]
    | false => rw [hanswer hcall]

end Session

end LoopScope
