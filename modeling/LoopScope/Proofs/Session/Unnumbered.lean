import LoopScope.Proofs.Session.Unlogged
import LoopScope.Proofs.Store.Numbers
/-!
# Sessions without instance numbers

`Session.unnumbered` is a session that has forgotten which schema instances there are, and which of
them its records and operators were made with. A call that neither looks for an instance nor
compares two of them answers there as it answers here.
-/
namespace LoopScope

/-- The calls that look for a schema instance, make one or compare two. -/
def Call.usesSchemas : Call → Bool
  | .schema _ _ | .record _ _ _ _ | .root _ _ | .sameSchema _ _ | .conforms _ _ | .accessors _
  | .operator _ _ _ _ | .materialize _ _ _ | .copyInto _ _ _ | .operatorInfo _ (some _) => true
  | _ => false

/-! ## Operators -/

namespace Operator

def renumber (op : Operator) (number : Nat) : Operator :=
  { op with schema := op.schema.renumber number }

def unnumbered (op : Operator) : Operator := op.renumber 0

/-- Operators that differ in the number of their schema instance at most. -/
theorem eq_renumber {a b : Operator} (h : a.unnumbered = b.unnumbered) :
    b = a.renumber b.schema.number := by
  obtain ⟨⟨number, schema⟩, reads, writes, config, context, log⟩ := a
  obtain ⟨⟨number', schema'⟩, reads', writes', config', context', log'⟩ := b
  cases h
  rfl

theorem unnumbered_logOutcome (op : Operator) (event : String)
    (outcome : Except ScopeError Unit) :
    (op.logOutcome event outcome).unnumbered = op.unnumbered.logOutcome event outcome := by
  cases outcome with
  | error e => rfl
  | ok done => exact apply_ite unnumbered _ _ _

theorem build_unnumbered (schema : SharedSchema) (reads writes : List Accessor) (config : Config)
    (context : Context) :
    build schema.unnumbered reads writes config context =
      (build schema reads writes config context).map unnumbered := by
  have hlength : schema.unnumbered.schema.length = schema.schema.length := rfl
  simp only [build, hlength]
  split
  · rfl
  · split
    · rfl
    · split
      · rfl
      · cases firstMisaligned? 0 reads writes <;> rfl

end Operator

namespace Session

variable {digest : Layout.DigestFunction} {s t : Session} {call : Call}

/-- The session without the numbers of its schema instances, and without the instances. -/
def unnumbered (s : Session) : Session :=
  { s with
    store := s.store.unnumbered
    nextSchema := 0
    schemas := .empty
    operators := s.operators.map Operator.unnumbered }

theorem get?_unnumbered (s : Session) (name : String) :
    s.unnumbered.operators.get? name = (s.operators.get? name).map Operator.unnumbered :=
  Table.get?_map _ _ _

theorem records_unnumbered (s : Session) : s.unnumbered.records = s.records := rfl

theorem arguments_unnumbered (s : Session) : s.unnumbered.arguments = s.arguments := rfl

theorem store_unnumbered (s : Session) : s.unnumbered.store = s.store.unnumbered := rfl

theorem loans_unnumbered (s : Session) : s.unnumbered.loans = s.loans := rfl

theorem operand?_unnumbered (s : Session) : s.unnumbered.operand? = s.operand? := rfl

theorem readAccessor?_unnumbered (s : Session) (name : AccessorName) :
    s.unnumbered.readAccessor? name = s.readAccessor? name := by
  cases name with
  | standalone name => rfl
  | ofOperator operator position =>
    rw [readAccessor?, readAccessor?, get?_unnumbered]
    cases s.operators.get? operator <;> rfl

theorem writeAccessor?_unnumbered (s : Session) (name : AccessorName) :
    s.unnumbered.writeAccessor? name = s.writeAccessor? name := by
  cases name with
  | standalone name => rfl
  | ofOperator operator position =>
    rw [writeAccessor?, writeAccessor?, get?_unnumbered]
    cases s.operators.get? operator <;> rfl

theorem unnumbered_bindRecord (s : Session) (name : String) (r : RecordId) :
    (s.bindRecord name r).unnumbered = s.unnumbered.bindRecord name r := by
  simp only [unnumbered, bindRecord, Store.unnumbered_release]

theorem unnumbered_bindArguments (s : Session) (name : String) (a : ArgumentsId) :
    (s.bindArguments name a).unnumbered = s.unnumbered.bindArguments name a := by
  simp only [unnumbered, bindArguments, Store.unnumbered_release]

theorem unnumbered_insert (s : Session) (name : String) (op : Operator) :
    ({ s with operators := s.operators.insert name op } : Session).unnumbered =
      { s.unnumbered with
        operators := s.unnumbered.operators.insert name op.unnumbered } := by
  simp only [unnumbered, Table.map_insert]

theorem unnumbered_putReadAccessor (s : Session) (a : Accessor) (name : AccessorName) :
    (s.putReadAccessor a name).unnumbered = s.unnumbered.putReadAccessor a name := by
  cases name with
  | standalone name => rfl
  | ofOperator operator position =>
    simp only [putReadAccessor, get?_unnumbered]
    cases s.operators.get? operator with
    | none => rfl
    | some op => exact s.unnumbered_insert operator _

theorem unnumbered_putWriteAccessor (s : Session) (a : Accessor) (name : AccessorName) :
    (s.putWriteAccessor a name).unnumbered = s.unnumbered.putWriteAccessor a name := by
  cases name with
  | standalone name => rfl
  | ofOperator operator position =>
    simp only [putWriteAccessor, get?_unnumbered]
    cases s.operators.get? operator with
    | none => rfl
    | some op => exact s.unnumbered_insert operator _

/-! ## Calls that need no instance -/

/-- What a call answers, and the session afterwards without instance numbers. -/
def forget (done : Answer × Session) : Answer × Session := (done.1, done.2.unnumbered)

theorem query_unnumbered (s : Session) (record : String) {ask ask' : RecordId → Answer}
    (h : ∀ r, ask' r = ask r) :
    s.unnumbered.query record ask' = forget (s.query record ask) := by
  simp only [query, records_unnumbered, h]
  cases s.records.get? record <;> rfl

theorem queryOperator_unnumbered (s : Session) (operator : String) {ask : Operator → Answer}
    (h : ∀ op : Operator, ask op.unnumbered = ask op) :
    s.unnumbered.queryOperator operator ask = forget (s.queryOperator operator ask) := by
  simp only [queryOperator, get?_unnumbered]
  cases s.operators.get? operator with
  | none => rfl
  | some op => exact congrArg (·, s.unnumbered) (h op)

theorem argumentsCall_unnumbered (s : Session) (name : String) (values : List Operand) :
    s.unnumbered.argumentsCall name values = forget (s.argumentsCall name values) := by
  simp only [argumentsCall, operand?_unnumbered]
  cases values.mapM s.operand? with
  | none => rfl
  | some values =>
    simp only [store_unnumbered, Store.createArguments_unnumbered, forget,
      unnumbered_bindArguments]
    rfl

theorem dropArgumentsCall_unnumbered (s : Session) (name : String) :
    s.unnumbered.dropArgumentsCall name = forget (s.dropArgumentsCall name) := by
  simp only [dropArgumentsCall, arguments_unnumbered]
  cases s.arguments.get? name with
  | none => rfl
  | some a =>
    simp only [forget, unnumbered, Store.unnumbered_release]

theorem cloneRecordCall_unnumbered (s : Session) (name record : String) :
    s.unnumbered.cloneRecordCall name record = forget (s.cloneRecordCall name record) := by
  simp only [cloneRecordCall, records_unnumbered]
  cases s.records.get? record with
  | none => rfl
  | some r =>
    simp only [store_unnumbered, Store.clone_unnumbered]
    cases s.store.clone r with
    | error e => rfl
    | ok made =>
      simp only [Except.map, forget, unnumbered_bindRecord]
      rfl

theorem aliasCall_unnumbered (s : Session) (name record : String) :
    s.unnumbered.aliasCall name record = forget (s.aliasCall name record) := by
  simp only [aliasCall, records_unnumbered]
  cases s.records.get? record with
  | none => rfl
  | some r =>
    simp only [forget, unnumbered_bindRecord]
    simp only [unnumbered, Store.unnumbered_retain]

theorem dropCall_unnumbered (s : Session) (record : String) :
    s.unnumbered.dropCall record = forget (s.dropCall record) := by
  simp only [dropCall, records_unnumbered]
  cases s.records.get? record with
  | none => rfl
  | some r => simp only [forget, unnumbered, Store.unnumbered_release]

theorem infoOf_unnumbered (s : Session) (r : RecordId) : s.unnumbered.infoOf r = s.infoOf r := by
  simp only [infoOf, store_unnumbered, Store.toRead_unnumbered]
  cases s.store.toRead r <;> rfl

theorem queryPair_unnumbered (s : Session) (a b : String) {ask : Record → Record → Answer}
    (h : ∀ a b : Record, ask a.unnumbered b.unnumbered = ask a b) :
    s.unnumbered.queryPair a b ask = forget (s.queryPair a b ask) := by
  simp only [queryPair, records_unnumbered, store_unnumbered, Store.toRead_unnumbered]
  cases s.records.get? a with
  | none => rfl
  | some first =>
    cases s.records.get? b with
    | none => rfl
    | some second =>
      dsimp only
      cases s.store.toRead first with
      | error e => rfl
      | ok first =>
        cases s.store.toRead second with
        | error e => rfl
        | ok second =>
          exact congrArg (·, s.unnumbered) (h first second)

theorem setCall_unnumbered (s : Session) (record binding : String) (value : Operand) :
    s.unnumbered.setCall record binding value = forget (s.setCall record binding value) := by
  simp only [setCall, records_unnumbered, operand?_unnumbered, store_unnumbered,
    Store.set_unnumbered]
  split
  · rename_i r value hr hvalue
    cases s.store.set r binding value <;> rfl
  · rfl

theorem putCall_unnumbered (s : Session) (record : String) (index : Nat) (value : Operand) :
    s.unnumbered.putCall record index value = forget (s.putCall record index value) := by
  simp only [putCall, records_unnumbered, operand?_unnumbered, store_unnumbered,
    Store.assign_unnumbered]
  split
  · rename_i r value hr hvalue
    cases s.store.assign r index value <;> rfl
  · rfl

theorem lendCall_unnumbered (s : Session) (record : String) (mode : LoanMode) :
    s.unnumbered.lendCall record mode = forget (s.lendCall record mode) := by
  simp only [lendCall, records_unnumbered, store_unnumbered, Store.lend_unnumbered]
  cases s.records.get? record with
  | none => rfl
  | some r =>
    dsimp only
    cases s.store.lend r mode <;> rfl

theorem endLoanCall_unnumbered (s : Session) :
    s.unnumbered.endLoanCall = forget s.endLoanCall := by
  simp only [endLoanCall, loans_unnumbered]
  cases s.loans with
  | nil => rfl
  | cons loan loans =>
    simp only [forget, unnumbered, Store.unnumbered_giveBack]

theorem readCall_unnumbered (s : Session) (record : String) (name : AccessorName) :
    s.unnumbered.readCall record name = forget (s.readCall record name) := by
  simp only [readCall, records_unnumbered, readAccessor?_unnumbered, store_unnumbered,
    Store.readThrough_unnumbered]
  split
  · rename_i r a hr ha
    cases s.store.readThrough r a with
    | error e => rfl
    | ok done => exact congrArg (Prod.mk _) (s.unnumbered_putReadAccessor _ name).symm
  · rfl

theorem writeCall_unnumbered (s : Session) (record : String) (name : AccessorName)
    (value : Operand) :
    s.unnumbered.writeCall record name value = forget (s.writeCall record name value) := by
  simp only [writeCall, records_unnumbered, writeAccessor?_unnumbered, operand?_unnumbered,
    store_unnumbered, Store.writeThrough_unnumbered]
  split
  · rename_i r a value hr ha hvalue
    cases s.store.writeThrough r a value with
    | error e => rfl
    | ok done =>
      exact congrArg (Prod.mk _)
        (unnumbered_putWriteAccessor { s with store := done.2.2 } done.2.1 name).symm
  · rfl

theorem cloneOperatorCall_unnumbered (s : Session) (name operator : String) :
    s.unnumbered.cloneOperatorCall name operator =
      forget (s.cloneOperatorCall name operator) := by
  simp only [cloneOperatorCall, get?_unnumbered]
  cases s.operators.get? operator with
  | none => rfl
  | some op =>
    simp only [Option.map_some, forget, unnumbered, Table.map_insert]
    rfl

theorem drainCall_unnumbered (s : Session) (operator : String) :
    s.unnumbered.drainCall operator = forget (s.drainCall operator) := by
  simp only [drainCall, get?_unnumbered]
  cases s.operators.get? operator with
  | none => rfl
  | some op => exact congrArg (Prod.mk _) (s.unnumbered_insert operator op.drain.2).symm

/-- A call that uses no schema instance answers the same without instance numbers, and leaves the
same session but for them. -/
theorem stepBy_unnumbered (digest : Layout.DigestFunction) (s : Session)
    (h : call.usesSchemas = false) :
    s.unnumbered.stepBy digest call = forget (s.stepBy digest call) := by
  cases call with
  | arguments name values => exact s.argumentsCall_unnumbered name values
  | dropArguments name => exact s.dropArgumentsCall_unnumbered name
  | cloneRecord name record => exact s.cloneRecordCall_unnumbered name record
  | «alias» name record => exact s.aliasCall_unnumbered name record
  | drop record => exact s.dropCall_unnumbered record
  | get record binding =>
    exact s.query_unnumbered record fun r =>
      congrArg (answerOr .value) (s.store.get_unnumbered r binding)
  | set record binding value => exact s.setCall_unnumbered record binding value
  | parent record =>
    exact s.query_unnumbered record fun r =>
      congrArg (answerOr .value) (s.store.parent_unnumbered r)
  | slot record index =>
    refine s.query_unnumbered record fun r => ?_
    rw [store_unnumbered, Store.toRead_unnumbered]
    cases s.store.toRead r <;> rfl
  | put record index value => exact s.putCall_unnumbered record index value
  | snapshot record =>
    exact s.query_unnumbered record fun r =>
      congrArg (answerOr .snapshot) (s.store.snapshot_unnumbered r)
  | info record => exact s.query_unnumbered record s.infoOf_unnumbered
  | holders record =>
    exact s.query_unnumbered record fun r => congrArg Answer.count (s.store.holders_unnumbered r)
  | sameRecord a b =>
    simp only [stepBy, sameRecordCall, records_unnumbered]
    split <;> rfl
  | sameArguments a b => exact s.queryPair_unnumbered a b fun _ _ => rfl
  | equal a b =>
    simp only [stepBy, equalCall, operand?_unnumbered]
    split <;> rfl
  | render value =>
    simp only [stepBy, operand?_unnumbered]
    split <;> rfl
  | lend record mode => exact s.lendCall_unnumbered record mode
  | endLoan => exact s.endLoanCall_unnumbered
  | reader name index => rfl
  | writer name index => rfl
  | read record accessor => exact s.readCall_unnumbered record accessor
  | write record accessor value => exact s.writeCall_unnumbered record accessor value
  | cloneReader name accessor =>
    simp only [stepBy, cloneReaderCall, readAccessor?_unnumbered]
    split <;> rfl
  | cloneWriter name accessor =>
    simp only [stepBy, cloneWriterCall, writeAccessor?_unnumbered]
    split <;> rfl
  | cloneOperator name operator => exact s.cloneOperatorCall_unnumbered name operator
  | events operator => exact s.queryOperator_unnumbered operator fun op => rfl
  | drain operator => exact s.drainCall_unnumbered operator
  | lines operator => exact s.queryOperator_unnumbered operator fun op => rfl
  | profiles operator => exact s.queryOperator_unnumbered operator fun op => rfl
  | operatorInfo operator other =>
    cases other with
    | none => exact s.queryOperator_unnumbered operator fun op => rfl
    | some other => cases h
  | _ => cases h

end Session

end LoopScope
