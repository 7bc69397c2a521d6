import LoopScope.Session.Records
/-!
# Calls on accessors and operators

A copy that fails leaves the store as it was; the operator logs it.
-/
namespace LoopScope.Session

/-! ## Accessors -/

def readCall (s : Session) (record : String) (name : AccessorName) : Answer × Session :=
  match s.records.get? record, s.readAccessor? name with
  | some r, some a =>
    match s.store.readThrough r a with
    | .error e => (.failed e, s)
    | .ok (outcome, a) => (.moved a (outcome.map some), s.putReadAccessor a name)
  | _, _ => (.unbound, s)

def writeCall (s : Session) (record : String) (name : AccessorName) (value : Operand) :
    Answer × Session :=
  match s.records.get? record, s.writeAccessor? name, s.operand? value with
  | some r, some a, some value =>
    match s.store.writeThrough r a value with
    | .error e => (.failed e, s)
    | .ok (outcome, a, store) =>
      (.moved a (outcome.map fun _ => none), { s with store := store }.putWriteAccessor a name)
  | _, _, _ => (.unbound, s)

def cloneReaderCall (s : Session) (as : String) (name : AccessorName) : Answer × Session :=
  match s.readAccessor? name with
  | none => (.unbound, s)
  | some a => (.accessor a.reset, { s with readers := s.readers.insert as a.reset })

def cloneWriterCall (s : Session) (as : String) (name : AccessorName) : Answer × Session :=
  match s.writeAccessor? name with
  | none => (.unbound, s)
  | some a => (.accessor a.reset, { s with writers := s.writers.insert as a.reset })

def accessorsCall (s : Session) (schema : String) : Answer × Session :=
  match s.schemas.get? schema with
  | none => (.unbound, s)
  | some shared =>
    let accessors := Accessor.forSchema shared.schema
    let cloned := accessors.map Accessor.reset
    (.accessors (accessors.map Accessor.index) (accessors.map Accessor.index) cloned.length
      cloned.length, s)

/-! ## Operators -/

/-- Binds an operator that was built, or answers why none was. -/
def bindOperator (s : Session) (name : String) : Except ScopeError Operator → Answer × Session
  | .error e => (.failed e, s)
  | .ok op => (.done, { s with operators := s.operators.insert name op })

def operatorCall (digest : Layout.DigestFunction) (s : Session) (name : String)
    (config : ConfigSource) (context : Context) (source : OperatorSource) : Answer × Session :=
  match config.resolve with
  | .error e => (.invalidConfig e, s)
  | .ok config =>
    match source with
    | .slots slots =>
      { s with nextSchema := s.nextSchema + 1 }.bindOperator name
        (Operator.ofSlotsBy digest s.nextSchema slots config context)
    | .accessors schema reads writes =>
      match s.schemas.get? schema with
      | none => (.unbound, s)
      | some shared =>
        s.bindOperator name
          (Operator.build shared (reads.map .fresh) (writes.map .fresh) config context)
    | .schema schema =>
      match s.schemas.get? schema with
      | none => (.unbound, s)
      | some shared => s.bindOperator name (Operator.forSchema shared config context)

def cloneOperatorCall (s : Session) (as operator : String) : Answer × Session :=
  match s.operators.get? operator with
  | none => (.unbound, s)
  | some op =>
    let (duplicate, op) := op.cloneUninitialized
    (.done, { s with operators := (s.operators.insert operator op).insert as duplicate })

def materializeCall (s : Session) (as operator source : String) : Answer × Session :=
  match s.operators.get? operator, s.records.get? source with
  | some op, some r =>
    let (outcome, op, store) := op.materialize s.store r
    let s := { s with store := store, operators := s.operators.insert operator op }
    match outcome with
    | .error e => (.failed e, s)
    | .ok r => (answerOr (.materialized r) (s.store.snapshot r), s.bindRecord as r)
  | _, _ => (.unbound, s)

def copyIntoCall (s : Session) (operator destination source : String) : Answer × Session :=
  match s.operators.get? operator, s.records.get? destination, s.records.get? source with
  | some op, some into, some r =>
    let (outcome, op, store) := op.copyInto s.debugChecks s.store into r
    let s := { s with store := store, operators := s.operators.insert operator op }
    match outcome with
    | .error e => (.failed e, s)
    | .ok () => (answerOr .snapshot (s.store.snapshot into), s)
  | _, _, _ => (.unbound, s)

/-- Answers about a named operator without changing anything. -/
def queryOperator (s : Session) (operator : String) (ask : Operator → Answer) : Answer × Session :=
  match s.operators.get? operator with
  | none => (.unbound, s)
  | some op => (ask op, s)

def drainCall (s : Session) (operator : String) : Answer × Session :=
  match s.operators.get? operator with
  | none => (.unbound, s)
  | some op =>
    let (log, op) := op.drain
    (.events log, { s with operators := s.operators.insert operator op })

def infoOfOperator (debugChecks : Bool) (op : Operator) (other : Option Operator) :
    OperatorInfo where
  slotCount := op.slotCount
  bindingNames := op.schema.schema.bindingNames
  contentHash := op.schema.schema.contentHash
  config := op.config
  context := op.context
  checkEnabled := op.config.parentLinkCheck.enabled debugChecks
  sharesSchema := other.map fun other => op.schema.number == other.schema.number

def operatorInfoCall (s : Session) (operator : String) (other : Option String) :
    Answer × Session :=
  match other with
  | none => s.queryOperator operator fun op => .operatorInfo (infoOfOperator s.debugChecks op none)
  | some other =>
    match s.operators.get? other with
    | none => (.unbound, s)
    | some other =>
      s.queryOperator operator fun op => .operatorInfo (infoOfOperator s.debugChecks op other)

end LoopScope.Session
