import LoopScope.Session.Basic
/-!
# Calls on records

Making, naming, reading, changing and lending records, and the schemas and argument lists that they
share. A call that fails leaves the session as it was.
-/
namespace LoopScope.Session

/-! ## Schemas, argument lists and records -/

def schemaCall (digest : Layout.DigestFunction) (s : Session) (name : String)
    (slots : List Slot) : Answer × Session :=
  match Schema.ofSlotsBy digest slots with
  | .error e => (.invalidSchema e, s)
  | .ok schema =>
    let (shared, s) := s.share schema
    (.schema schema.length schema.contentHash,
      { s with schemas := s.schemas.insert name shared })

def argumentsCall (s : Session) (name : String) (values : List Operand) : Answer × Session :=
  match values.mapM s.operand? with
  | none => (.unbound, s)
  | some values =>
    let (a, store) := s.store.createArguments values
    (.count values.length, { s with store := store }.bindArguments name a)

def dropArgumentsCall (s : Session) (name : String) : Answer × Session :=
  match s.arguments.get? name with
  | none => (.flag false, s)
  | some a =>
    (.flag true,
      { s with arguments := s.arguments.erase name, store := s.store.release [.arguments a] })

/-- A new record over an argument list that the client has named. -/
def recordOverCall (s : Session) (name schema : String) (parent : Operand) (arguments : String) :
    Answer × Session :=
  match s.schemas.get? schema, s.operand? parent, s.arguments.get? arguments with
  | some schema, some parent, some a =>
    let (r, store) := s.store.create (.new schema parent a)
    (.record r, { s with store := store }.bindRecord name r)
  | _, _, _ => (.unbound, s)

/-- A new record over an empty argument list of its own. -/
def recordCall (s : Session) (name schema : String) (parent : Operand) : Answer × Session :=
  match s.schemas.get? schema, s.operand? parent with
  | some schema, some parent =>
    let (r, store) := s.store.createAlone schema parent
    (.record r, { s with store := store }.bindRecord name r)
  | _, _ => (.unbound, s)

def cloneRecordCall (s : Session) (name record : String) : Answer × Session :=
  match s.records.get? record with
  | none => (.unbound, s)
  | some r =>
    match s.store.clone r with
    | .error e => (.failed e, s)
    | .ok (r, store) => (.record r, { s with store := store }.bindRecord name r)

def aliasCall (s : Session) (name record : String) : Answer × Session :=
  match s.records.get? record with
  | none => (.unbound, s)
  | some r => (.flag true, { s with store := s.store.retain (.record r) }.bindRecord name r)

def dropCall (s : Session) (record : String) : Answer × Session :=
  match s.records.get? record with
  | none => (.flag false, s)
  | some r =>
    (.flag true, { s with records := s.records.erase record, store := s.store.release [.record r] })

/-! ## Looking into records -/

/-- Answers about a named record without changing anything. -/
def query (s : Session) (record : String) (ask : RecordId → Answer) : Answer × Session :=
  match s.records.get? record with
  | none => (.unbound, s)
  | some r => (ask r, s)

def answerOr {α : Type} (answer : α → Answer) : Except ScopeError α → Answer
  | .ok a => answer a
  | .error e => .failed e

def infoOf (s : Session) (r : RecordId) : Answer :=
  match s.store.toRead r with
  | .error e => .failed e
  | .ok record =>
    match record.parent? with
    | none => .failed (.missingSlot parentSlot)
    | some parent =>
      .info {
        record := r
        length := record.length
        isEmpty := record.slots.isEmpty
        contentHash := record.schema.schema.contentHash
        parent := parent
        arguments := s.store.argumentValues record.arguments }

/-- Answers about two named records that a reader may look into. -/
def queryPair (s : Session) (a b : String) (ask : Record → Record → Answer) : Answer × Session :=
  match s.records.get? a, s.records.get? b with
  | some a, some b =>
    match s.store.toRead a, s.store.toRead b with
    | .ok a, .ok b => (ask a b, s)
    | .error e, _ | .ok _, .error e => (.failed e, s)
  | _, _ => (.unbound, s)

def sameRecordCall (s : Session) (a b : String) : Answer × Session :=
  match s.records.get? a, s.records.get? b with
  | some a, some b => (.sameness (a == b) (a == b), s)
  | _, _ => (.unbound, s)

def conformsCall (s : Session) (record schema : String) : Answer × Session :=
  match s.records.get? record, s.schemas.get? schema with
  | some r, some schema =>
    (answerOr (fun record => .flag (record.conformsTo schema)) (s.store.toRead r), s)
  | _, _ => (.unbound, s)

def equalCall (s : Session) (a b : Operand) : Answer × Session :=
  match s.operand? a, s.operand? b with
  | some a, some b => (.flag (a == b), s)
  | _, _ => (.unbound, s)

/-! ## Changing records -/

def setCall (s : Session) (record binding : String) (value : Operand) : Answer × Session :=
  match s.records.get? record, s.operand? value with
  | some r, some value =>
    match s.store.set r binding value with
    | .error e => (.failed e, s)
    | .ok store => (.done, { s with store := store })
  | _, _ => (.unbound, s)

def putCall (s : Session) (record : String) (index : Nat) (value : Operand) : Answer × Session :=
  match s.records.get? record, s.operand? value with
  | some r, some value =>
    match s.store.assign r index value with
    | .error e => (.failed e, s)
    | .ok (found, store) => (.flag found, { s with store := store })
  | _, _ => (.unbound, s)

def lendCall (s : Session) (record : String) (mode : LoanMode) : Answer × Session :=
  match s.records.get? record with
  | none => (.unbound, s)
  | some r =>
    match s.store.lend r mode with
    | .error e => (.failed e, s)
    | .ok store => (.done, { s with store := store, loans := ⟨r, mode⟩ :: s.loans })

def endLoanCall (s : Session) : Answer × Session :=
  match s.loans with
  | [] => (.unbound, s)
  | loan :: loans => (.done, { s with store := s.store.giveBack loan.record, loans := loans })

end LoopScope.Session
