import LoopScope.Session.Call
import LoopScope.Session.Table
/-!
# Sessions

A session is a store together with what its client holds: the names, and the loans that are open. A
name for a record or an argument list counts as one holder, and so does an open loan.
-/
namespace LoopScope

structure Loan where
  record : RecordId
  mode : LoanMode
deriving DecidableEq, Repr

structure Session where
  /-- Whether debug checks are on. No call changes it. -/
  debugChecks : Bool
  store : Store
  /-- The number of the next schema instance. -/
  nextSchema : Nat
  schemas : Table SharedSchema
  arguments : Table ArgumentsId
  records : Table RecordId
  operators : Table Operator
  readers : Table Accessor
  writers : Table Accessor
  /-- The open loans, the latest first. -/
  loans : List Loan
deriving Repr

namespace Session

def empty (debugChecks : Bool) : Session :=
  ⟨debugChecks, .empty, 0, .empty, .empty, .empty, .empty, .empty, .empty, []⟩

/-! ## Names -/

/-- Gives a name to a record that the client already holds for it. The record that had the name
before is let go. -/
def bindRecord (s : Session) (name : String) (r : RecordId) : Session :=
  { s with
    records := s.records.insert name r
    store := s.store.release ((s.records.get? name).toList.map .record) }

def bindArguments (s : Session) (name : String) (a : ArgumentsId) : Session :=
  { s with
    arguments := s.arguments.insert name a
    store := s.store.release ((s.arguments.get? name).toList.map .arguments) }

/-- The value of an operand. A record is referred to by name: a bare reference stands for nothing. -/
def operand? (s : Session) : Operand → Option Value
  | .value v => if v.record? = none then some v else none
  | .scope name => (s.records.get? name).map .scope

/-- Makes a schema instance. -/
def share (s : Session) (schema : Schema) : SharedSchema × Session :=
  (⟨s.nextSchema, schema⟩, { s with nextSchema := s.nextSchema + 1 })

def readAccessor? (s : Session) : AccessorName → Option Accessor
  | .standalone name => s.readers.get? name
  | .ofOperator name position => (s.operators.get? name).bind fun op => op.reads[position]?

def writeAccessor? (s : Session) : AccessorName → Option Accessor
  | .standalone name => s.writers.get? name
  | .ofOperator name position => (s.operators.get? name).bind fun op => op.writes[position]?

/-- Puts an accessor that was used back where it came from. -/
def putReadAccessor (s : Session) (a : Accessor) : AccessorName → Session
  | .standalone name => { s with readers := s.readers.insert name a }
  | .ofOperator name position =>
    match s.operators.get? name with
    | some op => { s with operators := s.operators.insert name (op.replaceRead position a) }
    | none => s

def putWriteAccessor (s : Session) (a : Accessor) : AccessorName → Session
  | .standalone name => { s with writers := s.writers.insert name a }
  | .ofOperator name position =>
    match s.operators.get? name with
    | some op => { s with operators := s.operators.insert name (op.replaceWrite position a) }
    | none => s

end Session

end LoopScope
