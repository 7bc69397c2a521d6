import LoopScope.Accessor
import LoopScope.Store.Basic
/-!
# Access to records

Reading and assigning the slots of a record in the store. Every operation first borrows the record
in the mode that it needs, so a busy record is reported before anything else.
-/
namespace LoopScope.Store

/-- The value of a binding. -/
def get (s : Store) (r : RecordId) (name : String) : Except ScopeError Value :=
  match s.toRead r with
  | .error e => .error e
  | .ok record =>
    match record.binding? name with
    | some value => .ok value
    | none => .error (.unknownBinding name)

/-- Assigns a binding. The parent link has no name here, so it cannot be assigned. -/
def set (s : Store) (r : RecordId) (name : String) (value : Value) : Except ScopeError Store :=
  match s.toWrite r with
  | .error e => .error e
  | .ok record =>
    match record.schema.schema.indexOf? name with
    | some index => .ok (s.putSlots r (record.slots.set index value))
    | none => .error (.unknownBinding name)

/-- The value in slot 0. -/
def parent (s : Store) (r : RecordId) : Except ScopeError Value :=
  match s.toRead r with
  | .error e => .error e
  | .ok record =>
    match record.parent? with
    | some value => .ok value
    | none => .error (.missingSlot parentSlot)

/-- Assigns any slot, slot 0 too. Answers whether the record has it. -/
def assign (s : Store) (r : RecordId) (index : Nat) (value : Value) :
    Except ScopeError (Bool × Store) :=
  match s.toWrite r with
  | .error e => .error e
  | .ok record =>
    match record.assign? index value with
    | some changed => .ok (true, s.putSlots r changed.slots)
    | none => .ok (false, s)

def snapshot (s : Store) (r : RecordId) : Except ScopeError RecordSnapshot :=
  match s.toRead r with
  | .error e => .error e
  | .ok record => .ok (record.snapshot (s.argumentValues record.arguments).length)

/-- Reads through an accessor. The first failure is that the record is busy; then the accessor
reports its own. -/
def readThrough (s : Store) (r : RecordId) (a : Accessor) :
    Except ScopeError (Except ScopeError Value × Accessor) :=
  match s.toRead r with
  | .error e => .error e
  | .ok record =>
    match a.read record with
    | .ok (value, a) => .ok (.ok value, a)
    | .error e => .ok (.error e, a)

/-- Writes through an accessor. -/
def writeThrough (s : Store) (r : RecordId) (a : Accessor) (value : Value) :
    Except ScopeError (Except ScopeError Unit × Accessor × Store) :=
  match s.toWrite r with
  | .error e => .error e
  | .ok record =>
    match a.write record value with
    | .ok (changed, a) => .ok (.ok (), a, s.putSlots r changed.slots)
    | .error e => .ok (.error e, a, s)

/-- A new record over an empty argument list of its own. -/
def createAlone (s : Store) (schema : SharedSchema) (parent : Value) : RecordId × Store :=
  let (arguments, s) := s.createArguments []
  let (r, s) := s.create (.new schema parent arguments)
  (r, s.release [.arguments arguments])

/-- A second record with the content of the first. -/
def clone (s : Store) (r : RecordId) : Except ScopeError (RecordId × Store) :=
  match s.toRead r with
  | .error e => .error e
  | .ok record => .ok (s.create record)

end LoopScope.Store
