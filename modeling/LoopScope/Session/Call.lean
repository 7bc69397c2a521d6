import LoopScope.Config.Entries
import LoopScope.Operator
/-!
# Calls and answers

A client works with schemas, argument lists, records, operators and accessors under names of its
own. A call names what it works on; the answer says what came of it. A call that makes something
binds the name it is given only if it succeeds.
-/
namespace LoopScope

/-- A value that a call hands over: a plain one, or a reference to a named record. -/
inductive Operand
  | value (v : Value)
  | scope (record : String)
deriving DecidableEq, Repr

/-- An accessor of its own, or one of an operator. -/
inductive AccessorName
  | standalone (name : String)
  | ofOperator (operator : String) (position : Nat)
deriving DecidableEq, Repr

/-- Where the configuration of a new operator comes from. -/
inductive ConfigSource
  | given (config : Config)
  | toml (text : String)
deriving DecidableEq, Repr

def ConfigSource.resolve : ConfigSource → Except ConfigError Config
  | given config => .ok config
  | toml text => Config.ofToml text

/-- What a new operator is built from. -/
inductive OperatorSource
  | slots (slots : List Slot)
  /-- A schema and the slots that each read and each write accessor targets. -/
  | accessors (schema : String) (reads writes : List Nat)
  | schema (schema : String)
deriving DecidableEq, Repr

inductive Call
  | schema (as : String) (slots : List Slot)
  | arguments (as : String) (values : List Operand)
  | dropArguments (name : String)
  | record (as schema : String) (parent : Operand) (arguments : Option String)
  | root (as schema : String)
  | cloneRecord (as record : String)
  | alias (as record : String)
  | drop (record : String)
  | get (record binding : String)
  | set (record binding : String) (value : Operand)
  | parent (record : String)
  | slot (record : String) (index : Nat)
  | put (record : String) (index : Nat) (value : Operand)
  | snapshot (record : String)
  | info (record : String)
  | holders (record : String)
  | sameRecord (a b : String)
  | sameArguments (a b : String)
  | sameSchema (a b : String)
  | conforms (record schema : String)
  | equal (a b : Operand)
  | render (value : Operand)
  /-- Opens a loan of a record, which lasts until `endLoan`. Loans end in the opposite order. -/
  | lend (record : String) (mode : LoanMode)
  | endLoan
  | reader (as : String) (index : Nat)
  | writer (as : String) (index : Nat)
  | read (record : String) (accessor : AccessorName)
  | write (record : String) (accessor : AccessorName) (value : Operand)
  | cloneReader (as : String) (accessor : AccessorName)
  | cloneWriter (as : String) (accessor : AccessorName)
  | accessors (schema : String)
  | operator (as : String) (config : ConfigSource) (context : Context) (source : OperatorSource)
  | cloneOperator (as operator : String)
  | materialize (as operator source : String)
  | copyInto (operator destination source : String)
  | events (operator : String)
  | drain (operator : String)
  | lines (operator : String)
  | profiles (operator : String)
  | operatorInfo (operator : String) (other : Option String)
deriving DecidableEq, Repr

/-- What `info` tells about a record. -/
structure RecordInfo where
  record : RecordId
  length : Nat
  isEmpty : Bool
  contentHash : String
  parent : Value
  arguments : List Value
deriving DecidableEq, Repr

/-- What `operatorInfo` tells about an operator. -/
structure OperatorInfo where
  slotCount : Nat
  bindingNames : List String
  contentHash : String
  config : Config
  context : Context
  checkEnabled : Bool
  /-- Whether another operator has the same schema instance, if one was named. -/
  sharesSchema : Option Bool
deriving DecidableEq, Repr

inductive Answer
  | done
  | flag (b : Bool)
  | count (n : Nat)
  | record (r : RecordId)
  | value (v : Value)
  | optionalValue (v : Option Value)
  | schema (length : Nat) (contentHash : String)
  | snapshot (s : RecordSnapshot)
  | info (i : RecordInfo)
  /-- Whether two things are one and the same, and whether they are equal. -/
  | sameness (identical equal : Bool)
  /-- What an accessor gave, and the accessor afterwards. -/
  | moved (accessor : Accessor) (outcome : Except ScopeError (Option Value))
  | accessor (accessor : Accessor)
  /-- The slots of the accessors for a schema, and the sizes of their uninitialized copies. -/
  | accessors (reads writes : List Nat) (clonedReads clonedWrites : Nat)
  | materialized (r : RecordId) (s : RecordSnapshot)
  | events (log : List Event)
  | text (s : String)
  | profiles (reads writes : List Profile)
  | operatorInfo (i : OperatorInfo)
  | failed (e : ScopeError)
  | invalidSchema (e : SchemaError)
  | invalidConfig (e : ConfigError)
  /-- The call uses a name that stands for nothing. -/
  | unbound
deriving Repr

end LoopScope
