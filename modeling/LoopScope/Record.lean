import LoopScope.Error
import LoopScope.Schema
import LoopScope.Value
/-!
# Records

A record holds one value for each slot of its schema, and the argument list of the activation it
belongs to. A snapshot is a rendered view of one.
-/
namespace LoopScope

/-- An argument list, by its place in the order in which argument lists were made. -/
structure ArgumentsId where
  number : Nat
deriving DecidableEq, Repr

structure Record where
  schema : SharedSchema
  slots : List Value
  /-- All iteration records of one activation share its argument list. -/
  arguments : ArgumentsId
deriving DecidableEq, Repr

structure SlotSnapshot where
  name : String
  kind : SlotKind
  value : String
deriving DecidableEq, Repr

structure RecordSnapshot where
  schemaHash : String
  argumentCount : Nat
  slots : List SlotSnapshot
deriving DecidableEq, Repr

namespace Record

/-- A record with `parent` in slot 0 and no binding initialized. -/
def new (schema : SharedSchema) (parent : Value) (arguments : ArgumentsId) : Record :=
  ⟨schema, parent :: List.replicate (schema.schema.length - 1) .tdz, arguments⟩

def length (r : Record) : Nat := r.slots.length

def slot? (r : Record) (index : Nat) : Option Value := r.slots[index]?

def parent? (r : Record) : Option Value := r.slot? parentSlot

/-- The value of a binding. -/
def binding? (r : Record) (name : String) : Option Value :=
  (r.schema.schema.indexOf? name).bind r.slot?

/-- The record with another value in one slot, if it has that slot. -/
def assign? (r : Record) (index : Nat) (value : Value) : Option Record :=
  if index < r.length then some { r with slots := r.slots.set index value } else none

/-- Whether a record is laid out by this schema, be it this instance or one of the same
fingerprint, and holds just one value for each of its slots. -/
def conformsTo (r : Record) (schema : SharedSchema) : Bool :=
  (r.schema.number == schema.number ||
      r.schema.schema.contentHash == schema.schema.contentHash) &&
    r.length == schema.schema.length

def snapshot (r : Record) (argumentCount : Nat) : RecordSnapshot where
  schemaHash := r.schema.schema.contentHash
  argumentCount := argumentCount
  slots := r.schema.schema.slots.zipWith (fun slot value => ⟨slot.name, slot.kind, value.render⟩)
    r.slots

/-- The text of slot 0 in a diagnostic. -/
def renderParent (r : Record) : String :=
  (r.parent?.map Value.render).getD "<missing>"

end Record

end LoopScope
