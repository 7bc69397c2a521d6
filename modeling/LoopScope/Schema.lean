import LoopScope.Schema.Fingerprint
/-!
# Schemas

A schema is a list of slots together with its fingerprint. `Schema.ofSlots` builds one from a
valid list and reports the first defect of any other. Scope analysis makes a schema once and all
iterations share it, so a schema in use has an identity besides its content.
-/
namespace LoopScope

/-- The place of the parent link in every layout. -/
def parentSlot : Nat := 0

structure Schema where
  slots : List Slot
  contentHash : String
deriving DecidableEq, Repr

namespace Schema

/-- The schema of a list of slots, with the fingerprint that `digest` gives. -/
def ofSlotsBy (digest : Layout.DigestFunction) (slots : List Slot) : Except SchemaError Schema :=
  match Layout.firstDefect? slots with
  | some defect => .error defect
  | none => .ok ⟨slots, Layout.fingerprint digest slots⟩

def ofSlots (slots : List Slot) : Except SchemaError Schema :=
  ofSlotsBy Sha256.digest slots

/-- The slots of a loop header: its bindings after the usual parent link. -/
def headerSlots (bindings : List (String × UInt32 × SlotKind)) : List Slot :=
  Slot.parent :: bindings.map fun b => Slot.binding b.1 b.2.1 b.2.2

/-- The number of slots, parent link included. -/
def length (s : Schema) : Nat := s.slots.length

def isEmpty (s : Schema) : Bool := s.slots.isEmpty

def slot? (s : Schema) (index : Nat) : Option Slot := s.slots[index]?

/-- The slots after the parent link. -/
def bindings (s : Schema) : List Slot := s.slots.drop (parentSlot + 1)

def bindingNames (s : Schema) : List String := s.bindings.map Slot.name

/-- The slot of the binding of this name. The name of slot 0 is never found there. -/
def indexOf? (s : Schema) (name : String) : Option Nat :=
  (s.bindings.findIdx? fun slot => slot.name == name).map (· + (parentSlot + 1))

end Schema

/-- A schema in use. Two of them are the same instance if their numbers agree. -/
structure SharedSchema where
  number : Nat
  schema : Schema
deriving DecidableEq, Repr

end LoopScope
