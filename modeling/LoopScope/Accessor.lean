import LoopScope.Profile
import LoopScope.Record
/-!
# Slot accessors

An accessor reads or writes one slot of any record and remembers which kinds of values it has
moved. `moveSlots` carries the values of one record to another through two lists of accessors.
-/
namespace LoopScope

structure Accessor where
  index : Nat
  profile : Profile
deriving DecidableEq, Repr

namespace Accessor

/-- An accessor that has moved nothing yet. -/
def fresh (index : Nat) : Accessor := ⟨index, .uninitialized⟩

/-- The same slot with nothing seen. -/
def reset (a : Accessor) : Accessor := fresh a.index

def observe (a : Accessor) (value : Value) : Accessor :=
  { a with profile := a.profile.observe value.kind }

/-- The value in the slot. A record without the slot leaves no trace in the profile. -/
def read (a : Accessor) (r : Record) : Except ScopeError (Value × Accessor) :=
  match r.slot? a.index with
  | some value => .ok (value, a.observe value)
  | none => .error (.missingSlot a.index)

/-- The record with another value in the slot. -/
def write (a : Accessor) (r : Record) (value : Value) : Except ScopeError (Record × Accessor) :=
  match r.assign? a.index value with
  | some r => .ok (r, a.observe value)
  | none => .error (.missingSlot a.index)

/-- One accessor for each slot, parent link included. -/
def forSchema (schema : Schema) : List Accessor :=
  (List.range schema.length).map fresh

end Accessor

/-- How far a walk over two lists of accessors came: its outcome, the accessors and the
destination afterwards. -/
structure Moved where
  outcome : Except ScopeError Unit
  reads : List Accessor
  writes : List Accessor
  destination : Record

/-- Reads with each accessor of the first list from `source` and writes what it gives with its
partner of the second list. The first failure ends the walk. -/
def moveSlots (source : Record) :
    (reads writes : List Accessor) → (destination : Record) → Moved
  | read :: reads, write :: writes, destination =>
    match read.read source with
    | .error e => ⟨.error e, read :: reads, write :: writes, destination⟩
    | .ok (value, read) =>
      match write.write destination value with
      | .error e => ⟨.error e, read :: reads, write :: writes, destination⟩
      | .ok (destination, write) =>
        let rest := moveSlots source reads writes destination
        { rest with reads := read :: rest.reads, writes := write :: rest.writes }
  | reads, writes, destination => ⟨.ok (), reads, writes, destination⟩

end LoopScope
