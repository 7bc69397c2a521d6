import LoopScope.Config
import LoopScope.Event
import LoopScope.Store.Access
/-!
# Iteration operators

A loop whose header declares bindings gives every iteration its own copy of them, so that closures
of one iteration keep seeing that iteration's record. An operator carries the bindings from one
record to the next, in one of two ways: `materialize` makes a fresh record, for when a closure may
hold the old one, and `copyInto` refreshes a record in place, for when none does. Which of the two
is right is the caller's decision.
-/
namespace LoopScope

structure Operator where
  schema : SharedSchema
  reads : List Accessor
  writes : List Accessor
  config : Config
  context : Context
  log : List Event
deriving DecidableEq, Repr

namespace Operator

def slotCount (op : Operator) : Nat := op.schema.schema.length

/-- Appends an event about this operator to its log. -/
def logEvent (op : Operator) (event : String) (errorCode : Option String) : Operator :=
  { op with
    log := op.log ++
      [.make op.context event errorCode op.schema.schema.contentHash op.schema.schema.length] }

/-! ## Construction -/

/-- The first pair of accessors, from `position` on, that does not target the slot at its own
position. -/
def firstMisaligned? (position : Nat) : (reads writes : List Accessor) → Option ScopeError
  | read :: reads, write :: writes =>
    if read.index ≠ position ∨ write.index ≠ position then
      some (.accessorMisaligned position read.index write.index)
    else firstMisaligned? (position + 1) reads writes
  | _, _ => none

/-- An operator from lists of accessors that target the slots of the schema one by one. -/
def build (schema : SharedSchema) (reads writes : List Accessor) (config : Config)
    (context : Context) : Except ScopeError Operator :=
  if reads.length ≠ writes.length then
    .error (.arityMismatch reads.length writes.length)
  else if config.maxSlots < schema.schema.length then
    .error (.schemaTooLarge schema.schema.length config.maxSlots)
  else if reads.length ≠ schema.schema.length then
    .error (.schemaLengthMismatch schema.schema.length reads.length)
  else
    match firstMisaligned? 0 reads writes with
    | some e => .error e
    | none =>
      .ok (logEvent ⟨schema, reads, writes, config, context, []⟩ "iteration_scope_created" none)

/-- The operator with one fresh pair of accessors for each slot. -/
def forSchema (schema : SharedSchema) (config : Config) (context : Context) :
    Except ScopeError Operator :=
  build schema (Accessor.forSchema schema.schema) (Accessor.forSchema schema.schema) config context

/-- The operator for a list of slots, which become the schema instance `number`. -/
def ofSlotsBy (digest : Layout.DigestFunction) (number : Nat) (slots : List Slot)
    (config : Config) (context : Context) : Except ScopeError Operator :=
  match Schema.ofSlotsBy digest slots with
  | .error defect => .error (.schema defect)
  | .ok schema => forSchema ⟨number, schema⟩ config context

/-! ## Copies -/

/-- Refuses a record that is not laid out by the operator's schema. -/
def checkConformance (op : Operator) (record : Record) (role : RecordRole) :
    Except ScopeError Unit :=
  if record.conformsTo op.schema then .ok ()
  else .error (.nonConformantRecord role op.schema.schema.contentHash record.length)

/-- Logs how a copy went: failures always, successes where the configuration asks for it. -/
def logOutcome (op : Operator) (event : String) : Except ScopeError Unit → Operator
  | .ok () => if op.config.traceCopies then op.logEvent event none else op
  | .error e => op.logEvent event (some e.code)

/-- The record that continues `source`, and the operator after moving its values. -/
def nextRecord (op : Operator) (source : Record) : Except ScopeError Record × Operator :=
  let moved := moveSlots source op.reads op.writes (.new op.schema .tdz source.arguments)
  (moved.outcome.map fun _ => moved.destination,
    { op with reads := moved.reads, writes := moved.writes })

/-- Makes the next iteration's record. Its slots hold what the slots of `source` hold, the parent
link included, and both share one argument list; `source` stays as it is. -/
def materialize (op : Operator) (s : Store) (source : RecordId) :
    Except ScopeError RecordId × Operator × Store :=
  let attempt : Except ScopeError Record × Operator :=
    match s.toRead source with
    | .error e => (.error e, op)
    | .ok record =>
      match op.checkConformance record .source with
      | .error e => (.error e, op)
      | .ok () => op.nextRecord record
  match attempt with
  | (.error e, op) => (.error e, op.logOutcome "materialize" (.error e), s)
  | (.ok record, op) =>
    let (r, s) := s.create record
    (.ok r, op.logOutcome "materialize" (.ok ()), s)

/-- Moves the bindings of `source` into `destination`; slot 0 and its accessors stay out of it. -/
def refresh (op : Operator) (source destination : Record) :
    Except ScopeError Unit × Operator × Record :=
  let skip := parentSlot + 1
  let moved := moveSlots source (op.reads.drop skip) (op.writes.drop skip) destination
  (moved.outcome,
    { op with
      reads := op.reads.take skip ++ moved.reads
      writes := op.writes.take skip ++ moved.writes },
    moved.destination)

/-- What speaks against a refresh of `destination` from another record. -/
def checkRefresh (op : Operator) (debugChecks : Bool) (source destination : Record) :
    Except ScopeError Unit :=
  match op.checkConformance source .source with
  | .error e => .error e
  | .ok () =>
    match op.checkConformance destination .destination with
    | .error e => .error e
    | .ok () =>
      if op.config.parentLinkCheck.enabled debugChecks ∧
          destination.parent? ≠ source.parent? then
        .error (.parentLinkDiverged destination.renderParent source.renderParent)
      else .ok ()

/-- Both records of a refresh: the source to read from, the destination to write to. -/
def borrowPair (s : Store) (destination source : RecordId) : Except ScopeError (Record × Record) :=
  match s.toRead source with
  | .error e => .error e
  | .ok sourceRecord =>
    match s.toWrite destination with
    | .error e => .error e
    | .ok destinationRecord => .ok (sourceRecord, destinationRecord)

/-- Refreshes a record with the bindings of another. Slot 0 stays, and a record refreshed from
itself stays as it is. -/
def copyInto (op : Operator) (debugChecks : Bool) (s : Store) (destination source : RecordId) :
    Except ScopeError Unit × Operator × Store :=
  if destination = source then
    let outcome :=
      match s.toRead source with
      | .error e => .error e
      | .ok record => op.checkConformance record .source
    (outcome, op.logOutcome "copy_into" outcome, s)
  else
    match borrowPair s destination source with
    | .error e => (.error e, op.logOutcome "copy_into" (.error e), s)
    | .ok (sourceRecord, destinationRecord) =>
      match op.checkRefresh debugChecks sourceRecord destinationRecord with
      | .error e => (.error e, op.logOutcome "copy_into" (.error e), s)
      | .ok () =>
        let (outcome, op, changed) := op.refresh sourceRecord destinationRecord
        (outcome, op.logOutcome "copy_into" outcome, s.putSlots destination changed.slots)

/-! ## Duplicates and logs -/

/-- A duplicate for another compilation context, with nothing seen and nothing logged, and this
operator, which logs that it was duplicated. -/
def cloneUninitialized (op : Operator) : Operator × Operator :=
  ({ op with
      reads := op.reads.map Accessor.reset
      writes := op.writes.map Accessor.reset
      log := [] },
    op.logEvent "iteration_scope_cloned" none)

/-- The log, and the operator with its log emptied. -/
def drain (op : Operator) : List Event × Operator := (op.log, { op with log := [] })

/-- Puts a read accessor that has moved something back in its place. -/
def replaceRead (op : Operator) (position : Nat) (a : Accessor) : Operator :=
  { op with reads := op.reads.set position a }

/-- Puts a write accessor that has moved something back in its place. -/
def replaceWrite (op : Operator) (position : Nat) (a : Accessor) : Operator :=
  { op with writes := op.writes.set position a }

end Operator

end LoopScope
