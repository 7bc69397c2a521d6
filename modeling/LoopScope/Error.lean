import LoopScope.Schema.Basic
/-!
# Failures

What can go wrong while an operator is built or used. None of it is an error of the program that
runs in the scopes: each points at a defect in scope analysis or in the code that runs the loop.
-/
namespace LoopScope

/-- Which argument of an operation a failure is about. -/
inductive RecordRole
  | source
  | destination
deriving DecidableEq, Repr

def RecordRole.render : RecordRole → String
  | source => "source"
  | destination => "destination"

inductive ScopeError
  | arityMismatch (reads writes : Nat)
  | schemaLengthMismatch (schemaSlots accessors : Nat)
  | accessorMisaligned (position readIndex writeIndex : Nat)
  | schemaTooLarge (slots maxSlots : Nat)
  | parentLinkDiverged (destinationParent sourceParent : String)
  | nonConformantRecord (role : RecordRole) (expectedHash : String) (foundSlots : Nat)
  | missingSlot (index : Nat)
  | unknownBinding (name : String)
  | recordBusy
  | schema (defect : SchemaError)
deriving DecidableEq, Repr

namespace ScopeError

def code : ScopeError → String
  | arityMismatch _ _ => "FE-ITER-0001"
  | schemaLengthMismatch _ _ => "FE-ITER-0002"
  | accessorMisaligned _ _ _ => "FE-ITER-0003"
  | schemaTooLarge _ _ => "FE-ITER-0004"
  | parentLinkDiverged _ _ => "FE-ITER-0005"
  | nonConformantRecord _ _ _ => "FE-ITER-0006"
  | missingSlot _ => "FE-ITER-0007"
  | unknownBinding _ => "FE-ITER-0008"
  | recordBusy => "FE-ITER-0009"
  | schema defect => defect.code

/-- Whether this failure is found while an operator is built, as opposed to while one runs. -/
def isConstructionFailure : ScopeError → Bool
  | arityMismatch _ _ | schemaLengthMismatch _ _ | accessorMisaligned _ _ _ | schemaTooLarge _ _
  | schema _ => true
  | parentLinkDiverged _ _ | nonConformantRecord _ _ _ | missingSlot _ | unknownBinding _
  | recordBusy => false

def message : ScopeError → String
  | arityMismatch reads writes =>
    s!"accessor arity mismatch: {reads} reads vs {writes} writes"
  | schemaLengthMismatch schemaSlots accessors =>
    s!"schema has {schemaSlots} slots but {accessors} accessor pairs were supplied"
  | accessorMisaligned position readIndex writeIndex =>
    s!"accessor pair at position {position} targets slots read={readIndex} write={writeIndex}"
  | schemaTooLarge slots maxSlots =>
    s!"schema has {slots} slots, above the configured limit of {maxSlots}"
  | parentLinkDiverged destinationParent sourceParent =>
    s!"parent link diverged: destination holds {destinationParent}, source holds {sourceParent}"
  | nonConformantRecord role expectedHash foundSlots =>
    s!"{role.render} record does not conform to schema {expectedHash} ({foundSlots} slots)"
  | missingSlot index => s!"slot {index} missing from record"
  | unknownBinding name => s!"binding '{name}' is not part of this scope"
  | recordBusy => "scope record is already borrowed"
  | schema defect => defect.message

end ScopeError

end LoopScope
