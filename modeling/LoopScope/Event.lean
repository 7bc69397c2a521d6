/-!
# Events

What an operator did, as its log keeps it: the correlation ids of the operator, what was done, and
the code of the failure if it failed.
-/
namespace LoopScope

/-- Correlation ids that every event of an operator carries. -/
structure Context where
  traceId : String
  decisionId : String
  policyId : String
deriving DecidableEq, Repr

def Context.blank : Context := ⟨"", "", ""⟩

structure Event where
  traceId : String
  decisionId : String
  policyId : String
  component : String
  event : String
  outcome : String
  errorCode : Option String
  schemaHash : String
  slotCount : Nat
deriving DecidableEq, Repr

namespace Event

/-- The event of an operation that passed, or that failed with a code. -/
def make (context : Context) (event : String) (errorCode : Option String) (schemaHash : String)
    (slotCount : Nat) : Event where
  traceId := context.traceId
  decisionId := context.decisionId
  policyId := context.policyId
  component := "iteration_scope"
  event := event
  outcome := if errorCode.isSome then "fail" else "pass"
  errorCode := errorCode
  schemaHash := schemaHash
  slotCount := slotCount

end Event

end LoopScope
