import LoopScope.Event
import LoopScope.Json.Codec
/-!
# Events as JSON, one to a line
-/
namespace LoopScope

instance : JsonCodec Context where
  toJson c := Json.ofFields
    [("trace_id", JsonCodec.toJson c.traceId), ("decision_id", JsonCodec.toJson c.decisionId),
     ("policy_id", JsonCodec.toJson c.policyId)]
  ofJson? j := do
    match ← Json.structure? ["trace_id", "decision_id", "policy_id"] j with
    | [traceId, decisionId, policyId] =>
      some ⟨← Json.required? traceId, ← Json.required? decisionId, ← Json.required? policyId⟩
    | _ => none

namespace Event

def keys : List String :=
  ["trace_id", "decision_id", "policy_id", "component", "event", "outcome", "error_code",
   "schema_hash", "slot_count"]

end Event

instance : JsonCodec Event where
  toJson e := Json.ofFields
    [("trace_id", JsonCodec.toJson e.traceId), ("decision_id", JsonCodec.toJson e.decisionId),
     ("policy_id", JsonCodec.toJson e.policyId), ("component", JsonCodec.toJson e.component),
     ("event", JsonCodec.toJson e.event), ("outcome", JsonCodec.toJson e.outcome),
     ("error_code", JsonCodec.toJson e.errorCode), ("schema_hash", JsonCodec.toJson e.schemaHash),
     ("slot_count", JsonCodec.toJson e.slotCount)]
  ofJson? j := do
    match ← Json.structure? Event.keys j with
    | [traceId, decisionId, policyId, component, event, outcome, errorCode, schemaHash,
        slotCount] =>
      some ⟨← Json.required? traceId, ← Json.required? decisionId, ← Json.required? policyId,
        ← Json.required? component, ← Json.required? event, ← Json.required? outcome,
        ← Json.optional? errorCode, ← Json.required? schemaHash, ← Json.required? slotCount⟩
    | _ => none

namespace Event

/-- One JSON object to a line, each line ended. -/
def renderLines (events : List Event) : String :=
  String.join (events.map fun e => Json.encode e ++ "\n")

end Event

end LoopScope
