import LoopScope.Codec.Schema
import LoopScope.Error
/-!
# Failures as JSON
-/
namespace LoopScope

namespace RecordRole

def all : List RecordRole := [source, destination]

end RecordRole

instance : JsonCodec RecordRole where
  toJson role := Json.ofString role.render
  ofJson? := Json.constant? (RecordRole.all.map fun role => (role.render, role))

instance : JsonCodec ScopeError where
  toJson
    | .arityMismatch reads writes => Json.ofAlternative "ArityMismatch" <| Json.ofFields
        [("reads", JsonCodec.toJson reads), ("writes", JsonCodec.toJson writes)]
    | .schemaLengthMismatch schemaSlots accessors =>
      Json.ofAlternative "SchemaLengthMismatch" <| Json.ofFields
        [("schema_slots", JsonCodec.toJson schemaSlots), ("accessors", JsonCodec.toJson accessors)]
    | .accessorMisaligned position readIndex writeIndex =>
      Json.ofAlternative "AccessorMisaligned" <| Json.ofFields
        [("position", JsonCodec.toJson position), ("read_index", JsonCodec.toJson readIndex),
         ("write_index", JsonCodec.toJson writeIndex)]
    | .schemaTooLarge slots maxSlots => Json.ofAlternative "SchemaTooLarge" <| Json.ofFields
        [("slots", JsonCodec.toJson slots), ("max_slots", JsonCodec.toJson maxSlots)]
    | .parentLinkDiverged destinationParent sourceParent =>
      Json.ofAlternative "ParentLinkDiverged" <| Json.ofFields
        [("destination_parent", JsonCodec.toJson destinationParent),
         ("source_parent", JsonCodec.toJson sourceParent)]
    | .nonConformantRecord role expectedHash foundSlots =>
      Json.ofAlternative "NonConformantRecord" <| Json.ofFields
        [("role", JsonCodec.toJson role), ("expected_hash", JsonCodec.toJson expectedHash),
         ("found_slots", JsonCodec.toJson foundSlots)]
    | .missingSlot index => Json.ofAlternative "MissingSlot" <| Json.ofFields
        [("index", JsonCodec.toJson index)]
    | .unknownBinding name => Json.ofAlternative "UnknownBinding" <| Json.ofFields
        [("name", JsonCodec.toJson name)]
    | .recordBusy => Json.ofString "RecordBusy"
    | .schema defect => Json.ofAlternative "Schema" (JsonCodec.toJson defect)
  ofJson? j := do
    let (name, content) ← Json.alternative? j
    if name = "ArityMismatch" then
      match ← content.bind (Json.structure? ["reads", "writes"]) with
      | [reads, writes] => some (.arityMismatch (← Json.required? reads) (← Json.required? writes))
      | _ => none
    else if name = "SchemaLengthMismatch" then
      match ← content.bind (Json.structure? ["schema_slots", "accessors"]) with
      | [slots, accessors] =>
        some (.schemaLengthMismatch (← Json.required? slots) (← Json.required? accessors))
      | _ => none
    else if name = "AccessorMisaligned" then
      match ← content.bind (Json.structure? ["position", "read_index", "write_index"]) with
      | [position, readIndex, writeIndex] =>
        some (.accessorMisaligned (← Json.required? position) (← Json.required? readIndex)
          (← Json.required? writeIndex))
      | _ => none
    else if name = "SchemaTooLarge" then
      match ← content.bind (Json.structure? ["slots", "max_slots"]) with
      | [slots, maxSlots] =>
        some (.schemaTooLarge (← Json.required? slots) (← Json.required? maxSlots))
      | _ => none
    else if name = "ParentLinkDiverged" then
      match ← content.bind (Json.structure? ["destination_parent", "source_parent"]) with
      | [destination, source] =>
        some (.parentLinkDiverged (← Json.required? destination) (← Json.required? source))
      | _ => none
    else if name = "NonConformantRecord" then
      match ← content.bind (Json.structure? ["role", "expected_hash", "found_slots"]) with
      | [role, expectedHash, foundSlots] =>
        some (.nonConformantRecord (← Json.required? role) (← Json.required? expectedHash)
          (← Json.required? foundSlots))
      | _ => none
    else if name = "MissingSlot" then
      match ← content.bind (Json.structure? ["index"]) with
      | [index] => (Json.required? index).map .missingSlot
      | _ => none
    else if name = "UnknownBinding" then
      match ← content.bind (Json.structure? ["name"]) with
      | [name] => (Json.required? name).map .unknownBinding
      | _ => none
    else if name = "RecordBusy" then (Json.noContent? content).map fun _ => .recordBusy
    else if name = "Schema" then (Json.required? content).map .schema
    else none

end LoopScope
