import LoopScope.Codec.Schema
import LoopScope.Record
/-!
# Snapshots as JSON
-/
namespace LoopScope

instance : JsonCodec SlotSnapshot where
  toJson s := Json.ofFields
    [("name", JsonCodec.toJson s.name), ("kind", JsonCodec.toJson s.kind),
     ("value", JsonCodec.toJson s.value)]
  ofJson? j := do
    match ← Json.structure? ["name", "kind", "value"] j with
    | [name, kind, value] =>
      some ⟨← Json.required? name, ← Json.required? kind, ← Json.required? value⟩
    | _ => none

instance : JsonCodec RecordSnapshot where
  toJson s := Json.ofFields
    [("schema_hash", JsonCodec.toJson s.schemaHash),
     ("argument_count", JsonCodec.toJson s.argumentCount), ("slots", JsonCodec.toJson s.slots)]
  ofJson? j := do
    match ← Json.structure? ["schema_hash", "argument_count", "slots"] j with
    | [schemaHash, argumentCount, slots] =>
      some ⟨← Json.required? schemaHash, ← Json.required? argumentCount, ← Json.required? slots⟩
    | _ => none

end LoopScope
