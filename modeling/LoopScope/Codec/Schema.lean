import LoopScope.Json.Codec
import LoopScope.Schema
/-!
# Slots and schemas as JSON

A schema is written as the list of its slots. Reading one builds it again from that list, so the
text of a schema can neither hold an invalid layout nor bring a fingerprint of its own.
-/
namespace LoopScope

namespace SlotKind

def name : SlotKind → String
  | parentLink => "parent_link"
  | letBinding => "let"
  | constBinding => "const"

def all : List SlotKind := [parentLink, letBinding, constBinding]

end SlotKind

instance : JsonCodec SlotKind where
  toJson kind := Json.ofString kind.name
  ofJson? := Json.constant? (SlotKind.all.map fun kind => (kind.name, kind))

instance : JsonCodec Slot where
  toJson slot := Json.ofFields
    [("name", JsonCodec.toJson slot.name), ("binding_id", JsonCodec.toJson slot.bindingId),
     ("kind", JsonCodec.toJson slot.kind)]
  ofJson? j := do
    match ← Json.structure? ["name", "binding_id", "kind"] j with
    | [name, bindingId, kind] =>
      some ⟨← Json.required? name, ← Json.optional? bindingId, ← Json.required? kind⟩
    | _ => none

instance : JsonCodec SchemaError where
  toJson
    | .empty => Json.ofString "Empty"
    | .missingParentLink name found => Json.ofAlternative "MissingParentLink" <| Json.ofFields
        [("name", JsonCodec.toJson name), ("found", JsonCodec.toJson found)]
    | .misplacedParentLink index => Json.ofAlternative "MisplacedParentLink" <| Json.ofFields
        [("index", JsonCodec.toJson index)]
    | .duplicateBinding name => Json.ofAlternative "DuplicateBinding" <| Json.ofFields
        [("name", JsonCodec.toJson name)]
  ofJson? j := do
    let (name, content) ← Json.alternative? j
    if name = "Empty" then (Json.noContent? content).map fun _ => .empty
    else if name = "MissingParentLink" then
      match ← content.bind (Json.structure? ["name", "found"]) with
      | [name, found] => some (.missingParentLink (← Json.required? name) (← Json.required? found))
      | _ => none
    else if name = "MisplacedParentLink" then
      match ← content.bind (Json.structure? ["index"]) with
      | [index] => (Json.required? index).map .misplacedParentLink
      | _ => none
    else if name = "DuplicateBinding" then
      match ← content.bind (Json.structure? ["name"]) with
      | [name] => (Json.required? name).map .duplicateBinding
      | _ => none
    else none

/-- Why a text is no schema. -/
inductive SchemaTextError
  /-- The text is not JSON, or not a list of slots. -/
  | malformed
  /-- The text starts with a list of slots that is no valid layout. -/
  | invalid (defect : SchemaError)
deriving DecidableEq, Repr

namespace Schema

/-- The schema of the slots that a text lists. The list is judged before what follows it. -/
def ofTextBy (digest : Layout.DigestFunction) (text : String) : Except SchemaTextError Schema :=
  match Json.readValue text.toList with
  | none => .error .malformed
  | some (j, rest) =>
    match (JsonCodec.ofJson? j : Option (List Slot)) with
    | none => .error .malformed
    | some slots =>
      match ofSlotsBy digest slots with
      | .error defect => .error (.invalid defect)
      | .ok schema => if (Json.skipBlanks rest).isEmpty then .ok schema else .error .malformed

def ofText (text : String) : Except SchemaTextError Schema :=
  ofTextBy Sha256.digest text

end Schema

instance : JsonCodec Schema where
  toJson schema := JsonCodec.toJson schema.slots
  ofJson? j := (JsonCodec.ofJson? j : Option (List Slot)).bind fun slots =>
    (Schema.ofSlots slots).toOption

end LoopScope
