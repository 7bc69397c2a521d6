import LoopScope.Config
import LoopScope.Json.Codec
/-!
# Configurations as JSON

A field that is missing has its default; a field of another name is refused. As a list of fields a
configuration may break off early.
-/
namespace LoopScope

namespace ParentLinkCheck

def name : ParentLinkCheck → String
  | debugOnly => "debug_only"
  | always => "always"
  | never => "never"

def all : List ParentLinkCheck := [debugOnly, always, never]

end ParentLinkCheck

instance : JsonCodec ParentLinkCheck where
  toJson check := Json.ofString check.name
  ofJson? := Json.constant? (ParentLinkCheck.all.map fun check => (check.name, check))

namespace Config

def parentLinkCheckKey : String := "parent_link_check"

def traceCopiesKey : String := "trace_copies"

def maxSlotsKey : String := "max_slots"

def keys : List String := [parentLinkCheckKey, traceCopiesKey, maxSlotsKey]

/-- The fields of a configuration in the order of `keys`. -/
def fieldsOfJson? : Json → Option (List (Option Json))
  | .array js =>
    if js.length ≤ keys.length then
      some (js.map some ++ List.replicate (keys.length - js.length) none)
    else none
  | .object fields => do
    let fields ← Json.plainFields? fields
    if fields.all fun f => keys.contains f.1 then keys.mapM (Json.field? fields) else none
  | _ => none

end Config

instance : JsonCodec Config where
  toJson c := Json.ofFields
    [(Config.parentLinkCheckKey, JsonCodec.toJson c.parentLinkCheck),
     (Config.traceCopiesKey, JsonCodec.toJson c.traceCopies),
     (Config.maxSlotsKey, JsonCodec.toJson c.maxSlots)]
  ofJson? j := do
    match ← Config.fieldsOfJson? j with
    | [check, trace, maxSlots] =>
      some ⟨← Json.withDefault? Config.default.parentLinkCheck check,
        ← Json.withDefault? Config.default.traceCopies trace,
        ← Json.withDefault? Config.default.maxSlots maxSlots⟩
    | _ => none

end LoopScope
