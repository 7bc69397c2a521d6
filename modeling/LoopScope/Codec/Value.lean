import LoopScope.Json.Codec
import LoopScope.Profile
/-!
# Handles, kinds and profiles as JSON
-/
namespace LoopScope

instance : JsonCodec ObjectHandle where
  toJson h := JsonCodec.toJson h.number
  ofJson? j := (JsonCodec.ofJson? j).map ObjectHandle.mk

instance : JsonCodec ClosureHandle where
  toJson h := JsonCodec.toJson h.number
  ofJson? j := (JsonCodec.ofJson? j).map ClosureHandle.mk

namespace ValueKind

def name : ValueKind → String
  | nullish => "Nullish"
  | boolean => "Boolean"
  | number => "Number"
  | string => "String"
  | reference => "Reference"
  | uninitialized => "Uninitialized"

def all : List ValueKind := [nullish, boolean, number, string, reference, uninitialized]

end ValueKind

instance : JsonCodec ValueKind where
  toJson kind := Json.ofString kind.name
  ofJson? := Json.constant? (ValueKind.all.map fun kind => (kind.name, kind))

instance : JsonCodec Profile where
  toJson
    | .uninitialized => Json.ofString "uninitialized"
    | .monomorphic kind => Json.ofAlternative "monomorphic" (JsonCodec.toJson kind)
    | .generic => Json.ofString "generic"
  ofJson? j := do
    let (name, content) ← Json.alternative? j
    if name = "uninitialized" then (Json.noContent? content).map fun _ => .uninitialized
    else if name = "monomorphic" then (Json.required? content).map .monomorphic
    else if name = "generic" then (Json.noContent? content).map fun _ => .generic
    else none

end LoopScope
