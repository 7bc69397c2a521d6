import LoopScope.Json.Parser
/-!
# Codecs

A codec writes the values of a type as JSON and reads them back. The combinators fix the shapes in
which structures and alternatives are written, and the wider shapes in which they are read: a
structure may also be a list of its fields, an alternative without content may also be an object
that holds null under its name.
-/
namespace LoopScope

class JsonCodec (α : Type) where
  toJson : α → Json
  ofJson? : Json → Option α

namespace Json

/-- The text of a value of a type. -/
def encode {α : Type} [JsonCodec α] (a : α) : String :=
  (JsonCodec.toJson a).render

/-- The value of a type that a whole text stands for. -/
def decode? {α : Type} [JsonCodec α] (text : String) : Option α :=
  (parse? text).bind JsonCodec.ofJson?

/-! ## Natural numbers and text -/

def natBelow? (bound : Nat) : Json → Option Nat
  | .natural n => if n < bound then some n else none
  | _ => none

instance : JsonCodec String := ⟨ofString, text?⟩

instance : JsonCodec Bool where
  toJson := .bool
  ofJson?
    | .bool b => some b
    | _ => none

instance : JsonCodec UInt32 where
  toJson n := .natural n.toNat
  ofJson? j := (natBelow? UInt32.size j).map UInt32.ofNat

instance : JsonCodec UInt64 where
  toJson n := .natural n.toNat
  ofJson? j := (natBelow? UInt64.size j).map UInt64.ofNat

/-- Counts and indices: only those below 2^64 are read. -/
instance : JsonCodec Nat := ⟨.natural, natBelow? UInt64.size⟩

instance {α : Type} [JsonCodec α] : JsonCodec (Option α) where
  toJson
    | none => .null
    | some a => JsonCodec.toJson a
  ofJson?
    | .null => some none
    | j => (JsonCodec.ofJson? j).map some

instance {α : Type} [JsonCodec α] : JsonCodec (List α) where
  toJson as := .array (as.map JsonCodec.toJson)
  ofJson?
    | .array js => js.mapM JsonCodec.ofJson?
    | _ => none

/-! ## Structures -/

/-- The values under a key, in order. -/
def valuesOf (key : String) (fields : List (String × Json)) : List Json :=
  fields.filterMap fun f => if f.1 = key then some f.2 else none

/-- The fields of an object, if all its keys are text. -/
def plainFields? (fields : List (Literal × Json)) : Option (List (String × Json)) :=
  fields.mapM fun
    | (.text key, j) => some (key, j)
    | (.halved _, _) => none

/-- The only value under a key, or none; a key that is repeated is refused. -/
def field? (fields : List (String × Json)) (key : String) : Option (Option Json) :=
  match valuesOf key fields with
  | [] => some none
  | [j] => some (some j)
  | _ :: _ :: _ => none

/-- The fields of a structure in the order of `keys`: from an object, where other keys are passed
over, or from a list of just as many elements. -/
def structure? (keys : List String) : Json → Option (List (Option Json))
  | .array js => if js.length = keys.length then some (js.map some) else none
  | .object fields => do keys.mapM (field? (← plainFields? fields))
  | _ => none

/-- A field that has to be there. -/
def required? {α : Type} [JsonCodec α] (j : Option Json) : Option α :=
  j.bind JsonCodec.ofJson?

/-- A field that is null if it is missing. -/
def optional? {α : Type} [JsonCodec α] (j : Option Json) : Option (Option α) :=
  match j with
  | none => some none
  | some j => JsonCodec.ofJson? j

/-- A field with a default. -/
def withDefault? {α : Type} [JsonCodec α] (default : α) (j : Option Json) : Option α :=
  match j with
  | none => some default
  | some j => JsonCodec.ofJson? j

/-! ## Alternatives -/

/-- The name of an alternative and its content, if it has any. -/
def alternative? : Json → Option (String × Option Json)
  | .string (.text name) => some (name, none)
  | .object [(.text name, content)] => some (name, some content)
  | _ => none

/-- The content of an alternative without any: nothing, or null. -/
def noContent? : Option Json → Option Unit
  | none | some .null => some ()
  | some _ => none

/-- An alternative with content: an object that holds the content under the name. -/
def ofAlternative (name : String) (content : Json) : Json :=
  ofFields [(name, content)]

/-- One of a list of named constants. -/
def constant? {α : Type} (names : List (String × α)) (j : Json) : Option α := do
  let (name, content) ← alternative? j
  noContent? content
  names.lookup name

end Json

end LoopScope
