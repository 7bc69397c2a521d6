/-!
# Values

What a slot or an argument can hold. Primitive values are copied; object, closure and scope
references are copied as references, so two slots that hold one scope reference share one record.
Equality of values is equality of content, and for references it is identity.
-/
namespace LoopScope

/-- An object of the host. -/
structure ObjectHandle where
  number : UInt64
deriving DecidableEq, Repr

/-- A closure of the host. -/
structure ClosureHandle where
  number : UInt32
deriving DecidableEq, Repr

instance : LE ObjectHandle := ⟨fun a b => a.number ≤ b.number⟩

instance : LE ClosureHandle := ⟨fun a b => a.number ≤ b.number⟩

instance (a b : ObjectHandle) : Decidable (a ≤ b) := inferInstanceAs (Decidable (a.number ≤ b.number))

instance (a b : ClosureHandle) : Decidable (a ≤ b) := inferInstanceAs (Decidable (a.number ≤ b.number))

/-- A record, by its place in the order in which records were created. -/
structure RecordId where
  number : Nat
deriving DecidableEq, Repr

/-- Coarse classes of values. -/
inductive ValueKind
  | nullish
  | boolean
  | number
  | string
  | reference
  | uninitialized
deriving DecidableEq, Repr

inductive Value
  | undefined
  | null
  | bool (b : Bool)
  /-- A fixed-point number in millionths. -/
  | number (millionths : Int64)
  | string (s : String)
  | object (handle : ObjectHandle)
  | closure (handle : ClosureHandle)
  /-- A reference to a scope record. -/
  | scope (record : RecordId)
  /-- The mark of a binding that is not initialized yet. -/
  | tdz
deriving DecidableEq, Repr

namespace Value

/-- The number of millionths in one. -/
def unit : Int := 1000000

/-- The nearest number to `n` whole units: past the ends of the range the end is taken. -/
def whole (n : Int64) : Value :=
  let millionths := n.toInt * unit
  .number (Int64.ofInt (max Int64.minValue.toInt (min Int64.maxValue.toInt millionths)))

def kind : Value → ValueKind
  | undefined | null => .nullish
  | bool _ => .boolean
  | number _ => .number
  | string _ => .string
  | object _ | closure _ | scope _ => .reference
  | tdz => .uninitialized

/-- The text that diagnostics print. A string stands between quotes as it is. -/
def render : Value → String
  | undefined => "undefined"
  | null => "null"
  | bool true => "true"
  | bool false => "false"
  | number n => toString n.toInt
  | string s => "\"" ++ s ++ "\""
  | object h => "ObjectRef(" ++ toString h.number.toNat ++ ")"
  | closure h => "ClosureRef(" ++ toString h.number.toNat ++ ")"
  | scope r => "Scope(#" ++ toString r.number ++ ")"
  | tdz => "<TDZ>"

/-- The record that a value keeps alive. -/
def record? : Value → Option RecordId
  | scope r => some r
  | _ => none

end Value

end LoopScope
