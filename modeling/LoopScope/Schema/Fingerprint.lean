import LoopScope.Digest.Sha256
import LoopScope.Schema.Basic
/-!
# Fingerprints of layouts

A list of slots is written as bytes, one slot after the other: a byte for the kind, eight bytes
for the binding number, eight for the length of the name, and the name in UTF-8. The fingerprint
is the digest of those bytes in hexadecimal, after the name of the digest.
-/
namespace LoopScope.Layout

/-- A function from byte strings to digests. -/
abbrev DigestFunction := List UInt8 → List UInt8

def kindByte : SlotKind → UInt8
  | .parentLink => 0
  | .letBinding => 1
  | .constBinding => 2

/-- The number written for a binding: one that no 32-bit number reaches where there is none. -/
def bindingNumber : Option UInt32 → Nat
  | some id => id.toNat
  | none => UInt64.size - 1

def slotBytes (slot : Slot) : List UInt8 :=
  kindByte slot.kind :: Bytes.bigEndian 8 (bindingNumber slot.bindingId)
    ++ Bytes.bigEndian 8 (Bytes.utf8 slot.name).length ++ Bytes.utf8 slot.name

def bytes (slots : List Slot) : List UInt8 :=
  slots.flatMap slotBytes

@[simp] theorem bytes_nil : bytes [] = [] := rfl

@[simp] theorem bytes_cons (slot : Slot) (slots : List Slot) :
    bytes (slot :: slots) = slotBytes slot ++ bytes slots := rfl

/-- The text of a digest. -/
def digestText (digest : List UInt8) : String :=
  "sha256:" ++ String.ofList (Bytes.hex digest)

/-- The fingerprint of a list of slots under a digest function. -/
def fingerprint (digest : DigestFunction) (slots : List Slot) : String :=
  digestText (digest (bytes slots))

end LoopScope.Layout
