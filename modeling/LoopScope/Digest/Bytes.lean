import LoopScope.Text.Basic
/-!
# Bytes

Big-endian fields and lower-case hexadecimal text, the two ways in which numbers and digests
become parts of a fingerprint.
-/
namespace LoopScope.Bytes

/-- The lowest `width` bytes of `n`, highest first. -/
def bigEndian : (width : Nat) → (n : Nat) → List UInt8
  | 0, _ => []
  | width + 1, n => UInt8.ofNat (n >>> (8 * width)) :: bigEndian width n

@[simp] theorem length_bigEndian (width n : Nat) : (bigEndian width n).length = width := by
  induction width with
  | zero => rfl
  | succ width ih => simp [bigEndian, ih]

/-- Two digits for each byte, the high half first. -/
def hex (bytes : List UInt8) : List Char :=
  bytes.flatMap fun b => Hex.pair b.toNat

@[simp] theorem hex_nil : hex [] = [] := rfl

@[simp] theorem hex_cons (b : UInt8) (bytes : List UInt8) :
    hex (b :: bytes) = Hex.pair b.toNat ++ hex bytes := rfl

/-- The UTF-8 bytes of a text. -/
def utf8 (s : String) : List UInt8 :=
  s.toUTF8.data.toList

end LoopScope.Bytes
