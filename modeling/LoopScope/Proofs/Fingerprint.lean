import LoopScope.Schema.Fingerprint
import Mathlib
/-!
# Layouts and their bytes

The bytes that are digested for a layout determine it: every field has a fixed width or follows its
own length, so one slot after the other can be read off. The text of a digest determines the digest.
Two layouts of one fingerprint are therefore equal unless the digest function takes their bytes to
one digest.
-/
namespace LoopScope

/-! ## Numbers and digits -/

namespace Bytes

/-- A big-endian field holds its number up to multiples of its range. -/
theorem mod_eq_of_bigEndian_eq {width m n : Nat} (h : bigEndian width m = bigEndian width n) :
    m % 256 ^ width = n % 256 ^ width := by
  induction width with
  | zero => rw [Nat.pow_zero, Nat.mod_one, Nat.mod_one]
  | succ width ih =>
    simp only [bigEndian, List.cons.injEq] at h
    obtain ⟨hfirst, hrest⟩ := h
    have hbyte : m / 256 ^ width % 256 = n / 256 ^ width % 256 := by
      have htoNat := congrArg UInt8.toNat hfirst
      simpa only [UInt8.toNat_ofNat', Nat.shiftRight_eq_div_pow, Nat.pow_mul] using htoNat
    rw [Nat.pow_succ, Nat.mod_mul, Nat.mod_mul, ih hrest, hbyte]

theorem eq_of_bigEndian_eq {width m n : Nat} (hm : m < 256 ^ width) (hn : n < 256 ^ width)
    (h : bigEndian width m = bigEndian width n) : m = n := by
  have hmod := mod_eq_of_bigEndian_eq h
  rwa [Nat.mod_eq_of_lt hm, Nat.mod_eq_of_lt hn] at hmod

theorem utf8_inj {a b : String} : utf8 a = utf8 b ↔ a = b := by
  constructor
  · intro h
    have hbytes : a.toByteArray = b.toByteArray := by
      apply ByteArray.ext
      simpa only [utf8, String.toUTF8_eq_toByteArray, Array.toList_inj] using h
    exact String.toByteArray_inj.mp hbytes
  · intro h
    rw [h]

end Bytes

private theorem eq_of_digitChar_eq :
    ∀ m < 16, ∀ n < 16, Nat.digitChar m = Nat.digitChar n → m = n := by
  decide

theorem Hex.eq_of_pair_eq {m n : Nat} (hm : m < 256) (hn : n < 256) (h : pair m = pair n) :
    m = n := by
  simp only [pair, List.cons.injEq, and_true] at h
  obtain ⟨hhigh, hlow⟩ := h
  have hquotient := eq_of_digitChar_eq (m / 16) (by omega) (n / 16) (by omega) hhigh
  have hremainder := eq_of_digitChar_eq (m % 16) (by omega) (n % 16) (by omega) hlow
  omega

theorem Bytes.hex_inj {a b : List UInt8} : hex a = hex b ↔ a = b := by
  constructor
  · intro h
    induction a generalizing b with
    | nil =>
      cases b with
      | nil => rfl
      | cons y ys => simp [Hex.pair] at h
    | cons x xs ih =>
      cases b with
      | nil => simp [Hex.pair] at h
      | cons y ys =>
        rw [hex_cons, hex_cons] at h
        obtain ⟨hbyte, hrest⟩ := List.append_inj h rfl
        have htoNat := Hex.eq_of_pair_eq x.toNat_lt y.toNat_lt hbyte
        rw [UInt8.toNat_inj.mp htoNat, ih hrest]
  · intro h
    rw [h]

/-! ## Slots -/

namespace Layout

theorem kindByte_inj {a b : SlotKind} : kindByte a = kindByte b ↔ a = b := by
  cases a <;> cases b <;> simp [kindByte]

theorem bindingNumber_lt (id : Option UInt32) : bindingNumber id < 256 ^ 8 := by
  cases id with
  | none => simp [bindingNumber, UInt64.size]
  | some id =>
    have hlt := id.toNat_lt
    simp only [bindingNumber]
    omega

/-- The number for a missing binding is none that a binding can have. -/
theorem bindingNumber_inj {a b : Option UInt32} : bindingNumber a = bindingNumber b ↔ a = b := by
  cases a with
  | none =>
    cases b with
    | none => simp
    | some b =>
      have hlt := b.toNat_lt
      simp only [bindingNumber, UInt64.size, reduceCtorEq, iff_false]
      omega
  | some a =>
    cases b with
    | none =>
      have hlt := a.toNat_lt
      simp only [bindingNumber, UInt64.size, reduceCtorEq, iff_false]
      omega
    | some b => simp only [bindingNumber, Option.some.injEq, UInt32.toNat_inj]

/-- Every name is short enough for its length to fit into eight bytes. -/
def NamesFit (slots : List Slot) : Prop :=
  ∀ slot ∈ slots, (Bytes.utf8 slot.name).length < 2 ^ 64

/-- The first slot can be read off a list of bytes, whatever follows it. -/
theorem eq_of_slotBytes_append_eq {a b : Slot} {rest rest' : List UInt8}
    (ha : (Bytes.utf8 a.name).length < 2 ^ 64) (hb : (Bytes.utf8 b.name).length < 2 ^ 64)
    (h : slotBytes a ++ rest = slotBytes b ++ rest') : a = b ∧ rest = rest' := by
  simp only [slotBytes, List.cons_append, List.append_assoc, List.cons.injEq] at h
  obtain ⟨hkind, h⟩ := h
  obtain ⟨hid, h⟩ := List.append_inj h (by simp only [Bytes.length_bigEndian])
  obtain ⟨hwidth, h⟩ := List.append_inj h (by simp only [Bytes.length_bigEndian])
  have hlength : (Bytes.utf8 a.name).length = (Bytes.utf8 b.name).length :=
    Bytes.eq_of_bigEndian_eq (by omega) (by omega) hwidth
  obtain ⟨hname, hrest⟩ := List.append_inj h hlength
  have hnumber := Bytes.eq_of_bigEndian_eq (bindingNumber_lt _) (bindingNumber_lt _) hid
  refine ⟨?_, hrest⟩
  obtain ⟨name, id, kind⟩ := a
  obtain ⟨name', id', kind'⟩ := b
  rw [Slot.mk.injEq]
  exact ⟨Bytes.utf8_inj.mp hname, bindingNumber_inj.mp hnumber, kindByte_inj.mp hkind⟩

theorem slotBytes_ne_nil (slot : Slot) : slotBytes slot ≠ [] := by
  simp [slotBytes]

/-- The bytes of a layout determine it. -/
theorem bytes_inj {a b : List Slot} (ha : NamesFit a) (hb : NamesFit b) :
    bytes a = bytes b ↔ a = b := by
  constructor
  · intro h
    induction a generalizing b with
    | nil =>
      cases b with
      | nil => rfl
      | cons y ys =>
        rw [bytes_nil, bytes_cons] at h
        exact absurd (List.append_eq_nil_iff.mp h.symm).1 (slotBytes_ne_nil y)
    | cons x xs ih =>
      cases b with
      | nil =>
        rw [bytes_nil, bytes_cons] at h
        exact absurd (List.append_eq_nil_iff.mp h).1 (slotBytes_ne_nil x)
      | cons y ys =>
        obtain ⟨hx, hxs⟩ := List.forall_mem_cons.mp ha
        obtain ⟨hy, hys⟩ := List.forall_mem_cons.mp hb
        rw [bytes_cons, bytes_cons] at h
        obtain ⟨hslot, hrest⟩ := eq_of_slotBytes_append_eq hx hy h
        rw [hslot, ih hxs hys hrest]
  · intro h
    rw [h]

/-! ## Fingerprints -/

theorem digestText_inj {a b : List UInt8} : digestText a = digestText b ↔ a = b := by
  rw [digestText, digestText, String.append_right_inj, String.ofList_inj, Bytes.hex_inj]

/-- Layouts of one fingerprint are equal, unless their bytes collide. -/
theorem fingerprint_inj {digest : DigestFunction} {a b : List Slot} (ha : NamesFit a)
    (hb : NamesFit b) (hcollision : digest (bytes a) = digest (bytes b) → bytes a = bytes b) :
    fingerprint digest a = fingerprint digest b ↔ a = b := by
  constructor
  · intro h
    have hdigest := digestText_inj.mp h
    exact (bytes_inj ha hb).mp (hcollision hdigest)
  · intro h
    rw [h]

end Layout

end LoopScope
