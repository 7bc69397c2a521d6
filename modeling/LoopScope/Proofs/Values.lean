import LoopScope.Proofs.Json.Scan
import LoopScope.Proofs.WellFormed
import Mathlib
/-!
# Texts of values and snapshots

The text of a value tells it from every other value: its first character tells the constructor, and
the rest what the constructor holds. Strings are printed as they are. What stands for a record is
its address, so this needs that distinct records have distinct addresses.
-/
namespace LoopScope

/-- The address of a record that is known by its number. -/
def RecordId.address (r : RecordId) : String := "#" ++ toString r.number

theorem RecordId.address_injective : Function.Injective RecordId.address := by
  intro r q h
  have hnumber : r.number = q.number := Nat.repr_injective ((String.append_right_inj _).mp h)
  exact congrArg RecordId.mk hnumber

namespace Value

variable {address : RecordId → String} {v w : Value}

/-- The text of a value where the address of a record stands for the record. -/
def renderAt (address : RecordId → String) : Value → String
  | scope r => "Scope(" ++ address r ++ ")"
  | v => v.render

theorem renderAt_address (v : Value) : v.renderAt RecordId.address = v.render := by
  cases v with
  | scope r =>
    have hopening : "Scope(" ++ RecordId.address r = "Scope(#" ++ toString r.number :=
      String.append_assoc.symm
    rw [renderAt, hopening]
    rfl
  | _ => rfl

/-! ## The first character -/

/-- The first character of a text. All that a number can start with counts as one, and so does what
a truth value can start with. -/
def mark? (text : String) : Option Char :=
  text.toList.head?.map fun c =>
    if c = '-' ∨ c.isDigit then '0' else if c = 'f' then 't' else c

/-- What the text of a value starts with. -/
def mark : Value → Char
  | undefined => 'u'
  | null => 'n'
  | bool _ => 't'
  | number _ => '0'
  | string _ => '"'
  | object _ => 'O'
  | closure _ => 'C'
  | scope _ => 'S'
  | tdz => '<'

theorem mark?_append {text : String} {c : Char} (h : mark? text = some c) (rest : String) :
    mark? (text ++ rest) = some c := by
  obtain ⟨first, hfirst, hc⟩ := Option.map_eq_some_iff.mp h
  rw [mark?, String.toList_append, List.head?_append, hfirst, Option.some_or, Option.map_some, hc]

private theorem mark?_repr (n : Nat) : mark? n.repr = some '0' := by
  cases hd : Nat.toDigits 10 n with
  | nil => exact (Nat.toDigits_ne_nil hd).elim
  | cons d ds =>
    have hdigit := Json.isDigit_of_mem_toDigits d (hd ▸ List.mem_cons_self)
    have hlist : n.repr.toList = d :: ds := by rw [← hd]; simp [Nat.repr]
    rw [mark?, hlist, List.head?_cons, Option.map_some, if_pos (.inr hdigit)]

private theorem mark?_toString (i : Int) : mark? (toString i) = some '0' := by
  cases i with
  | ofNat n => exact mark?_repr n
  | negSucc n => exact mark?_append rfl _

/-- The text of a value starts as the constructor says. -/
theorem mark?_renderAt (address : RecordId → String) (v : Value) :
    mark? (v.renderAt address) = some v.mark := by
  cases v with
  | undefined => exact (rfl : mark? "undefined" = some 'u')
  | null => exact (rfl : mark? "null" = some 'n')
  | bool b =>
    cases b with
    | true => exact (rfl : mark? "true" = some 't')
    | false => exact (rfl : mark? "false" = some 't')
  | number n => exact mark?_toString _
  | string s => exact mark?_append (mark?_append rfl _) _
  | object h => exact mark?_append (mark?_append rfl _) _
  | closure h => exact mark?_append (mark?_append rfl _) _
  | scope r => exact mark?_append (mark?_append rfl _) _
  | tdz => exact (rfl : mark? "<TDZ>" = some '<')

/-! ## Equal texts -/

/-- What stands between the same opening and the same closing is the same. -/
theorem eq_of_enclosed {a b opening closing : String}
    (h : opening ++ a ++ closing = opening ++ b ++ closing) : a = b :=
  (String.append_right_inj opening).mp ((String.append_left_inj closing).mp h)

/-- Two values with one text are equal, if one address never stands for two records of theirs. -/
theorem eq_of_renderAt (hinj : ∀ r q, v = .scope r → w = .scope q → address r = address q → r = q)
    (h : v.renderAt address = w.renderAt address) : v = w := by
  have hmark : v.mark = w.mark := by
    have hstart := congrArg mark? h
    rw [mark?_renderAt, mark?_renderAt] at hstart
    exact Option.some.inj hstart
  cases v with
  | undefined =>
    cases w with
    | undefined => rfl
    | _ => simp [mark] at hmark
  | null =>
    cases w with
    | null => rfl
    | _ => simp [mark] at hmark
  | bool b =>
    cases w with
    | bool c =>
      cases b <;> cases c
      · rfl
      · simp [renderAt, render] at h
      · simp [renderAt, render] at h
      · rfl
    | _ => simp [mark] at hmark
  | number n =>
    cases w with
    | number m => exact congrArg number (Int64.toInt_inj.mp (Int.repr_injective h))
    | _ => simp [mark] at hmark
  | string s =>
    cases w with
    | string t => exact congrArg string (eq_of_enclosed h)
    | _ => simp [mark] at hmark
  | object n =>
    cases w with
    | object m =>
      have hnumber := UInt64.toNat_inj.mp (Nat.repr_injective (eq_of_enclosed h))
      exact congrArg (object ∘ ObjectHandle.mk) hnumber
    | _ => simp [mark] at hmark
  | closure n =>
    cases w with
    | closure m =>
      have hnumber := UInt32.toNat_inj.mp (Nat.repr_injective (eq_of_enclosed h))
      exact congrArg (closure ∘ ClosureHandle.mk) hnumber
    | _ => simp [mark] at hmark
  | scope r =>
    cases w with
    | scope q => exact congrArg scope (hinj r q rfl rfl (eq_of_enclosed h))
    | _ => simp [mark] at hmark
  | tdz =>
    cases w with
    | tdz => rfl
    | _ => simp [mark] at hmark

theorem renderAt_eq_iff
    (hinj : ∀ r q, v = .scope r → w = .scope q → address r = address q → r = q) :
    v.renderAt address = w.renderAt address ↔ v == w := by
  rw [beq_iff_eq]
  exact ⟨eq_of_renderAt hinj, congrArg _⟩

theorem render_eq_iff (v w : Value) : v.render = w.render ↔ v == w := by
  rw [← renderAt_address v, ← renderAt_address w]
  exact renderAt_eq_iff fun r q _ _ h => RecordId.address_injective h

end Value

/-! ## Snapshots -/

namespace Record

variable {digest : Layout.DigestFunction} {address : RecordId → String} {record other : Record}
  {n m : Nat}

/-- A snapshot where the address of a record stands for the record. -/
def snapshotAt (address : RecordId → String) (r : Record) (argumentCount : Nat) :
    RecordSnapshot where
  schemaHash := r.schema.schema.contentHash
  argumentCount := argumentCount
  slots := r.schema.schema.slots.zipWith
    (fun slot value => ⟨slot.name, slot.kind, value.renderAt address⟩) r.slots

theorem snapshotAt_address (r : Record) (argumentCount : Nat) :
    r.snapshotAt RecordId.address argumentCount = r.snapshot argumentCount := by
  simp only [snapshotAt, snapshot, Value.renderAt_address]

/-- The slots that two snapshots of one layout show are alike just if all their texts are. -/
theorem zipWith_snapshot_eq_iff {slots : List Slot} {values others : List Value}
    (hvalues : values.length = slots.length) (hothers : others.length = slots.length) :
    slots.zipWith (fun slot value => SlotSnapshot.mk slot.name slot.kind (value.renderAt address))
        values =
      slots.zipWith (fun slot value => ⟨slot.name, slot.kind, value.renderAt address⟩) others ↔
    List.Forall₂ (fun v w => v.renderAt address = w.renderAt address) values others := by
  induction slots generalizing values others with
  | nil =>
    rw [List.length_eq_zero_iff.mp hvalues, List.length_eq_zero_iff.mp hothers]
    exact iff_of_true rfl .nil
  | cons slot slots ih =>
    obtain ⟨v, values, rfl⟩ := List.exists_cons_of_length_eq_add_one hvalues
    obtain ⟨w, others, rfl⟩ := List.exists_cons_of_length_eq_add_one hothers
    have hrest := ih (Nat.succ.inj hvalues) (Nat.succ.inj hothers)
    rw [List.zipWith_cons_cons, List.zipWith_cons_cons, List.cons.injEq, hrest,
      List.forall₂_cons, SlotSnapshot.mk.injEq]
    simp only [true_and]

/-- Snapshots of records of one layout show all that tells the records apart. -/
theorem snapshotAt_eq_iff (h : record.WellFormed digest) (h' : other.WellFormed digest)
    (hslots : record.schema.schema.slots = other.schema.schema.slots)
    (hinj : ∀ r q, .scope r ∈ record.slots → .scope q ∈ other.slots → address r = address q →
      r = q) :
    record.snapshotAt address n = other.snapshotAt address m ↔
      n = m ∧ List.Forall₂ (fun v w => v == w) record.slots other.slots := by
  have hhash : record.schema.schema.contentHash = other.schema.schema.contentHash := by
    rw [h.schema.contentHash, h'.schema.contentHash, hslots]
  have hlength : record.slots.length = other.schema.schema.slots.length := by
    rw [h.length, Schema.length, hslots]
  have htexts : List.Forall₂ (fun v w => v.renderAt address = w.renderAt address) record.slots
      other.slots ↔ List.Forall₂ (fun v w => v == w) record.slots other.slots := by
    rw [List.forall₂_iff_get, List.forall₂_iff_get]
    refine and_congr_right fun _ => forall_congr' fun i => forall_congr' fun hi =>
      forall_congr' fun hi' => ?_
    refine Value.renderAt_eq_iff fun r q hr hq => ?_
    exact hinj r q (hr ▸ List.get_mem _ _) (hq ▸ List.get_mem _ _)
  rw [snapshotAt, snapshotAt, RecordSnapshot.mk.injEq, hhash, hslots,
    zipWith_snapshot_eq_iff hlength h'.length, htexts]
  simp only [true_and]

end Record

end LoopScope
