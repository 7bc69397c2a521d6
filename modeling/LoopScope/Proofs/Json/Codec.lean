import LoopScope.Json.Codec
import LoopScope.Proofs.Json.Parser
/-!
# Codecs that lose nothing

A codec is lossless if it writes plain values, reads back every value that fits, and reads no other
values. What fits is all values of the type, except where the type is wider than what is written:
a count or an index has to be below 2^64. Such a codec gives back what it has written as text, and
all texts that it reads have one canonical form each.
-/
namespace LoopScope.Json

variable {α : Type} [JsonCodec α] {Fits : α → Prop}

structure Lossless (α : Type) [JsonCodec α] (Fits : α → Prop) : Prop where
  plain : ∀ a : α, (JsonCodec.toJson a).Plain
  read : ∀ a : α, Fits a → JsonCodec.ofJson? (JsonCodec.toJson a) = some a
  fits : ∀ (j : Json) (a : α), JsonCodec.ofJson? j = some a → Fits a

/-- The canonical form of a text: what it stands for, written again. -/
def canonical? (α : Type) [JsonCodec α] (text : String) : Option String :=
  (decode? text : Option α).map encode

/-- Values go through text unchanged, and texts that are read have a canonical form that is its own
canonical form. -/
structure RoundTrips (α : Type) [JsonCodec α] (Fits : α → Prop) : Prop where
  decode_encode : ∀ a : α, Fits a → decode? (encode a) = some a
  fits : ∀ (text : String) (a : α), decode? text = some a → Fits a
  canonical : ∀ text form : String,
    canonical? α text = some form → canonical? α form = some form

theorem Lossless.decode_encode (h : Lossless α Fits) {a : α} (ha : Fits a) :
    decode? (encode a) = some a := by
  rw [decode?, encode, (h.plain a).parse?_render, Option.bind_some, h.read a ha]

theorem Lossless.fits_of_decode (h : Lossless α Fits) {text : String} {a : α}
    (ha : decode? text = some a) : Fits a := by
  obtain ⟨j, -, hj⟩ := Option.bind_eq_some_iff.mp ha
  exact h.fits j a hj

theorem Lossless.roundTrips (h : Lossless α Fits) : RoundTrips α Fits where
  decode_encode a := h.decode_encode
  fits text a := h.fits_of_decode
  canonical text form hform := by
    obtain ⟨a, ha, rfl⟩ := Option.map_eq_some_iff.mp hform
    rw [canonical?, h.decode_encode (h.fits_of_decode ha)]
    rfl

/-- A codec that reads back everything. -/
theorem lossless_of_read (hplain : ∀ a : α, (JsonCodec.toJson a).Plain)
    (hread : ∀ a : α, JsonCodec.ofJson? (JsonCodec.toJson a) = some a) :
    Lossless α fun _ => True :=
  ⟨hplain, fun a _ => hread a, fun _ _ _ => trivial⟩

/-! ## Natural numbers and text -/

theorem natBelow?_eq_some {bound n : Nat} {j : Json} (h : natBelow? bound j = some n) :
    n < bound := by
  cases j with
  | natural m =>
    rw [natBelow?] at h
    split at h
    · cases h
      assumption
    · cases h
  | _ => cases h

theorem lossless_string : Lossless String fun _ => True :=
  lossless_of_read .string fun _ => rfl

theorem lossless_bool : Lossless Bool fun _ => True :=
  lossless_of_read .bool fun _ => rfl

theorem lossless_nat : Lossless Nat (· < UInt64.size) where
  plain := .natural
  read _ h := if_pos h
  fits _ _ h := natBelow?_eq_some h

theorem lossless_uint32 : Lossless UInt32 fun _ => True := by
  refine lossless_of_read (fun n => .natural n.toNat) fun n => ?_
  have hread : natBelow? UInt32.size (.natural n.toNat) = some n.toNat := if_pos n.toNat_lt_size
  simp only [JsonCodec.ofJson?, JsonCodec.toJson, hread, Option.map_some, UInt32.ofNat_toNat]

theorem lossless_uint64 : Lossless UInt64 fun _ => True := by
  refine lossless_of_read (fun n => .natural n.toNat) fun n => ?_
  have hread : natBelow? UInt64.size (.natural n.toNat) = some n.toNat := if_pos n.toNat_lt_size
  simp only [JsonCodec.ofJson?, JsonCodec.toJson, hread, Option.map_some, UInt64.ofNat_toNat]

theorem ofJson?_option {j : Json} (h : j ≠ .null) :
    (JsonCodec.ofJson? j : Option (Option α)) = (JsonCodec.ofJson? j).map some := by
  cases j with
  | null => exact (h rfl).elim
  | _ => rfl

/-- A value that is written as null would be taken for a missing one. -/
theorem Lossless.option (h : Lossless α fun _ => True)
    (hnull : ∀ a : α, JsonCodec.toJson a ≠ .null) : Lossless (Option α) fun _ => True := by
  refine lossless_of_read (fun a => ?_) fun a => ?_
  · cases a with
    | none => exact .null
    | some a => exact h.plain a
  · cases a with
    | none => rfl
    | some a =>
      exact (ofJson?_option (hnull a)).trans (congrArg (Option.map some) (h.read a trivial))

/-! ## Lists -/

theorem mapM_map {β γ δ : Type} {g : γ → Option δ} {k : β → γ} {v : β → δ} {l : List β}
    (h : ∀ b ∈ l, g (k b) = some (v b)) : (l.map k).mapM g = some (l.map v) := by
  induction l with
  | nil => rfl
  | cons b l ih =>
    rw [List.map_cons, List.mapM_cons, h b List.mem_cons_self,
      ih fun c hm => h c (List.mem_cons_of_mem _ hm)]
    rfl

theorem Lossless.list (h : Lossless α fun _ => True) : Lossless (List α) fun _ => True := by
  refine lossless_of_read (fun as => ?_) fun as => ?_
  · refine .array fun j hm => ?_
    obtain ⟨a, -, rfl⟩ := List.mem_map.mp hm
    exact h.plain a
  · have hread := mapM_map (l := as) (v := id) fun a _ => h.read a trivial
    rw [List.map_id] at hread
    exact hread

/-! ## Structures -/

theorem plain_ofFields {fields : List (String × Json)} (h : ∀ f ∈ fields, f.2.Plain) :
    (ofFields fields).Plain := by
  refine .object (fun f hm => ?_) fun f hm => ?_
  · obtain ⟨g, -, rfl⟩ := List.mem_map.mp hm
    exact ⟨g.1, rfl⟩
  · obtain ⟨g, hg, rfl⟩ := List.mem_map.mp hm
    exact h g hg

theorem plainFields?_text (fields : List (String × Json)) :
    plainFields? (fields.map fun f => (.text f.1, f.2)) = some fields := by
  induction fields with
  | nil => rfl
  | cons f fields ih =>
    rw [plainFields?] at ih ⊢
    rw [List.map_cons, List.mapM_cons, ih]
    rfl

theorem valuesOf_of_not_mem {fields : List (String × Json)} {key : String}
    (h : key ∉ fields.map Prod.fst) : valuesOf key fields = [] := by
  rw [valuesOf, List.filterMap_eq_nil_iff]
  intro f hm
  have hne : f.1 ≠ key := by
    rintro rfl
    exact h (List.mem_map_of_mem hm)
  exact if_neg hne

theorem valuesOf_of_mem {fields : List (String × Json)} {f : String × Json}
    (hkeys : (fields.map Prod.fst).Nodup) (h : f ∈ fields) : valuesOf f.1 fields = [f.2] := by
  induction fields with
  | nil => cases h
  | cons g fields ih =>
    obtain ⟨hnew, hrest⟩ := List.nodup_cons.mp hkeys
    rcases List.mem_cons.mp h with rfl | hm
    · rw [valuesOf, List.filterMap_cons, if_pos rfl, ← valuesOf, valuesOf_of_not_mem hnew]
    · have hne : g.1 ≠ f.1 := fun he => hnew (he ▸ List.mem_map_of_mem hm)
      rw [valuesOf, List.filterMap_cons, if_neg hne, ← valuesOf, ih hrest hm]

theorem mapM_field?_of_nodup {fields : List (String × Json)}
    (h : (fields.map Prod.fst).Nodup) :
    (fields.map Prod.fst).mapM (field? fields) = some (fields.map fun f => some f.2) := by
  refine mapM_map fun f hm => ?_
  rw [field?, valuesOf_of_mem h hm]

/-- The fields of a structure are found again, each under its key. -/
theorem structure?_ofFields {keys : List String} (fields : List (String × Json))
    (hkeys : fields.map Prod.fst = keys) (hnodup : keys.Nodup) :
    structure? keys (ofFields fields) = some (fields.map fun f => some f.2) := by
  subst hkeys
  simp only [structure?, ofFields, plainFields?_text, Option.bind_eq_bind, Option.bind_some,
    mapM_field?_of_nodup hnodup]

theorem Lossless.required (h : Lossless α Fits) {a : α} (ha : Fits a) :
    required? (some (JsonCodec.toJson a)) = some a :=
  h.read a ha

theorem Lossless.optional (h : Lossless (Option α) fun _ => True) (a : Option α) :
    optional? (some (JsonCodec.toJson a)) = some a :=
  h.read a trivial

theorem Lossless.withDefault (h : Lossless α Fits) (default : α) {a : α} (ha : Fits a) :
    withDefault? default (some (JsonCodec.toJson a)) = some a :=
  h.read a ha

/-- Some field is read as this value. -/
def Readable (a : α) : Prop := ∃ field : Option Json, required? field = some a

theorem Lossless.fits_of_readable (h : Lossless α Fits) {a : α} (ha : Readable a) : Fits a := by
  obtain ⟨field, hfield⟩ := ha
  obtain ⟨j, -, hj⟩ := Option.bind_eq_some_iff.mp hfield
  exact h.fits j a hj

theorem Lossless.fits_of_withDefault (h : Lossless α Fits) {default a : α} {field : Option Json}
    (hdefault : Fits default) (ha : withDefault? default field = some a) : Fits a := by
  cases field with
  | none =>
    cases ha
    exact hdefault
  | some j => exact h.fits j a ha

section Reading

variable {β γ δ : Type} [JsonCodec β] [JsonCodec γ]
  {fields? : Option (List (Option Json))} {made : δ}

/-- What is made of two fields that are there. The fields of a value that was written are found by
computing, so that only reading each of them is left. -/
theorem read_two (make : α → β → δ) {i j : Option Json} {a : α} {b : β}
    (ha : required? i = some a) (hb : required? j = some b) :
    ((required? i).bind fun a => (required? j).bind fun b => some (make a b)) =
      some (make a b) := by
  rw [ha, hb]
  rfl

theorem read_three (make : α → β → γ → δ) {i j k : Option Json} {a : α} {b : β} {c : γ}
    (ha : required? i = some a) (hb : required? j = some b) (hc : required? k = some c) :
    ((required? i).bind fun a => (required? j).bind fun b => (required? k).bind fun c =>
      some (make a b c)) = some (make a b c) := by
  rw [ha, hb, hc]
  rfl

/-- What is made of one field. -/
theorem exists_of_read_one {make : α → δ}
    (h : (fields?.bind fun fields => match fields with
      | [a] => (required? a).map make
      | _ => none) = some made) :
    ∃ a, Readable a ∧ make a = made := by
  obtain ⟨fields, -, h⟩ := Option.bind_eq_some_iff.mp h
  split at h
  · rename_i i
    obtain ⟨a, ha, hmade⟩ := Option.map_eq_some_iff.mp h
    exact ⟨a, ⟨i, ha⟩, hmade⟩
  · cases h

/-- What is made of two fields. -/
theorem exists_of_read_two {make : α → β → δ}
    (h : (fields?.bind fun fields => match fields with
      | [a, b] => (required? a).bind fun a => (required? b).bind fun b => some (make a b)
      | _ => none) = some made) :
    ∃ a b, Readable a ∧ Readable b ∧ make a b = made := by
  obtain ⟨fields, -, h⟩ := Option.bind_eq_some_iff.mp h
  split at h
  · rename_i i j
    obtain ⟨a, ha, h⟩ := Option.bind_eq_some_iff.mp h
    obtain ⟨b, hb, h⟩ := Option.bind_eq_some_iff.mp h
    exact ⟨a, b, ⟨i, ha⟩, ⟨j, hb⟩, Option.some.inj h⟩
  · cases h

/-- What is made of three fields. -/
theorem exists_of_read_three {make : α → β → γ → δ}
    (h : (fields?.bind fun fields => match fields with
      | [a, b, c] =>
        (required? a).bind fun a => (required? b).bind fun b => (required? c).bind fun c =>
          some (make a b c)
      | _ => none) = some made) :
    ∃ a b c, Readable a ∧ Readable b ∧ Readable c ∧ make a b c = made := by
  obtain ⟨fields, -, h⟩ := Option.bind_eq_some_iff.mp h
  split at h
  · rename_i i j k
    obtain ⟨a, ha, h⟩ := Option.bind_eq_some_iff.mp h
    obtain ⟨b, hb, h⟩ := Option.bind_eq_some_iff.mp h
    obtain ⟨c, hc, h⟩ := Option.bind_eq_some_iff.mp h
    exact ⟨a, b, c, ⟨i, ha⟩, ⟨j, hb⟩, ⟨k, hc⟩, Option.some.inj h⟩
  · cases h

end Reading

/-! ## Alternatives -/

theorem plain_ofAlternative {name : String} {content : Json} (h : content.Plain) :
    (ofAlternative name content).Plain :=
  plain_ofFields fun f hm => by
    obtain rfl := List.mem_singleton.mp hm
    exact h

end LoopScope.Json
