import LoopScope.Codec.Config
import LoopScope.Codec.Error
import LoopScope.Codec.Event
import LoopScope.Codec.Record
import LoopScope.Codec.Value
import LoopScope.Proofs.Json.Codec
import LoopScope.Proofs.WellFormed
/-!
# Round trips

Every type with a codec goes through JSON text and comes back as it was. A schema is read by
building it again from its slots, so it comes back because it is well formed; the counts of
failures, events, snapshots and configurations come back if they are below 2^64.
-/
namespace LoopScope

open Json

/-! ## Constants -/

theorem lossless_slotKind : Lossless SlotKind fun _ => True :=
  lossless_of_read (fun kind => .string kind.name) fun kind => by cases kind <;> rfl

theorem lossless_recordRole : Lossless RecordRole fun _ => True :=
  lossless_of_read (fun role => .string role.render) fun role => by cases role <;> rfl

theorem lossless_valueKind : Lossless ValueKind fun _ => True :=
  lossless_of_read (fun kind => .string kind.name) fun kind => by cases kind <;> rfl

theorem lossless_parentLinkCheck : Lossless ParentLinkCheck fun _ => True :=
  lossless_of_read (fun check => .string check.name) fun check => by cases check <;> rfl

/-! ## Values -/

theorem lossless_objectHandle : Lossless ObjectHandle fun _ => True := by
  refine lossless_of_read (fun h => lossless_uint64.plain h.number) fun h => ?_
  exact congrArg (Option.map ObjectHandle.mk) (lossless_uint64.read h.number trivial)

theorem lossless_closureHandle : Lossless ClosureHandle fun _ => True := by
  refine lossless_of_read (fun h => lossless_uint32.plain h.number) fun h => ?_
  exact congrArg (Option.map ClosureHandle.mk) (lossless_uint32.read h.number trivial)

theorem lossless_profile : Lossless Profile fun _ => True := by
  refine lossless_of_read (fun profile => ?_) fun profile => ?_
  · cases profile with
    | uninitialized => exact .string _
    | monomorphic kind => exact plain_ofAlternative (lossless_valueKind.plain kind)
    | generic => exact .string _
  · cases profile with
    | uninitialized => rfl
    | monomorphic kind =>
      exact congrArg (Option.map Profile.monomorphic) (lossless_valueKind.required trivial)
    | generic => rfl

/-! ## Slots and schemas -/

theorem lossless_optionString : Lossless (Option String) fun _ => True :=
  lossless_string.option fun _ => nofun

theorem lossless_optionUInt32 : Lossless (Option UInt32) fun _ => True :=
  lossless_uint32.option fun _ => nofun

theorem lossless_slot : Lossless Slot fun _ => True := by
  refine lossless_of_read (fun slot => ?_) fun slot => ?_
  · exact plain_ofFields (by
      simp [lossless_string.plain, lossless_optionUInt32.plain, lossless_slotKind.plain])
  · have hfields : structure? ["name", "binding_id", "kind"] (JsonCodec.toJson slot) =
        some [some (JsonCodec.toJson slot.name), some (JsonCodec.toJson slot.bindingId),
          some (JsonCodec.toJson slot.kind)] :=
      structure?_ofFields _ rfl (by simp)
    simp only [JsonCodec.ofJson?, hfields, Option.bind_eq_bind, Option.bind_some,
      lossless_string.required trivial, lossless_optionUInt32.optional,
      lossless_slotKind.required trivial]

theorem ofJson?_schema {slots : List Slot} {j : Json}
    (h : (JsonCodec.ofJson? j : Option (List Slot)) = some slots) :
    (JsonCodec.ofJson? j : Option Schema) = (Schema.ofSlots slots).toOption :=
  (congrArg (Option.bind · fun slots => (Schema.ofSlots slots).toOption) h :)

theorem lossless_schema : Lossless Schema (Schema.WellFormed Sha256.digest) where
  plain schema := lossless_slot.list.plain schema.slots
  read schema h := by
    have hslots := lossless_slot.list.read schema.slots trivial
    refine (ofJson?_schema hslots).trans ?_
    rw [Schema.ofSlots, h.ofSlotsBy_slots]
    rfl
  fits j schema h := by
    obtain ⟨slots, -, hmade⟩ := Option.bind_eq_some_iff.mp h
    cases hschema : Schema.ofSlots slots with
    | error defect =>
      rw [hschema] at hmade
      cases hmade
    | ok made =>
      rw [hschema] at hmade
      cases hmade
      exact (Schema.wellFormed_of_ofSlotsBy hschema).2

/-! ## Failures -/

/-- The numbers in a failure are counts and indices of a machine with words of 64 bits. -/
def SchemaError.Fits : SchemaError → Prop
  | misplacedParentLink index => index < UInt64.size
  | empty | missingParentLink _ _ | duplicateBinding _ => True

theorem SchemaError.plain (e : SchemaError) : (JsonCodec.toJson e).Plain := by
  cases e with
  | empty => exact .string _
  | missingParentLink name found =>
    exact plain_ofAlternative (plain_ofFields (by
      simp [lossless_string.plain, lossless_slotKind.plain]))
  | misplacedParentLink index =>
    exact plain_ofAlternative (plain_ofFields (by simp [lossless_nat.plain]))
  | duplicateBinding name =>
    exact plain_ofAlternative (plain_ofFields (by simp [lossless_string.plain]))

theorem SchemaError.read {e : SchemaError} (h : e.Fits) :
    JsonCodec.ofJson? (JsonCodec.toJson e) = some e := by
  cases e with
  | empty => rfl
  | missingParentLink name found =>
    exact read_two missingParentLink (lossless_string.required trivial)
      (lossless_slotKind.required trivial)
  | misplacedParentLink index =>
    exact congrArg (Option.map misplacedParentLink) (lossless_nat.required h)
  | duplicateBinding name =>
    exact congrArg (Option.map duplicateBinding) (lossless_string.required trivial)

theorem SchemaError.fits_of_read {j : Json} {e : SchemaError}
    (h : JsonCodec.ofJson? j = some e) : e.Fits := by
  obtain ⟨⟨name, content⟩, -, h⟩ := Option.bind_eq_some_iff.mp h
  simp only [Option.bind_eq_bind] at h
  split at h
  · obtain ⟨-, -, rfl⟩ := Option.map_eq_some_iff.mp h
    trivial
  split at h
  · obtain ⟨name, found, -, -, rfl⟩ := exists_of_read_two h
    trivial
  split at h
  · obtain ⟨index, hindex, rfl⟩ := exists_of_read_one h
    exact lossless_nat.fits_of_readable hindex
  split at h
  · obtain ⟨name, -, rfl⟩ := exists_of_read_one h
    trivial
  · cases h

theorem lossless_schemaError : Lossless SchemaError SchemaError.Fits :=
  ⟨SchemaError.plain, fun _ => SchemaError.read, fun _ _ => SchemaError.fits_of_read⟩

def ScopeError.Fits : ScopeError → Prop
  | arityMismatch reads writes => reads < UInt64.size ∧ writes < UInt64.size
  | schemaLengthMismatch schemaSlots accessors =>
    schemaSlots < UInt64.size ∧ accessors < UInt64.size
  | accessorMisaligned position readIndex writeIndex =>
    position < UInt64.size ∧ readIndex < UInt64.size ∧ writeIndex < UInt64.size
  | schemaTooLarge slots maxSlots => slots < UInt64.size ∧ maxSlots < UInt64.size
  | nonConformantRecord _ _ foundSlots => foundSlots < UInt64.size
  | missingSlot index => index < UInt64.size
  | schema defect => defect.Fits
  | parentLinkDiverged _ _ | unknownBinding _ | recordBusy => True

theorem ScopeError.plain (e : ScopeError) : (JsonCodec.toJson e).Plain := by
  cases e with
  | recordBusy => exact .string _
  | schema defect => exact plain_ofAlternative (lossless_schemaError.plain defect)
  | _ =>
    exact plain_ofAlternative (plain_ofFields (by
      simp [lossless_nat.plain, lossless_string.plain, lossless_recordRole.plain]))

theorem ScopeError.read {e : ScopeError} (h : e.Fits) :
    JsonCodec.ofJson? (JsonCodec.toJson e) = some e := by
  cases e with
  | arityMismatch reads writes =>
    exact read_two arityMismatch (lossless_nat.required h.1) (lossless_nat.required h.2)
  | schemaLengthMismatch schemaSlots accessors =>
    exact read_two schemaLengthMismatch (lossless_nat.required h.1) (lossless_nat.required h.2)
  | accessorMisaligned position readIndex writeIndex =>
    exact read_three accessorMisaligned (lossless_nat.required h.1)
      (lossless_nat.required h.2.1) (lossless_nat.required h.2.2)
  | schemaTooLarge slots maxSlots =>
    exact read_two schemaTooLarge (lossless_nat.required h.1) (lossless_nat.required h.2)
  | parentLinkDiverged destinationParent sourceParent =>
    exact read_two parentLinkDiverged (lossless_string.required trivial)
      (lossless_string.required trivial)
  | nonConformantRecord role expectedHash foundSlots =>
    exact read_three nonConformantRecord (lossless_recordRole.required trivial)
      (lossless_string.required trivial) (lossless_nat.required h)
  | missingSlot index => exact congrArg (Option.map missingSlot) (lossless_nat.required h)
  | unknownBinding name =>
    exact congrArg (Option.map unknownBinding) (lossless_string.required trivial)
  | recordBusy => rfl
  | schema defect => exact congrArg (Option.map schema) (lossless_schemaError.required h)

theorem ScopeError.fits_of_read {j : Json} {e : ScopeError}
    (h : JsonCodec.ofJson? j = some e) : e.Fits := by
  obtain ⟨⟨name, content⟩, -, h⟩ := Option.bind_eq_some_iff.mp h
  simp only [Option.bind_eq_bind] at h
  split at h
  · obtain ⟨reads, writes, hreads, hwrites, rfl⟩ := exists_of_read_two h
    exact ⟨lossless_nat.fits_of_readable hreads, lossless_nat.fits_of_readable hwrites⟩
  split at h
  · obtain ⟨slots, accessors, hslots, haccessors, rfl⟩ := exists_of_read_two h
    exact ⟨lossless_nat.fits_of_readable hslots, lossless_nat.fits_of_readable haccessors⟩
  split at h
  · obtain ⟨position, readIndex, writeIndex, hposition, hread, hwrite, rfl⟩ :=
      exists_of_read_three h
    exact ⟨lossless_nat.fits_of_readable hposition, lossless_nat.fits_of_readable hread,
      lossless_nat.fits_of_readable hwrite⟩
  split at h
  · obtain ⟨slots, maxSlots, hslots, hmax, rfl⟩ := exists_of_read_two h
    exact ⟨lossless_nat.fits_of_readable hslots, lossless_nat.fits_of_readable hmax⟩
  split at h
  · obtain ⟨destination, source, -, -, rfl⟩ := exists_of_read_two h
    trivial
  split at h
  · obtain ⟨role, expectedHash, foundSlots, -, -, hfound, rfl⟩ := exists_of_read_three h
    exact lossless_nat.fits_of_readable hfound
  split at h
  · obtain ⟨index, hindex, rfl⟩ := exists_of_read_one h
    exact lossless_nat.fits_of_readable hindex
  split at h
  · obtain ⟨name, -, rfl⟩ := exists_of_read_one h
    trivial
  split at h
  · obtain ⟨-, -, rfl⟩ := Option.map_eq_some_iff.mp h
    trivial
  split at h
  · obtain ⟨defect, hdefect, rfl⟩ := Option.map_eq_some_iff.mp h
    exact lossless_schemaError.fits_of_readable ⟨content, hdefect⟩
  · cases h

theorem lossless_scopeError : Lossless ScopeError ScopeError.Fits :=
  ⟨ScopeError.plain, fun _ => ScopeError.read, fun _ _ => ScopeError.fits_of_read⟩

/-! ## Events and snapshots -/

theorem lossless_context : Lossless Context fun _ => True := by
  refine lossless_of_read (fun context => ?_) fun context => ?_
  · exact plain_ofFields (by simp [lossless_string.plain])
  · have hfields : structure? ["trace_id", "decision_id", "policy_id"]
        (JsonCodec.toJson context) =
        some [some (JsonCodec.toJson context.traceId), some (JsonCodec.toJson context.decisionId),
          some (JsonCodec.toJson context.policyId)] :=
      structure?_ofFields _ rfl (by simp)
    simp only [JsonCodec.ofJson?, hfields, Option.bind_eq_bind, Option.bind_some,
      lossless_string.required trivial]

def Event.Fits (e : Event) : Prop := e.slotCount < UInt64.size

theorem lossless_event : Lossless Event Event.Fits where
  plain e := plain_ofFields (by
    simp [lossless_string.plain, lossless_optionString.plain, lossless_nat.plain])
  read e h := by
    have hfields : structure? Event.keys (JsonCodec.toJson e) =
        some [some (JsonCodec.toJson e.traceId), some (JsonCodec.toJson e.decisionId),
          some (JsonCodec.toJson e.policyId), some (JsonCodec.toJson e.component),
          some (JsonCodec.toJson e.event), some (JsonCodec.toJson e.outcome),
          some (JsonCodec.toJson e.errorCode), some (JsonCodec.toJson e.schemaHash),
          some (JsonCodec.toJson e.slotCount)] :=
      structure?_ofFields _ rfl (by simp [Event.keys])
    simp only [JsonCodec.ofJson?, hfields, Option.bind_eq_bind, Option.bind_some,
      lossless_string.required trivial, lossless_optionString.optional, lossless_nat.required h]
  fits j e h := by
    simp only [JsonCodec.ofJson?, Option.bind_eq_bind] at h
    obtain ⟨fields, -, h⟩ := Option.bind_eq_some_iff.mp h
    split at h
    · simp only [Option.bind_eq_some_iff] at h
      obtain ⟨_, -, _, -, _, -, _, -, _, -, _, -, _, -, _, -, slotCount, hcount, he⟩ := h
      obtain rfl := Option.some.inj he
      exact lossless_nat.fits_of_readable ⟨_, hcount⟩
    · cases h

theorem lossless_slotSnapshot : Lossless SlotSnapshot fun _ => True := by
  refine lossless_of_read (fun snapshot => ?_) fun snapshot => ?_
  · exact plain_ofFields (by simp [lossless_string.plain, lossless_slotKind.plain])
  · have hfields : structure? ["name", "kind", "value"] (JsonCodec.toJson snapshot) =
        some [some (JsonCodec.toJson snapshot.name), some (JsonCodec.toJson snapshot.kind),
          some (JsonCodec.toJson snapshot.value)] :=
      structure?_ofFields _ rfl (by simp)
    simp only [JsonCodec.ofJson?, hfields, Option.bind_eq_bind, Option.bind_some,
      lossless_string.required trivial, lossless_slotKind.required trivial]

def RecordSnapshot.Fits (s : RecordSnapshot) : Prop := s.argumentCount < UInt64.size

theorem lossless_recordSnapshot : Lossless RecordSnapshot RecordSnapshot.Fits where
  plain snapshot := plain_ofFields (by
    simp [lossless_string.plain, lossless_nat.plain, lossless_slotSnapshot.list.plain])
  read snapshot h := by
    have hfields : structure? ["schema_hash", "argument_count", "slots"]
        (JsonCodec.toJson snapshot) =
        some [some (JsonCodec.toJson snapshot.schemaHash),
          some (JsonCodec.toJson snapshot.argumentCount), some (JsonCodec.toJson snapshot.slots)] :=
      structure?_ofFields _ rfl (by simp)
    simp only [JsonCodec.ofJson?, hfields, Option.bind_eq_bind, Option.bind_some,
      lossless_string.required trivial, lossless_nat.required h,
      lossless_slotSnapshot.list.required trivial]
  fits j snapshot h := by
    simp only [JsonCodec.ofJson?, Option.bind_eq_bind] at h
    obtain ⟨schemaHash, argumentCount, slots, -, hcount, -, rfl⟩ := exists_of_read_three h
    exact lossless_nat.fits_of_readable hcount

/-! ## Configurations -/

def Config.Fits (c : Config) : Prop := c.maxSlots < UInt64.size

theorem Config.fieldsOfJson?_ofFields (fields : List (String × Json))
    (hkeys : fields.map Prod.fst = keys) :
    fieldsOfJson? (ofFields fields) = some (fields.map fun f => some f.2) := by
  have hnodup : (fields.map Prod.fst).Nodup := by
    rw [hkeys]
    decide
  have hall : (fields.all fun f => keys.contains f.1) = true := by
    rw [List.all_eq_true]
    intro f hm
    rw [List.contains_iff_mem, ← hkeys]
    exact List.mem_map_of_mem hm
  simp only [fieldsOfJson?, ofFields, plainFields?_text, Option.bind_eq_bind, Option.bind_some]
  rw [if_pos hall, ← hkeys, mapM_field?_of_nodup hnodup]

theorem lossless_config : Lossless Config Config.Fits where
  plain c := plain_ofFields (by
    simp [lossless_parentLinkCheck.plain, lossless_bool.plain, lossless_nat.plain])
  read c h := by
    have hfields : Config.fieldsOfJson? (JsonCodec.toJson c) =
        some [some (JsonCodec.toJson c.parentLinkCheck), some (JsonCodec.toJson c.traceCopies),
          some (JsonCodec.toJson c.maxSlots)] :=
      Config.fieldsOfJson?_ofFields _ rfl
    simp only [JsonCodec.ofJson?, hfields, Option.bind_eq_bind, Option.bind_some,
      lossless_parentLinkCheck.withDefault _ trivial, lossless_bool.withDefault _ trivial,
      lossless_nat.withDefault _ h]
  fits j c h := by
    simp only [JsonCodec.ofJson?, Option.bind_eq_bind] at h
    obtain ⟨fields, -, h⟩ := Option.bind_eq_some_iff.mp h
    split at h
    · rename_i check trace maxSlots
      simp only [Option.bind_eq_some_iff] at h
      obtain ⟨_, -, _, -, max, hmax, he⟩ := h
      obtain rfl := Option.some.inj he
      exact lossless_nat.fits_of_withDefault (by decide) hmax
    · cases h

/-! ## All types -/

/-- A text is a schema to the reader that says what is wrong with it, just when it is one to the
codec. -/
theorem toOption_ofText (text : String) : (Schema.ofText text).toOption = decode? text := by
  rw [Schema.ofText, Schema.ofTextBy, decode?, parse?]
  cases readValue text.toList with
  | none => rfl
  | some value =>
    obtain ⟨j, rest⟩ := value
    have hschema : (JsonCodec.ofJson? j : Option Schema) =
        (JsonCodec.ofJson? j : Option (List Slot)).bind fun slots =>
          (Schema.ofSlots slots).toOption := rfl
    by_cases hend : (skipBlanks rest).isEmpty = true
    · simp only [hend, if_true, Option.bind_some, hschema]
      cases (JsonCodec.ofJson? j : Option (List Slot)) with
      | none => rfl
      | some slots =>
        simp only [Option.bind_some, Schema.ofSlots]
        cases Schema.ofSlotsBy Sha256.digest slots <;> rfl
    · simp only [hend]
      cases (JsonCodec.ofJson? j : Option (List Slot)) with
      | none => rfl
      | some slots =>
        dsimp only
        cases Schema.ofSlotsBy Sha256.digest slots <;> rfl

/-- Every type with a codec goes through JSON text and comes back as it was, whatever its strings
are made of, and what it reads has a canonical form. Schemas that are in use are well formed, and
numbers that are in use fit into words of 64 bits. -/
theorem codecs_round_trip :
    (RoundTrips SlotKind fun _ => True) ∧
    (RoundTrips Slot fun _ => True) ∧
    (RoundTrips Schema (Schema.WellFormed Sha256.digest) ∧
      ∀ text, (Schema.ofText text).toOption = decode? text) ∧
    (RoundTrips RecordRole fun _ => True) ∧
    RoundTrips SchemaError SchemaError.Fits ∧
    RoundTrips ScopeError ScopeError.Fits ∧
    (RoundTrips Context fun _ => True) ∧
    RoundTrips Event Event.Fits ∧
    (RoundTrips SlotSnapshot fun _ => True) ∧
    RoundTrips RecordSnapshot RecordSnapshot.Fits ∧
    (RoundTrips ValueKind fun _ => True) ∧
    (RoundTrips Profile fun _ => True) ∧
    (RoundTrips ObjectHandle fun _ => True) ∧
    (RoundTrips ClosureHandle fun _ => True) ∧
    (RoundTrips ParentLinkCheck fun _ => True) ∧
    RoundTrips Config Config.Fits :=
  ⟨lossless_slotKind.roundTrips, lossless_slot.roundTrips,
    ⟨lossless_schema.roundTrips, toOption_ofText⟩, lossless_recordRole.roundTrips,
    lossless_schemaError.roundTrips, lossless_scopeError.roundTrips, lossless_context.roundTrips,
    lossless_event.roundTrips, lossless_slotSnapshot.roundTrips,
    lossless_recordSnapshot.roundTrips, lossless_valueKind.roundTrips, lossless_profile.roundTrips,
    lossless_objectHandle.roundTrips, lossless_closureHandle.roundTrips,
    lossless_parentLinkCheck.roundTrips, lossless_config.roundTrips⟩

example : Json.encode (ScopeError.schema (.duplicateBinding "\"\\\n\x1f\u2028")) =
    "\x7b\"Schema\":\x7b\"DuplicateBinding\":\x7b\"name\":\"\\\"\\\\\\n\\u001f\u2028\"\x7d\x7d\x7d" := by
  cbv

end LoopScope
