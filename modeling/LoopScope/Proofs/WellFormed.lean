import LoopScope.Operator
/-!
# Well-formed schemas, records and operators

What the constructors establish and everything else relies on: a schema is a valid layout that
carries its own fingerprint, a record holds one value for each slot of its schema, and an operator
has one read and one write accessor for each slot, in the order of the slots. All of it holds for
any digest function.
-/
namespace LoopScope

/-! ## Layouts -/

theorem Layout.firstBindingDefect?_eq_none_iff (seen : List String) (index : Nat)
    (slots : List Slot) :
    firstBindingDefect? seen index slots = none ↔
      (∀ slot ∈ slots, slot.kind ≠ .parentLink) ∧ (slots.map Slot.name).Nodup ∧
        ∀ slot ∈ slots, slot.name ∉ seen := by
  induction slots generalizing seen index with
  | nil => simp [firstBindingDefect?]
  | cons slot rest ih =>
    rw [firstBindingDefect?]
    by_cases hk : slot.kind = .parentLink
    · simp [hk]
    · by_cases hs : slot.name ∈ seen
      · simp [hk, hs]
      · rw [if_neg hk, if_neg hs, ih]
        rw [List.forall_mem_cons, List.forall_mem_cons, List.map_cons, List.nodup_cons]
        simp only [List.mem_map, List.mem_cons, not_or, not_exists, not_and]
        constructor
        · rintro ⟨hkinds, hnames, hseen⟩
          exact ⟨⟨hk, hkinds⟩, ⟨fun other hm => (hseen other hm).1, hnames⟩, hs,
            fun other hm => (hseen other hm).2⟩
        · rintro ⟨⟨-, hkinds⟩, ⟨hnew, hnames⟩, -, hseen⟩
          exact ⟨hkinds, hnames, fun other hm => ⟨hnew other hm, hseen other hm⟩⟩

theorem Layout.firstDefect?_eq_none_iff (slots : List Slot) :
    firstDefect? slots = none ↔ Valid slots := by
  cases slots with
  | nil => simp [firstDefect?, Valid]
  | cons first rest =>
    rw [firstDefect?, Valid]
    by_cases hk : first.kind = .parentLink
    · simp [hk, firstBindingDefect?_eq_none_iff]
    · simp [hk]

/-! ## Schemas -/

structure Schema.WellFormed (digest : Layout.DigestFunction) (schema : Schema) : Prop where
  valid : Layout.Valid schema.slots
  contentHash : schema.contentHash = Layout.fingerprint digest schema.slots

namespace Schema

variable {digest : Layout.DigestFunction} {schema : Schema}

theorem wellFormed_of_ofSlotsBy {slots : List Slot} (h : ofSlotsBy digest slots = .ok schema) :
    schema.slots = slots ∧ schema.WellFormed digest := by
  unfold ofSlotsBy at h
  split at h
  · cases h
  · rename_i hnone
    cases h
    exact ⟨rfl, (Layout.firstDefect?_eq_none_iff slots).mp hnone, rfl⟩

/-- A schema is made again from its slots. -/
theorem WellFormed.ofSlotsBy_slots (h : schema.WellFormed digest) :
    ofSlotsBy digest schema.slots = .ok schema := by
  rw [ofSlotsBy, (Layout.firstDefect?_eq_none_iff _).mpr h.valid, ← h.contentHash]

theorem WellFormed.length_pos (h : schema.WellFormed digest) : 0 < schema.length := by
  have hvalid := h.valid
  cases hs : schema.slots with
  | nil => rw [hs] at hvalid; exact hvalid.elim
  | cons first rest => simp [length, hs]

/-- A name is found at a slot of the schema, and never at the parent link. -/
theorem indexOf?_bounds {name : String} {index : Nat} (h : schema.indexOf? name = some index) :
    0 < index ∧ index < schema.length := by
  obtain ⟨i, hi, rfl⟩ := Option.map_eq_some_iff.mp h
  obtain ⟨hlt, -⟩ := List.findIdx?_eq_some_iff_getElem.mp hi
  simp only [bindings, parentSlot, List.length_drop] at hlt
  simp only [parentSlot, length]
  omega

end Schema

/-! ## Records -/

structure Record.WellFormed (digest : Layout.DigestFunction) (record : Record) : Prop where
  schema : record.schema.schema.WellFormed digest
  length : record.slots.length = record.schema.schema.length

namespace Record

variable {digest : Layout.DigestFunction} {record : Record}

theorem wellFormed_new {schema : SharedSchema} (h : schema.schema.WellFormed digest)
    (parent : Value) (arguments : ArgumentsId) : (new schema parent arguments).WellFormed digest where
  schema := h
  length := by
    have hpos := h.length_pos
    simp only [new, List.length_cons, List.length_replicate]
    omega

theorem WellFormed.withSlots (h : record.WellFormed digest) {slots : List Value}
    (hlen : slots.length = record.slots.length) :
    ({ record with slots := slots } : Record).WellFormed digest where
  schema := h.schema
  length := hlen.trans h.length

theorem WellFormed.exists_parent (h : record.WellFormed digest) :
    ∃ parent, record.slot? parentSlot = some parent := by
  have hlt : parentSlot < record.slots.length := by
    rw [h.length]
    exact h.schema.length_pos
  exact ⟨record.slots[parentSlot], List.getElem?_eq_getElem hlt⟩

theorem length_of_conformsTo {schema : SharedSchema} (h : record.conformsTo schema) :
    record.slots.length = schema.schema.length := by
  rw [conformsTo, Bool.and_eq_true] at h
  exact beq_iff_eq.mp h.2

/-- Records conform to every schema of their slots, whichever instance it is. -/
theorem WellFormed.conformsTo_of_slots (h : record.WellFormed digest) {schema : SharedSchema}
    (hschema : schema.schema.WellFormed digest)
    (hslots : record.schema.schema.slots = schema.schema.slots) : record.conformsTo schema := by
  have hhash : record.schema.schema.contentHash = schema.schema.contentHash := by
    rw [h.schema.contentHash, hschema.contentHash, hslots]
  have hlength : record.slots.length = schema.schema.length := by
    rw [h.length, Schema.length, Schema.length, hslots]
  simp [conformsTo, Record.length, hhash, hlength]

theorem assign?_eq_some {index : Nat} {value : Value} {changed : Record}
    (h : record.assign? index value = some changed) :
    index < record.slots.length ∧ changed = { record with slots := record.slots.set index value } := by
  unfold assign? at h
  split at h
  · cases h
    exact ⟨‹_›, rfl⟩
  · cases h

end Record

/-! ## Accessors -/

namespace Accessor

@[simp] theorem index_observe (a : Accessor) (value : Value) : (a.observe value).index = a.index :=
  rfl

theorem read_eq_ok {a used : Accessor} {record : Record} {value : Value}
    (h : a.read record = .ok (value, used)) :
    record.slot? a.index = some value ∧ used = a.observe value := by
  unfold read at h
  split at h
  · cases h
    exact ⟨‹_›, rfl⟩
  · cases h

theorem write_eq_ok {a used : Accessor} {record changed : Record} {value : Value}
    (h : a.write record value = .ok (changed, used)) :
    record.assign? a.index value = some changed ∧ used = a.observe value := by
  unfold write at h
  split at h
  · cases h
    exact ⟨‹_›, rfl⟩
  · cases h

end Accessor

/-- Accessors that are made for a list of slots have seen nothing. -/
theorem Accessor.profile_of_mem_fresh {indices : List Nat} {a : Accessor}
    (h : a ∈ indices.map fresh) : a.profile = .uninitialized := by
  obtain ⟨index, -, rfl⟩ := List.mem_map.mp h
  rfl

theorem Accessor.length_forSchema (schema : Schema) : (forSchema schema).length = schema.length := by
  rw [forSchema, List.length_map, List.length_range]

theorem Accessor.map_index_forSchema (schema : Schema) :
    (forSchema schema).map index = List.range schema.length := by
  rw [forSchema, List.map_map]
  exact List.map_id _

/-! ## Operators -/

structure Operator.WellFormed (digest : Layout.DigestFunction) (op : Operator) : Prop where
  schema : op.schema.schema.WellFormed digest
  reads : op.reads.map Accessor.index = List.range op.schema.schema.length
  writes : op.writes.map Accessor.index = List.range op.schema.schema.length
  slots_le : op.schema.schema.length ≤ op.config.maxSlots

namespace Operator

variable {digest : Layout.DigestFunction} {op : Operator}

theorem firstMisaligned?_eq_none_iff (position : Nat) (reads writes : List Accessor)
    (hlen : reads.length = writes.length) :
    firstMisaligned? position reads writes = none ↔
      reads.map Accessor.index = List.range' position reads.length ∧
        writes.map Accessor.index = List.range' position writes.length := by
  induction reads generalizing position writes with
  | nil =>
    have hnil : writes = [] := List.length_eq_zero_iff.mp hlen.symm
    subst hnil
    simp [firstMisaligned?]
  | cons read reads ih =>
    cases writes with
    | nil => simp at hlen
    | cons write writes =>
      have hlen' : reads.length = writes.length := by simpa using hlen
      rw [firstMisaligned?]
      by_cases hr : read.index = position
      · by_cases hw : write.index = position
        · simp [hr, hw, ih (position + 1) writes hlen', List.range'_succ]
        · simp [hr, hw, List.range'_succ]
      · simp [hr, List.range'_succ]

/-- An operator is built of what its construction is given, when all of it fits together. -/
theorem build_eq_ok {schema : SharedSchema} {reads writes : List Accessor} {config : Config}
    {context : Context} (h : build schema reads writes config context = .ok op) :
    op = logEvent ⟨schema, reads, writes, config, context, []⟩ "iteration_scope_created" none ∧
      schema.schema.length ≤ config.maxSlots ∧
      reads.map Accessor.index = List.range schema.schema.length ∧
      writes.map Accessor.index = List.range schema.schema.length := by
  unfold build at h
  split at h
  · cases h
  rename_i harity
  split at h
  · cases h
  rename_i hmax
  split at h
  · cases h
  rename_i hcount
  split at h
  · cases h
  rename_i haligned
  have hr : reads.length = schema.schema.length := Decidable.not_not.mp hcount
  have hw : writes.length = schema.schema.length := (Decidable.not_not.mp harity).symm.trans hr
  obtain ⟨hreads, hwrites⟩ :=
    (firstMisaligned?_eq_none_iff 0 reads writes (Decidable.not_not.mp harity)).mp haligned
  rw [hr, ← List.range_eq_range'] at hreads
  rw [hw, ← List.range_eq_range'] at hwrites
  exact ⟨(Except.ok.inj h).symm, Nat.le_of_not_lt hmax, hreads, hwrites⟩

/-- Fresh accessors fit every schema, so its size is all that can speak against an operator. -/
theorem forSchema_eq (schema : SharedSchema) (config : Config) (context : Context) :
    forSchema schema config context =
      if config.maxSlots < schema.schema.length then
        .error (.schemaTooLarge schema.schema.length config.maxSlots)
      else
        .ok (logEvent ⟨schema, Accessor.forSchema schema.schema, Accessor.forSchema schema.schema,
          config, context, []⟩ "iteration_scope_created" none) := by
  have hlength := Accessor.length_forSchema schema.schema
  have hindex : (Accessor.forSchema schema.schema).map Accessor.index =
      List.range' 0 (Accessor.forSchema schema.schema).length := by
    rw [hlength, ← List.range_eq_range', Accessor.map_index_forSchema]
  have haligned := (firstMisaligned?_eq_none_iff 0 _ _ rfl).mpr ⟨hindex, hindex⟩
  rw [forSchema, build, if_neg (not_not_intro rfl), if_neg (not_not_intro hlength), haligned]

theorem wellFormed_of_build {schema : SharedSchema} {reads writes : List Accessor}
    {config : Config} {context : Context} (hs : schema.schema.WellFormed digest)
    (h : build schema reads writes config context = .ok op) : op.WellFormed digest := by
  obtain ⟨rfl, hmax, hreads, hwrites⟩ := build_eq_ok h
  exact ⟨hs, hreads, hwrites, hmax⟩

/-- An operator whose accessors changed in nothing but their profiles. -/
theorem WellFormed.withAccessors (h : op.WellFormed digest) {reads writes : List Accessor}
    {log : List Event} (hreads : reads.map Accessor.index = op.reads.map Accessor.index)
    (hwrites : writes.map Accessor.index = op.writes.map Accessor.index) :
    ({ op with reads := reads, writes := writes, log := log } : Operator).WellFormed digest :=
  ⟨h.schema, hreads.trans h.reads, hwrites.trans h.writes, h.slots_le⟩

theorem WellFormed.logEvent (h : op.WellFormed digest) (event : String)
    (errorCode : Option String) : (op.logEvent event errorCode).WellFormed digest :=
  h.withAccessors rfl rfl

theorem WellFormed.logOutcome (h : op.WellFormed digest) (event : String)
    (outcome : Except ScopeError Unit) : (op.logOutcome event outcome).WellFormed digest := by
  unfold Operator.logOutcome
  split
  · split
    · exact h.logEvent event none
    · exact h
  · exact h.logEvent event _

theorem WellFormed.cloneUninitialized (h : op.WellFormed digest) :
    op.cloneUninitialized.1.WellFormed digest ∧ op.cloneUninitialized.2.WellFormed digest := by
  refine ⟨h.withAccessors ?_ ?_, h.logEvent _ _⟩
  · rw [List.map_map]; rfl
  · rw [List.map_map]; rfl

theorem WellFormed.drain (h : op.WellFormed digest) : op.drain.2.WellFormed digest :=
  h.withAccessors rfl rfl

private theorem map_index_set {accessors : List Accessor} {position : Nat} {a : Accessor}
    (h : ∀ old, accessors[position]? = some old → a.index = old.index) :
    (accessors.set position a).map Accessor.index = accessors.map Accessor.index := by
  rw [List.map_set]
  by_cases hlt : position < accessors.length
  · have hlt' : position < (accessors.map Accessor.index).length := by simpa using hlt
    have hindex : a.index = (accessors.map Accessor.index)[position] := by
      rw [List.getElem_map]
      exact h _ (List.getElem?_eq_getElem hlt)
    rw [hindex]
    exact List.set_getElem_self _
  · exact List.set_eq_of_length_le (by simpa using hlt)

theorem WellFormed.replaceRead (h : op.WellFormed digest) {position : Nat} {a : Accessor}
    (ha : ∀ old, op.reads[position]? = some old → a.index = old.index) :
    (op.replaceRead position a).WellFormed digest :=
  h.withAccessors (map_index_set ha) rfl

theorem WellFormed.replaceWrite (h : op.WellFormed digest) {position : Nat} {a : Accessor}
    (ha : ∀ old, op.writes[position]? = some old → a.index = old.index) :
    (op.replaceWrite position a).WellFormed digest :=
  h.withAccessors rfl (map_index_set ha)

end Operator

end LoopScope
