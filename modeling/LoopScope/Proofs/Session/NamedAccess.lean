import LoopScope.Proofs.Session.Lineage
/-!
# Access by name

A binding is found under its name at the index of its slot, and the parent link under no name.
Reading and assigning by name is reading and assigning the slot at that index, so no assignment by
name reaches a parent link.
-/
namespace LoopScope

/-! ## The index of a name -/

namespace Schema

variable {schema : Schema} {name : String} {index j k : Nat} {slot other : Slot}

theorem getElem?_bindingNames (hk : 1 ≤ k) :
    schema.bindingNames[k - 1]? = (schema.slot? k).map Slot.name := by
  rw [bindingNames, List.getElem?_map, bindings, List.getElem?_drop, parentSlot, slot?]
  congr 2
  omega

theorem nodup_bindingNames (hvalid : Layout.Valid schema.slots) : schema.bindingNames.Nodup := by
  rw [bindingNames, bindings, parentSlot]
  cases hslots : schema.slots with
  | nil => exact List.nodup_nil
  | cons first rest =>
    rw [hslots] at hvalid
    exact hvalid.2.2

/-- The bindings of a valid layout are told apart by their names. -/
theorem index_eq_of_name (hvalid : Layout.Valid schema.slots) (hj : 1 ≤ j) (hk : 1 ≤ k)
    (hslot : schema.slot? j = some slot) (hother : schema.slot? k = some other)
    (hname : slot.name = other.name) : j = k := by
  have hnameJ : schema.bindingNames[j - 1]? = some slot.name := by
    rw [getElem?_bindingNames hj, hslot, Option.map_some]
  have hnameK : schema.bindingNames[k - 1]? = some other.name := by
    rw [getElem?_bindingNames hk, hother, Option.map_some]
  have hlt := (List.getElem?_eq_some_iff.mp hnameJ).1
  have hsame : schema.bindingNames[j - 1]? = schema.bindingNames[k - 1]? := by
    rw [hnameJ, hnameK, hname]
  have hindex := (List.getElem?_inj hlt (nodup_bindingNames hvalid)).mp hsame
  omega

/-- What is found is a slot of that name after the parent link. -/
theorem slot?_of_indexOf? (h : schema.indexOf? name = some index) :
    1 ≤ index ∧ ∃ slot, schema.slot? index = some slot ∧ slot.name = name := by
  obtain ⟨i, hi, rfl⟩ := Option.map_eq_some_iff.mp h
  obtain ⟨hlt, hname, -⟩ := List.findIdx?_eq_some_iff_getElem.mp hi
  refine ⟨Nat.le_add_left _ _, schema.bindings[i], ?_, beq_iff_eq.mp hname⟩
  rw [slot?, Nat.add_comm, ← List.getElem?_drop]
  exact List.getElem?_eq_getElem hlt

theorem indexOf?_eq_none_iff :
    schema.indexOf? name = none ↔
      ∀ k slot, 1 ≤ k → schema.slot? k = some slot → slot.name ≠ name := by
  rw [indexOf?, Option.map_eq_none_iff, List.findIdx?_eq_none_iff]
  constructor
  · intro h k slot hk hslot
    have hm : slot ∈ schema.bindings := by
      rw [bindings, List.mem_iff_getElem?]
      refine ⟨k - 1, ?_⟩
      rw [List.getElem?_drop, parentSlot, ← hslot, slot?]
      congr 1
      omega
    exact beq_eq_false_iff_ne.mp (h slot hm)
  · intro h slot hm
    obtain ⟨i, hi⟩ := List.mem_iff_getElem?.mp hm
    rw [bindings, List.getElem?_drop] at hi
    exact beq_eq_false_iff_ne.mpr (h _ slot (Nat.le_add_right _ _) hi)

/-- A binding of a valid layout is found at its own index. -/
theorem indexOf?_name (hvalid : Layout.Valid schema.slots) (hk : 1 ≤ k)
    (hslot : schema.slot? k = some slot) : schema.indexOf? slot.name = some k := by
  cases hfound : schema.indexOf? slot.name with
  | none => exact (indexOf?_eq_none_iff.mp hfound k slot hk hslot rfl).elim
  | some j =>
    obtain ⟨hj, other, hother, hname⟩ := slot?_of_indexOf? hfound
    rw [index_eq_of_name hvalid hj hk hother hslot hname]

end Schema

/-! ## Slots by name -/

namespace Record

variable {record : Record} {name other : String} {index : Nat}

theorem binding?_of_indexOf? (h : record.schema.schema.indexOf? name = some index) :
    record.binding? name = record.slots[index]? := by
  rw [binding?, h]
  rfl

theorem binding?_of_none (h : record.schema.schema.indexOf? name = none) :
    record.binding? name = none := by
  rw [binding?, h]
  rfl

theorem binding?_withSlots (record : Record) (slots : List Value) (name : String) :
    ({ record with slots := slots } : Record).binding? name =
      (record.schema.schema.indexOf? name).bind fun index => slots[index]? :=
  rfl

theorem binding?_set_self (h : record.schema.schema.indexOf? name = some index)
    (hlt : index < record.slots.length) (value : Value) :
    ({ record with slots := record.slots.set index value } : Record).binding? name =
      some value := by
  rw [binding?_withSlots, h]
  exact List.getElem?_set_self hlt

/-- The slot that one name stands for is no other name's. -/
theorem binding?_set_of_ne (h : record.schema.schema.indexOf? name = some index)
    (hne : other ≠ name) (value : Value) :
    ({ record with slots := record.slots.set index value } : Record).binding? other =
      record.binding? other := by
  rw [binding?_withSlots]
  cases hother : record.schema.schema.indexOf? other with
  | none =>
    rw [binding?_of_none hother]
    rfl
  | some j =>
    obtain ⟨-, slot, hslot, hname⟩ := Schema.slot?_of_indexOf? h
    obtain ⟨-, otherSlot, hotherSlot, hotherName⟩ := Schema.slot?_of_indexOf? hother
    have hindex : index ≠ j := by
      intro he
      rw [← he, hslot] at hotherSlot
      cases hotherSlot
      exact hne (hotherName.symm.trans hname)
    rw [binding?_of_indexOf? hother]
    exact List.getElem?_set_ne hindex

theorem WellFormed.lt_of_indexOf? {digest : Layout.DigestFunction} (h : record.WellFormed digest)
    (hindex : record.schema.schema.indexOf? name = some index) : index < record.slots.length := by
  rw [h.length]
  exact (Schema.indexOf?_bounds hindex).2

end Record

/-! ## Records that nobody has borrowed -/

namespace Store

variable {s : Store} {r : RecordId} {record : Record} {name : String} {index : Nat} {a : Accessor}
  {value : Value}

theorem toRead_of_free (hc : s.content? r = some (record, .free)) : s.toRead r = .ok record :=
  (toRead_of_content? hc).trans (if_neg nofun)

theorem toWrite_of_free (hc : s.content? r = some (record, .free)) : s.toWrite r = .ok record :=
  (toWrite_of_content? hc).trans (if_pos rfl)

theorem get_of_free (hc : s.content? r = some (record, .free)) :
    s.get r name = match record.binding? name with
      | some value => .ok value
      | none => .error (.unknownBinding name) := by
  have hread := toRead_of_free hc
  cases hbinding : record.binding? name with
  | some found => simp only [get, hread, hbinding]
  | none => simp only [get, hread, hbinding]

theorem set_of_free (hc : s.content? r = some (record, .free)) :
    s.set r name value = match record.schema.schema.indexOf? name with
      | some index => .ok (s.putSlots r (record.slots.set index value))
      | none => .error (.unknownBinding name) := by
  have hwrite := toWrite_of_free hc
  cases hindex : record.schema.schema.indexOf? name with
  | some index => simp only [set, hwrite, hindex]
  | none => simp only [set, hwrite, hindex]

theorem readThrough_of_free (hc : s.content? r = some (record, .free))
    (hslot : record.slots[a.index]? = some value) :
    s.readThrough r a = .ok (.ok value, a.observe value) := by
  have hread : a.read record = .ok (value, a.observe value) := by
    rw [Accessor.read, Record.slot?, hslot]
  rw [readThrough, toRead_of_free hc]
  simp only [hread]

theorem writeThrough_of_free (hc : s.content? r = some (record, .free))
    (hlt : a.index < record.slots.length) (value : Value) :
    s.writeThrough r a value =
      .ok (.ok (), a.observe value, s.putSlots r (record.slots.set a.index value)) := by
  have hwrite : a.write record value =
      .ok ({ record with slots := record.slots.set a.index value }, a.observe value) := by
    rw [Accessor.write, Record.assign?, Record.length, if_pos hlt]
  rw [writeThrough, toWrite_of_free hc]
  simp only [hwrite]

end Store

/-- The call assigns a binding by its name. -/
def Call.assignsByName : Call → Bool
  | .set _ _ _ => true
  | _ => false

namespace Session

variable {digest : Layout.DigestFunction} {s : Session} {t : Store} {r : RecordId}
  {record : Record} {name : String} {index : Nat} {value : Value}

/-! ## One assignment -/

/-- The store after one slot of a record has been assigned. Its other slots are as before, and so
is all else that the client or a record holds; what nobody holds any more may be gone. -/
structure AssignsSlot (s : Session) (r : RecordId) (record : Record) (index : Nat) (value : Value)
    (t : Store) : Prop where
  content : t.content? r = some ({ record with slots := record.slots.set index value }, .free)
  others : ∀ q content, q ≠ r → t.content? q = some content → s.store.content? q = some content
  held : ∀ q, q ≠ r → (s.HasHandle q ∨ Ref.record q ∈ t.refs) →
    t.content? q = s.store.content? q
  lists : ∀ a values, t.values? a = some values → s.store.values? a = some values
  heldLists : ∀ a, (Ref.arguments a ∈ s.holds ∨ Ref.arguments a ∈ t.refs) →
    t.values? a = s.store.values? a

theorem Sound.assignsSlot_putSlots (h : s.Sound digest) (hr : s.HasHandle r)
    (hc : s.store.content? r = some (record, .free)) (hlive : ∀ ref ∈ value.refs, s.store.Live ref)
    (index : Nat) :
    AssignsSlot s r record index value
      (s.store.putSlots r (record.slots.set index value)) := by
  have hslots : ∀ ref ∈ valueRefs (record.slots.set index value), s.store.Live ref := by
    rw [live_valueRefs_iff]
    intro other hm
    rcases List.mem_or_eq_of_mem_set hm with hm | rfl
    · exact h.live_of_slots hc hm
    · exact hlive
  obtain ⟨hcontent, hothers, hheld, hlists, hheldLists⟩ := putSlots_effect h hr hc hslots rfl
  exact ⟨hcontent, hothers, hheld, hlists, hheldLists⟩

theorem AssignsSlot.get_self (h : AssignsSlot s r record index value t)
    (hindex : record.schema.schema.indexOf? name = some index)
    (hlt : index < record.slots.length) : t.get r name = .ok value := by
  rw [Store.get_of_free h.content, Record.binding?_set_self hindex hlt]

theorem AssignsSlot.get_of_ne (h : AssignsSlot s r record index value t)
    (hc : s.store.content? r = some (record, .free))
    (hindex : record.schema.schema.indexOf? name = some index) {other : String}
    (hne : other ≠ name) : t.get r other = s.store.get r other := by
  rw [Store.get_of_free h.content, Store.get_of_free hc, Record.binding?_set_of_ne hindex hne]

/-! ## What a name stands for -/

/-- On a record that nobody has borrowed, a name stands for the slot at `index`: what an accessor of
that slot does is done by the name. -/
structure NamesSlot (s : Session) (r : RecordId) (record : Record) (name : String) (index : Nat) :
    Prop where
  get : ∃ held, record.slots[index]? = some held ∧ s.store.get r name = .ok held ∧
    ∀ a : Accessor, a.index = index → s.store.readThrough r a = .ok (.ok held, a.observe held)
  set : ∀ value, (∀ ref ∈ value.refs, s.store.Live ref) → ∃ t,
    s.store.set r name value = .ok t ∧
    (∀ a : Accessor, a.index = index →
      s.store.writeThrough r a value = .ok (.ok (), a.observe value, t)) ∧
    AssignsSlot s r record index value t ∧ t.get r name = .ok value ∧
    ∀ other, other ≠ name → t.get r other = s.store.get r other

/-- A name stands for nothing: to read it and to assign it is refused, and changes nothing. -/
structure NamesNothing (digest : Layout.DigestFunction) (s : Session) (r : RecordId)
    (name : String) : Prop where
  get : s.store.get r name = .error (.unknownBinding name)
  set : ∀ value, s.store.set r name value = .error (.unknownBinding name)
  getCall : ∀ record, s.records.get? record = some r →
    s.stepBy digest (.get record name) = (.failed (.unknownBinding name), s)
  setCall : ∀ record operand value, s.records.get? record = some r →
    s.operand? operand = some value →
      s.stepBy digest (.set record name operand) = (.failed (.unknownBinding name), s)

theorem Sound.namesSlot (h : s.Sound digest) (hr : s.HasHandle r)
    (hc : s.store.content? r = some (record, .free))
    (hindex : record.schema.schema.indexOf? name = some index) :
    NamesSlot s r record name index := by
  have hlt := (h.records hc).lt_of_indexOf? hindex
  have hslot : record.slots[index]? = some record.slots[index] := List.getElem?_eq_getElem hlt
  refine ⟨⟨record.slots[index], hslot, ?_, ?_⟩, ?_⟩
  · rw [Store.get_of_free hc, Record.binding?_of_indexOf? hindex, hslot]
  · rintro a rfl
    exact Store.readThrough_of_free hc hslot
  · intro value hlive
    have hassigns := h.assignsSlot_putSlots hr hc hlive index
    refine ⟨_, ?_, ?_, hassigns, hassigns.get_self hindex hlt,
      fun other hne => hassigns.get_of_ne hc hindex hne⟩
    · rw [Store.set_of_free hc, hindex]
    · rintro a rfl
      exact Store.writeThrough_of_free hc hlt value

theorem namesNothing (hc : s.store.content? r = some (record, .free))
    (hnone : record.schema.schema.indexOf? name = none) : NamesNothing digest s r name := by
  have hget : s.store.get r name = .error (.unknownBinding name) := by
    rw [Store.get_of_free hc, Record.binding?_of_none hnone]
  have hset (value : Value) : s.store.set r name value = .error (.unknownBinding name) := by
    rw [Store.set_of_free hc, hnone]
  refine ⟨hget, hset, ?_, ?_⟩
  · intro named hnamed
    rw [stepBy, query, hnamed]
    simp only [hget, answerOr]
  · intro named operand value hnamed hvalue
    rw [stepBy, setCall, hnamed, hvalue]
    simp only [hset]

/-! ## Runs of assignments by name -/

theorem holds_setCall (s : Session) (named binding : String) (operand : Operand) :
    (s.setCall named binding operand).2.holds = s.holds := by
  unfold setCall
  split
  · split <;> rfl
  · rfl

theorem holds_runBy_of_assignsByName {calls : List Call}
    (hcalls : ∀ call ∈ calls, call.assignsByName) :
    (s.runBy digest calls).holds = s.holds := by
  induction calls generalizing s with
  | nil => rfl
  | cons call calls ih =>
    rw [runBy_cons, ih fun later hm => hcalls later (List.mem_cons_of_mem _ hm)]
    have hcall := hcalls call List.mem_cons_self
    cases call with
    | set named binding operand => exact s.holds_setCall named binding operand
    | _ => cases hcall

/-- An assignment by name makes no record, and leaves the first slot of every record. -/
theorem Provenance.parent_of_assignsByName {call : Call} (hp : s.Provenance call r record)
    (hcall : call.assignsByName) :
    ∃ old guard, s.store.content? r = some (old, guard) ∧
      record.slots[parentSlot]? = old.slots[parentSlot]? := by
  cases call with
  | set named binding operand =>
    cases hp with
    | kept content => exact ⟨record, _, content, rfl⟩
    | @assigned old slots target content record_eq length parent =>
      refine ⟨old, _, content, ?_⟩
      rw [record_eq]
      exact parent id
    | made fresh made => cases made
  | _ => cases hcall

theorem parent_runBy_of_assignsByName (h : s.Sound digest) {calls : List Call}
    (hcalls : ∀ call ∈ calls, call.assignsByName) {guard : Guard}
    (hc : (s.runBy digest calls).store.content? r = some (record, guard)) :
    ∃ old before, s.store.content? r = some (old, before) ∧
      record.slots[parentSlot]? = old.slots[parentSlot]? := by
  induction calls generalizing s with
  | nil => exact ⟨record, guard, hc, rfl⟩
  | cons call calls ih =>
    rw [runBy_cons] at hc
    obtain ⟨middle, between, hmiddle, hlater⟩ :=
      ih (h.stepBy call) (fun later hm => hcalls later (List.mem_cons_of_mem _ hm)) hc
    obtain ⟨old, before, hold, hparent⟩ :=
      ((effect_stepBy h call).provenance hmiddle).parent_of_assignsByName
        (hcalls call List.mem_cons_self)
    exact ⟨old, before, hold, hlater.trans hparent⟩

/-! ## The law of names -/

/-- The name of a binding leads to the index of its slot, no name leads to slot 0, and a name that
no binding has leads nowhere. On a record that nobody has borrowed, a name that leads to a slot
reads and assigns this slot and no other, and any other name is refused. Whatever is assigned by
name, the first slot of every record stays as it was, and no record that the client holds goes. -/
theorem names_reach_bindings_only (hs : s.Reachable digest) :
    (∀ schema : Schema, Layout.Valid schema.slots →
      (∀ k slot, 1 ≤ k → schema.slot? k = some slot →
        schema.indexOf? slot.name = some k ∧
        schema.bindingNames[k - 1]? = some slot.name) ∧
      ∀ name, schema.indexOf? name ≠ some parentSlot ∧
        (schema.indexOf? name = none ↔
          ∀ k slot, 1 ≤ k → schema.slot? k = some slot → slot.name ≠ name)) ∧
    (∀ r record, s.HasHandle r → s.store.content? r = some (record, .free) →
      Layout.Valid record.schema.schema.slots ∧ ∀ name,
        (∀ index, record.schema.schema.indexOf? name = some index →
          NamesSlot s r record name index) ∧
        (record.schema.schema.indexOf? name = none → NamesNothing digest s r name)) ∧
    ∀ calls : List Call, (∀ call ∈ calls, call.assignsByName) →
      (∀ r, s.HasHandle r → ∃ record guard,
        (s.runBy digest calls).store.content? r = some (record, guard)) ∧
      ∀ r record guard, (s.runBy digest calls).store.content? r = some (record, guard) →
        ∃ old before, s.store.content? r = some (old, before) ∧
          record.slots[parentSlot]? = old.slots[parentSlot]? := by
  have hsound := sound_of_reachable hs
  refine ⟨?_, ?_, ?_⟩
  · intro schema hvalid
    refine ⟨?_, fun name => ⟨?_, Schema.indexOf?_eq_none_iff⟩⟩
    · intro k slot hk hslot
      refine ⟨Schema.indexOf?_name hvalid hk hslot, ?_⟩
      rw [Schema.getElem?_bindingNames hk, hslot, Option.map_some]
    · intro hfound
      exact Nat.lt_irrefl _ (Schema.indexOf?_bounds hfound).1
  · intro r record hr hc
    refine ⟨(hsound.records hc).schema.valid, fun name => ⟨?_, namesNothing hc⟩⟩
    intro index hindex
    exact hsound.namesSlot hr hc hindex
  · intro calls hcalls
    refine ⟨?_, fun r record guard hc => parent_runBy_of_assignsByName hsound hcalls hc⟩
    intro r hr
    apply (hsound.runBy calls).exists_content
    rw [HasHandle, holds_runBy_of_assignsByName hcalls]
    exact hr

/-- A record whose parent link shares its name with a binding, next to a binding that has the usual
name of the parent link. -/
def twoNamesCalls : List Call :=
  [.schema "loop" [⟨"i", none, .parentLink⟩, .binding "i" 1 .letBinding,
      .binding "<parent>" 2 .constBinding],
    .root "first" "loop"]

/-- The session after these calls, with debug checks and with empty digests. -/
def twoNamesSession : Session := runBy (fun _ => []) (empty true) twoNamesCalls

/-- The client assigns both bindings, and a name that nothing has. -/
def assigningCalls : List Call :=
  [.set "first" "<parent>" (.value (.bool true)), .set "first" "i" (.value .undefined),
    .set "first" "j" (.value .null)]

theorem names_reach_bindings_only_sample :
    ∃ record, twoNamesSession.store.content? ⟨0⟩ = some (record, .free) ∧
      record.slots[parentSlot]? = some .null ∧
      NamesSlot twoNamesSession ⟨0⟩ record "<parent>" 2 ∧
      NamesNothing (fun _ => []) twoNamesSession ⟨0⟩ "j" ∧
      ∃ later guard, (twoNamesSession.runBy (fun _ => []) assigningCalls).store.content? ⟨0⟩ =
          some (later, guard) ∧
        later.slots[parentSlot]? = some .null := by
  have hreachable : twoNamesSession.Reachable fun _ => [] := ⟨_, twoNamesCalls, rfl⟩
  obtain ⟨-, hrecords, hruns⟩ := names_reach_bindings_only hreachable
  have hnamed : twoNamesSession.records.get? "first" = some ⟨0⟩ := by cbv
  have hc : twoNamesSession.store.content? ⟨0⟩ =
      some (⟨⟨0, [⟨"i", none, .parentLink⟩, .binding "i" 1 .letBinding,
        .binding "<parent>" 2 .constBinding], "sha256:"⟩, [.null, .tdz, .tdz], ⟨0⟩⟩, .free) := by
    cbv
  obtain ⟨-, hnames⟩ := hrecords ⟨0⟩ _ (hasHandle_of_name hnamed) hc
  obtain ⟨hstays, hparents⟩ := hruns assigningCalls (by decide)
  obtain ⟨later, guard, hlater⟩ := hstays ⟨0⟩ (hasHandle_of_name hnamed)
  obtain ⟨old, before, hold, hparent⟩ := hparents ⟨0⟩ later guard hlater
  rw [hc] at hold
  cases hold
  exact ⟨_, hc, rfl, (hnames "<parent>").1 2 (by decide), (hnames "j").2 (by decide), later, guard,
    hlater, hparent⟩

end Session

end LoopScope
