import LoopScope.Proofs.Store.Contents
/-!
# Copies

What `materialize` and `copyInto` do for a well-formed operator. Its accessors stand in the order of
the slots, so the walk over them cannot fail once both records have been found to conform: it
carries the values over from the slot where it starts to the last one.
-/
namespace LoopScope

/-! ## The walk over the accessors -/

/-- The accessors after each of them has moved one of the values. -/
def observeEach (accessors : List Accessor) (values : List Value) : List Accessor :=
  accessors.zipWith Accessor.observe values

theorem map_index_observeEach {accessors : List Accessor} {values : List Value}
    (h : accessors.length ≤ values.length) :
    (observeEach accessors values).map Accessor.index = accessors.map Accessor.index := by
  induction accessors generalizing values with
  | nil => rfl
  | cons a accessors ih =>
    cases values with
    | nil => simp at h
    | cons value values => simpa [observeEach] using ih (by simpa using h)

/-- Slots replaced one by one: the first `k` stay, the others come from another list. -/
private theorem take_set_append_drop {source slots : List Value} {k : Nat}
    (hs : k < source.length) (hd : k < slots.length) :
    (slots.set k source[k]).take (k + 1) ++ source.drop (k + 1) =
      slots.take k ++ source.drop k := by
  have hk : k < (slots.set k source[k]).length := by rwa [List.length_set]
  have htake : (slots.take k).length ≤ k := List.length_take_le k slots
  rw [List.take_succ_eq_append_getElem hk, List.getElem_set_self, List.take_set,
    List.set_eq_of_length_le htake, List.drop_eq_getElem_cons hs, List.append_assoc,
    List.singleton_append]

/-- Accessors that target the slots from `k` on move all of them, and the walk does not fail. -/
theorem moveSlots_aligned (source : Record) (k : Nat) (reads writes : List Accessor)
    (destination : Record) (hreads : reads.map Accessor.index = List.range' k reads.length)
    (hwrites : writes.map Accessor.index = List.range' k reads.length)
    (hs : source.slots.length = k + reads.length)
    (hd : destination.slots.length = k + reads.length) :
    moveSlots source reads writes destination =
      { outcome := .ok ()
        reads := observeEach reads (source.slots.drop k)
        writes := observeEach writes (source.slots.drop k)
        destination :=
          { destination with slots := destination.slots.take k ++ source.slots.drop k } } := by
  induction reads generalizing k writes destination with
  | nil =>
    have hnil : writes = [] := by simpa using hwrites
    subst hnil
    have hdrop : source.slots.drop k = [] := List.drop_eq_nil_of_le (Nat.le_of_eq hs)
    have htake : destination.slots.take k = destination.slots :=
      List.take_of_length_le (Nat.le_of_eq hd)
    rw [hdrop, htake, List.append_nil]
    rfl
  | cons read reads ih =>
    cases writes with
    | nil => simp at hwrites
    | cons write writes =>
      simp only [List.length_cons, List.map_cons, List.range'_succ, List.cons.injEq]
        at hreads hwrites hs hd
      obtain ⟨hr, hreads⟩ := hreads
      obtain ⟨hw, hwrites⟩ := hwrites
      have hsk : k < source.slots.length := by omega
      have hdk : k < destination.slots.length := by omega
      have hread : read.read source = .ok (source.slots[k], read.observe source.slots[k]) := by
        simp only [Accessor.read, Record.slot?, hr, List.getElem?_eq_getElem hsk]
      have hwrite : write.write destination source.slots[k] =
          .ok ({ destination with slots := destination.slots.set k source.slots[k] },
            write.observe source.slots[k]) := by
        simp only [Accessor.write, Record.assign?, Record.length, hw, hdk, if_true]
      have hrest := ih (k + 1) writes
        { destination with slots := destination.slots.set k source.slots[k] } hreads hwrites
        (by omega) (by simp only [List.length_set]; omega)
      simp only [moveSlots, hread, hwrite, hrest, take_set_append_drop hsk hdk]
      rw [List.drop_eq_getElem_cons hsk]
      rfl

namespace Operator

variable {digest : Layout.DigestFunction} {op : Operator}

theorem reads_logOutcome (op : Operator) (event : String) (outcome : Except ScopeError Unit) :
    (op.logOutcome event outcome).reads = op.reads := by
  unfold logOutcome
  split
  · split <;> rfl
  · rfl

theorem writes_logOutcome (op : Operator) (event : String) (outcome : Except ScopeError Unit) :
    (op.logOutcome event outcome).writes = op.writes := by
  unfold logOutcome
  split
  · split <;> rfl
  · rfl

theorem WellFormed.length_reads (h : op.WellFormed digest) :
    op.reads.length = op.schema.schema.length := by
  simpa using congrArg List.length h.reads

theorem WellFormed.length_writes (h : op.WellFormed digest) :
    op.writes.length = op.schema.schema.length := by
  simpa using congrArg List.length h.writes

/-- The operator after its accessors from `position` on have moved the values in `slots`. -/
def observing (op : Operator) (position : Nat) (slots : List Value) : Operator :=
  { op with
    reads := op.reads.take position ++ observeEach (op.reads.drop position) (slots.drop position)
    writes :=
      op.writes.take position ++ observeEach (op.writes.drop position) (slots.drop position) }

/-- What a copy lets the accessors see: those before `position` are left out, and any other one sees
the value in the slot at its place. -/
structure Observes (op used : Operator) (position : Nat) (slots : List Value) : Prop where
  reads : ∀ (i : Nat) (value : Value), slots[i]? = some value →
    used.reads[i]? = op.reads[i]?.map fun a => if i < position then a else a.observe value
  writes : ∀ (i : Nat) (value : Value), slots[i]? = some value →
    used.writes[i]? = op.writes[i]?.map fun a => if i < position then a else a.observe value

/-- An accessor that stands before `position` is left alone, and any other one observes the value in
the slot at its place. -/
private theorem getElem?_observeEach {accessors : List Accessor} {slots : List Value}
    (position : Nat) {i : Nat} {value : Value} (hi : slots[i]? = some value)
    (hlen : i < accessors.length) :
    (accessors.take position ++
        observeEach (accessors.drop position) (slots.drop position))[i]? =
      accessors[i]?.map fun a => if i < position then a else a.observe value := by
  by_cases hlt : i < position
  · have htake : i < (accessors.take position).length := by
      rw [List.length_take]
      omega
    rw [List.getElem?_append_left htake, List.getElem?_take_of_lt hlt]
    simp only [hlt, if_true, Option.map_id']
  · have hge : position ≤ i := Nat.le_of_not_lt hlt
    have htake : (accessors.take position).length = position := by
      rw [List.length_take]
      omega
    have hback : position + (i - position) = i := Nat.add_sub_of_le hge
    rw [List.getElem?_append_right (by omega), htake, observeEach, List.getElem?_zipWith',
      List.getElem?_drop, List.getElem?_drop, hback, hi]
    simp only [hlt, if_false, Option.map_some]
    cases accessors[i]? <;> rfl

private theorem map_index_observing {accessors : List Accessor} {slots : List Value}
    (position : Nat) (h : accessors.length = slots.length) :
    (accessors.take position ++
        observeEach (accessors.drop position) (slots.drop position)).map Accessor.index =
      accessors.map Accessor.index := by
  rw [List.map_append, map_index_observeEach (by simp [h]), ← List.map_append,
    List.take_append_drop]

theorem WellFormed.observing (h : op.WellFormed digest) (position : Nat) {slots : List Value}
    (hlen : slots.length = op.schema.schema.length) :
    (op.observing position slots).WellFormed digest :=
  h.withAccessors (map_index_observing position (h.length_reads.trans hlen.symm))
    (map_index_observing position (h.length_writes.trans hlen.symm))

theorem WellFormed.observes (h : op.WellFormed digest) (position : Nat) {slots : List Value}
    (hlen : slots.length = op.schema.schema.length) :
    op.Observes (op.observing position slots) position slots where
  reads i value hi := by
    have hlt := (List.getElem?_eq_some_iff.mp hi).1
    exact getElem?_observeEach position hi (by rwa [h.length_reads, ← hlen])
  writes i value hi := by
    have hlt := (List.getElem?_eq_some_iff.mp hi).1
    exact getElem?_observeEach position hi (by rwa [h.length_writes, ← hlen])

theorem Observes.logOutcome {used : Operator} {position : Nat} {slots : List Value}
    (h : op.Observes used position slots) (event : String) (outcome : Except ScopeError Unit) :
    op.Observes (used.logOutcome event outcome) position slots where
  reads := by
    rw [reads_logOutcome]
    exact h.reads
  writes := by
    rw [writes_logOutcome]
    exact h.writes

/-- The accessors from some slot on target just the slots from there on. -/
private theorem map_index_drop {accessors : List Accessor} {n : Nat} (position : Nat)
    (h : accessors.map Accessor.index = List.range n) :
    (accessors.drop position).map Accessor.index =
      List.range' position (n - position) := by
  rw [List.map_drop, h, List.range_eq_range', List.drop_range']
  simp

theorem nextRecord_eq (h : op.WellFormed digest) {source : Record}
    (hlen : source.slots.length = op.schema.schema.length) :
    op.nextRecord source =
      (.ok ⟨op.schema, source.slots, source.arguments⟩, op.observing 0 source.slots) := by
  have hr := h.length_reads
  have hpos := h.schema.length_pos
  have hmoved := moveSlots_aligned source 0 op.reads op.writes
    (.new op.schema .tdz source.arguments)
    (by rw [h.reads, hr, List.range_eq_range']) (by rw [h.writes, hr, List.range_eq_range'])
    (by omega)
    (by simp only [Record.new, List.length_cons, List.length_replicate]; omega)
  simp only [nextRecord, hmoved, observing, List.take_zero, List.drop_zero, List.nil_append]
  rfl

theorem refresh_eq (h : op.WellFormed digest) {source destination : Record}
    (hs : source.slots.length = op.schema.schema.length)
    (hd : destination.slots.length = op.schema.schema.length) :
    op.refresh source destination =
      (.ok (), op.observing 1 source.slots,
        { destination with slots := destination.slots.take 1 ++ source.slots.drop 1 }) := by
  have hr := h.length_reads
  have hpos := h.schema.length_pos
  have hmoved := moveSlots_aligned source 1 (op.reads.drop 1) (op.writes.drop 1)
    destination
    (by rw [map_index_drop 1 h.reads, List.length_drop, hr])
    (by rw [map_index_drop 1 h.writes, List.length_drop, hr])
    (by simp only [List.length_drop]; omega) (by simp only [List.length_drop]; omega)
  simp only [refresh, parentSlot, Nat.zero_add, hmoved, observing]

/-- Refreshed slots: the first is the old one, the others come from the source. -/
theorem getElem?_refreshed {old slots : List Value} (h : 0 < old.length) (i : Nat) :
    (old.take 1 ++ slots.drop 1)[i]? = if i = parentSlot then old[i]? else slots[i]? := by
  have htake : (old.take 1).length = 1 := by
    rw [List.length_take]
    omega
  by_cases hi : i = parentSlot
  · have hlt : i < 1 := by
      rw [hi]
      exact Nat.one_pos
    rw [if_pos hi, List.getElem?_append_left (by omega), List.getElem?_take_of_lt hlt]
  · have hback : 1 + (i - 1) = i := Nat.add_sub_of_le (Nat.pos_of_ne_zero hi)
    rw [if_neg hi, List.getElem?_append_right (by omega), htake, List.getElem?_drop, hback]

theorem length_refreshed {old slots : List Value} (h : 0 < old.length)
    (hlen : slots.length = old.length) :
    (old.take 1 ++ slots.drop 1).length = old.length := by
  rw [List.length_append, List.length_take, List.length_drop]
  omega

theorem drop_refreshed {old : List Value} (h : 0 < old.length) (slots : List Value) :
    (old.take 1 ++ slots.drop 1).drop 1 = slots.drop 1 := by
  have htake : (old.take 1).length = 1 := by
    rw [List.length_take]
    omega
  exact List.drop_left' htake

theorem take_one_of_parents {old slots : List Value}
    (h : old[parentSlot]? = slots[parentSlot]?) : old.take 1 = slots.take 1 := by
  rw [List.take_one, List.take_one, List.head?_eq_getElem?, List.head?_eq_getElem?]
  exact congrArg Option.toList h

/-- Slots with the parent link of the source become those of the source. -/
theorem refreshed_of_parents {old slots : List Value}
    (h : old[parentSlot]? = slots[parentSlot]?) : old.take 1 ++ slots.drop 1 = slots := by
  rw [take_one_of_parents h, List.take_append_drop]

/-! ## Outcome and effect -/

/-- What comes of a copy that is refused: the operator logs why, and nothing else happens. -/
def refused {α : Type} (op : Operator) (s : Store) (event : String) (e : ScopeError) :
    Except ScopeError α × Operator × Store :=
  (.error e, op.logOutcome event (.error e), s)

theorem refused_eq {α : Type} {s t : Store} {event : String} {e : ScopeError} {used : Operator}
    {outcome : Except ScopeError α} (h : op.refused s event e = (outcome, used, t)) :
    outcome = .error e ∧ t = s ∧ used.reads = op.reads ∧ used.writes = op.writes := by
  cases h
  exact ⟨rfl, rfl, reads_logOutcome op event _, writes_logOutcome op event _⟩

theorem checkConformance_of_conformsTo {record : Record} (h : record.conformsTo op.schema)
    (role : RecordRole) : op.checkConformance record role = .ok () :=
  if_pos h

theorem checkConformance_of_not {record : Record} (h : ¬ record.conformsTo op.schema)
    (role : RecordRole) :
    op.checkConformance record role =
      .error (.nonConformantRecord role op.schema.schema.contentHash record.slots.length) :=
  if_neg h

theorem materialize_eq (h : op.WellFormed digest) {s : Store} {source : RecordId}
    {record : Record} {guard : Guard} (hr : s.content? source = some (record, guard)) :
    op.materialize s source =
      if guard = .exclusive then op.refused s "materialize" .recordBusy
      else if record.conformsTo op.schema then
        (.ok ⟨s.records.next⟩, (op.observing 0 record.slots).logOutcome "materialize" (.ok ()),
          (s.create ⟨op.schema, record.slots, record.arguments⟩).2)
      else
        op.refused s "materialize"
          (.nonConformantRecord .source op.schema.schema.contentHash record.slots.length) := by
  simp only [materialize, Store.toRead_of_content? hr]
  by_cases hg : guard = .exclusive
  · simp only [hg, if_true, refused]
  · by_cases hc : record.conformsTo op.schema
    · have hnext := nextRecord_eq h (Record.length_of_conformsTo hc)
      simp only [hg, if_false, checkConformance_of_conformsTo hc, if_pos hc, hnext,
        Store.create_fst]
    · simp only [hg, if_false, checkConformance_of_not hc, if_neg hc, refused]

/-- A record that is copied into itself. -/
theorem copyInto_self_eq (op : Operator) (debugChecks : Bool) {s : Store} {r : RecordId}
    {record : Record} {guard : Guard} (hr : s.content? r = some (record, guard)) :
    op.copyInto debugChecks s r r =
      if guard = .exclusive then op.refused s "copy_into" .recordBusy
      else if record.conformsTo op.schema then (.ok (), op.logOutcome "copy_into" (.ok ()), s)
      else
        op.refused s "copy_into"
          (.nonConformantRecord .source op.schema.schema.contentHash record.slots.length) := by
  simp only [copyInto, if_true, Store.toRead_of_content? hr]
  by_cases hg : guard = .exclusive
  · simp only [hg, if_true, refused]
  · by_cases hc : record.conformsTo op.schema
    · simp only [hg, if_false, checkConformance_of_conformsTo hc, if_pos hc]
    · simp only [hg, if_false, checkConformance_of_not hc, if_neg hc, refused]

theorem borrowPair_eq {s : Store} {destination source : RecordId} {into record : Record}
    {intoGuard guard : Guard} (hd : s.content? destination = some (into, intoGuard))
    (hr : s.content? source = some (record, guard)) :
    borrowPair s destination source =
      if guard = .exclusive ∨ intoGuard ≠ .free then .error .recordBusy else .ok (record, into) := by
  simp only [borrowPair, Store.toRead_of_content? hr, Store.toWrite_of_content? hd]
  by_cases hg : guard = .exclusive
  · simp only [hg, if_true, true_or]
  · by_cases hf : intoGuard = .free
    · simp [hg, hf]
    · simp [hg, hf]

/-- What a refresh checks, in the order in which it checks it. -/
theorem checkRefresh_eq (op : Operator) (debugChecks : Bool) (source into : Record) :
    op.checkRefresh debugChecks source into =
      if ¬ source.conformsTo op.schema then
        .error (.nonConformantRecord .source op.schema.schema.contentHash source.slots.length)
      else if ¬ into.conformsTo op.schema then
        .error (.nonConformantRecord .destination op.schema.schema.contentHash into.slots.length)
      else if op.config.parentLinkCheck.enabled debugChecks ∧ into.parent? ≠ source.parent? then
        .error (.parentLinkDiverged into.renderParent source.renderParent)
      else .ok () := by
  unfold checkRefresh
  by_cases hs : source.conformsTo op.schema
  · by_cases hd : into.conformsTo op.schema
    · simp only [checkConformance_of_conformsTo hs, checkConformance_of_conformsTo hd,
        if_neg (not_not_intro hs), if_neg (not_not_intro hd)]
    · simp only [checkConformance_of_conformsTo hs, checkConformance_of_not hd,
        if_neg (not_not_intro hs), if_pos hd]
  · simp only [checkConformance_of_not hs, if_pos hs]

/-- What a refresh is checked for, which is the same in both directions. -/
theorem checkRefresh_eq_ok_iff (op : Operator) (debugChecks : Bool) (source into : Record) :
    op.checkRefresh debugChecks source into = .ok () ↔
      source.conformsTo op.schema ∧ into.conformsTo op.schema ∧
        (op.config.parentLinkCheck.enabled debugChecks → into.parent? = source.parent?) := by
  rw [checkRefresh_eq]
  by_cases hsource : source.conformsTo op.schema
  · by_cases hinto : into.conformsTo op.schema
    · rw [if_neg (not_not_intro hsource), if_neg (not_not_intro hinto)]
      by_cases hdiverged :
          op.config.parentLinkCheck.enabled debugChecks ∧ into.parent? ≠ source.parent?
      · rw [if_pos hdiverged]
        exact iff_of_false nofun fun h => hdiverged.2 (h.2.2 hdiverged.1)
      · rw [if_neg hdiverged]
        exact iff_of_true rfl
          ⟨hsource, hinto, fun henabled =>
            Decidable.not_not.mp fun hne => hdiverged ⟨henabled, hne⟩⟩
    · rw [if_neg (not_not_intro hsource), if_pos hinto]
      exact iff_of_false nofun fun h => hinto h.2.1
  · rw [if_pos hsource]
    exact iff_of_false nofun fun h => hsource h.1

theorem conforming_of_checkRefresh {debugChecks : Bool} {source into : Record}
    (h : op.checkRefresh debugChecks source into = .ok ()) :
    source.conformsTo op.schema ∧ into.conformsTo op.schema := by
  obtain ⟨hsource, hinto, -⟩ := (op.checkRefresh_eq_ok_iff debugChecks source into).mp h
  exact ⟨hsource, hinto⟩

theorem copyInto_eq (h : op.WellFormed digest) (debugChecks : Bool) {s : Store}
    {destination source : RecordId} (hne : destination ≠ source) {into record : Record}
    {intoGuard guard : Guard} (hd : s.content? destination = some (into, intoGuard))
    (hr : s.content? source = some (record, guard)) :
    op.copyInto debugChecks s destination source =
      if guard = .exclusive ∨ intoGuard ≠ .free then op.refused s "copy_into" .recordBusy
      else
        match op.checkRefresh debugChecks record into with
        | .error e => op.refused s "copy_into" e
        | .ok () =>
          (.ok (), (op.observing 1 record.slots).logOutcome "copy_into" (.ok ()),
            s.putSlots destination (into.slots.take 1 ++ record.slots.drop 1)) := by
  simp only [copyInto, hne, if_false, borrowPair_eq hd hr]
  by_cases hbusy : guard = .exclusive ∨ intoGuard ≠ .free
  · simp only [hbusy, if_true, refused]
  · simp only [hbusy, if_false]
    cases hcheck : op.checkRefresh debugChecks record into with
    | error e => rfl
    | ok checked =>
      obtain ⟨hsource, hinto⟩ := conforming_of_checkRefresh hcheck
      have hrefresh := refresh_eq h (Record.length_of_conformsTo hsource)
        (Record.length_of_conformsTo hinto)
      simp only [hrefresh]

end Operator

end LoopScope
