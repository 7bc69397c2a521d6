import LoopScope.Codec.Schema
import LoopScope.Proofs.Session.Failures
import LoopScope.Proofs.Session.Instances
/-!
# What is there in a reachable session

The representation invariant for schemas, records and operators, and what follows from it: no slot
and no accessor that the program looks for is ever missing. It holds for any digest function, one
under which different layouts collide included, since conforming records are also of one length.
-/
namespace LoopScope

variable {digest : Layout.DigestFunction}

/-- A text cannot bring a schema that is not well formed. -/
theorem Schema.wellFormed_of_ofTextBy {text : String} {schema : Schema}
    (h : ofTextBy digest text = .ok schema) : schema.WellFormed digest := by
  unfold ofTextBy at h
  split at h
  · cases h
  · split at h
    · cases h
    · split at h
      · cases h
      · rename_i made hmade
        split at h
        · cases h
          exact (wellFormed_of_ofSlotsBy hmade).2
        · cases h

theorem Record.WellFormed.length_snapshot {record : Record} (h : record.WellFormed digest)
    (argumentCount : Nat) : (record.snapshot argumentCount).slots.length = record.slots.length := by
  have hlength := h.length
  rw [Schema.length] at hlength
  simp only [Record.snapshot, List.length_zipWith, ← hlength, Nat.min_self]

private theorem exists_accessor {accessors : List Accessor} {n i : Nat}
    (h : accessors.map Accessor.index = List.range n) (hi : i < n) :
    ∃ a, accessors[i]? = some a ∧ a.index = i := by
  have hat : (accessors.map Accessor.index)[i]? = some i := by
    rw [h, List.getElem?_range hi]
  rw [List.getElem?_map] at hat
  exact Option.map_eq_some_iff.mp hat

/-- The accessors of one slot. -/
theorem Operator.WellFormed.exists_accessors {op : Operator} (h : op.WellFormed digest) {i : Nat}
    (hi : i < op.slotCount) :
    ∃ read write, op.reads[i]? = some read ∧ op.writes[i]? = some write ∧ read.index = i ∧
      write.index = i := by
  obtain ⟨read, hread, hreadIndex⟩ := exists_accessor h.reads hi
  obtain ⟨write, hwrite, hwriteIndex⟩ := exists_accessor h.writes hi
  exact ⟨read, write, hread, hwrite, hreadIndex, hwriteIndex⟩

namespace Session

variable {s : Session}

/-- No copy in the store finds a slot missing. -/
theorem Sound.copies_find_slots (h : s.Sound digest) {op : Operator} (hop : op.WellFormed digest)
    {destination source : RecordId} {into record : Record} {intoGuard guard : Guard}
    (hd : s.store.content? destination = some (into, intoGuard))
    (hc : s.store.content? source = some (record, guard)) (index : Nat) :
    (op.materialize s.store source).1 ≠ .error (.missingSlot index) ∧
      ∀ debugChecks,
        (op.copyInto debugChecks s.store destination source).1 ≠ .error (.missingSlot index) := by
  obtain ⟨intoParent, hintoParent⟩ := (h.records hd).exists_parent
  obtain ⟨parent, hparent⟩ := (h.records hc).exists_parent
  constructor
  · intro hmissing
    rcases hop.materialize_eq_error hc hmissing with he | ⟨_, _, he⟩ <;> cases he
  · intro debugChecks hmissing
    rcases hop.copyInto_eq_error hd hc hintoParent hparent hmissing with
      he | ⟨_, _, _, he⟩ | ⟨-, he⟩ <;> cases he

/-- In every reachable session, schemas are valid layouts with their own fingerprints, records have
the slots of their schemas, and operators have one pair of accessors for each slot, within the
limit of their configuration. So no slot is missing where the program looks for one. -/
theorem representation_invariant (hs : s.Reachable digest) :
    (∀ shared, s.Uses shared → Layout.Valid shared.schema.slots ∧
      shared.schema.contentHash = Layout.fingerprint digest shared.schema.slots ∧
      parentSlot + 1 ≤ shared.schema.slots.length) ∧
    (∀ text schema, Schema.ofTextBy digest text = .ok schema → Layout.Valid schema.slots ∧
      schema.contentHash = Layout.fingerprint digest schema.slots ∧
      parentSlot + 1 ≤ schema.slots.length) ∧
    (∀ r record guard, s.store.content? r = some (record, guard) →
      record.slots.length = record.schema.schema.length ∧
      (∃ parent, record.slots[parentSlot]? = some parent ∧ record.renderParent = parent.render ∧
        s.store.parent r = if guard = .exclusive then .error .recordBusy else .ok parent) ∧
      (∀ name index, record.schema.schema.indexOf? name = some index →
        index < record.slots.length) ∧
      ∀ argumentCount, (record.snapshot argumentCount).slots.length = record.slots.length) ∧
    (∀ name op, s.operators.get? name = some op →
      op.reads.length = op.slotCount ∧ op.writes.length = op.slotCount ∧
      parentSlot < op.slotCount ∧ op.slotCount ≤ op.config.maxSlots ∧
      (∀ i, i < op.slotCount → ∃ read write, op.reads[i]? = some read ∧
        op.writes[i]? = some write ∧ read.index = i ∧ write.index = i) ∧
      ∀ destination source into intoGuard record guard index,
        s.store.content? destination = some (into, intoGuard) →
        s.store.content? source = some (record, guard) →
        (op.materialize s.store source).1 ≠ .error (.missingSlot index) ∧
        ∀ debugChecks,
          (op.copyInto debugChecks s.store destination source).1 ≠ .error (.missingSlot index)) ∧
    ∀ call index, (s.stepBy digest call).1 ≠ .failed (.missingSlot index) := by
  have hsound := sound_of_reachable hs
  refine ⟨?_, ?_, ?_, ?_, ?_⟩
  · intro shared hused
    have hwell := hsound.wellFormed_of_uses hused
    exact ⟨hwell.valid, hwell.contentHash, hwell.length_pos⟩
  · intro text schema htext
    have hwell := Schema.wellFormed_of_ofTextBy htext
    exact ⟨hwell.valid, hwell.contentHash, hwell.length_pos⟩
  · intro r record guard hc
    have hwell := hsound.records hc
    obtain ⟨parent, hparent⟩ := hwell.exists_parent
    refine ⟨hwell.length, ⟨parent, hparent, Record.renderParent_eq hparent,
      Store.parent_of_content? hc hparent⟩, ?_, hwell.length_snapshot⟩
    intro name index hindex
    rw [hwell.length]
    exact (Schema.indexOf?_bounds hindex).2
  · intro name op hop
    have hwell := hsound.operators hop
    refine ⟨hwell.length_reads, hwell.length_writes, hwell.schema.length_pos, hwell.slots_le,
      fun i => hwell.exists_accessors, ?_⟩
    intro destination source into intoGuard record guard index hd hc
    exact hsound.copies_find_slots hwell hd hc index
  · intro call index hfailed
    exact call.not_canFail_missingSlot index (canFail_of_stepBy hsound call hfailed)

/-- The calls of a client that has an operator for one layout, and a record of another layout with
as many slots. -/
def collisionCalls : List Call :=
  [.schema "loop" sampleSchema.schema.slots,
    .schema "other" [.parent, .binding "j" 7 .constBinding], .root "scope" "other",
    .operator "next" (.given .default) .blank (.schema "loop")]

/-- The session after these calls, with debug checks and with empty digests, under which all layouts
collide. -/
def collisionSession : Session := runBy (fun _ => []) (empty true) collisionCalls

theorem representation_invariant_collision :
    ∃ record, collisionSession.store.content? ⟨0⟩ = some (record, .free) ∧
      record.schema.schema.slots ≠ sampleSchema.schema.slots ∧
      record.conformsTo sampleSchema ∧ record.slots.length = 2 ∧
      ∀ index, (sampleOperator.materialize collisionSession.store ⟨0⟩).1 ≠
        .error (.missingSlot index) := by
  have hreachable : collisionSession.Reachable fun _ => [] := ⟨_, collisionCalls, rfl⟩
  have hc : collisionSession.store.content? ⟨0⟩ =
      some (⟨⟨1, [.parent, .binding "j" 7 .constBinding], "sha256:"⟩, [.null, .tdz], ⟨0⟩⟩,
        .free) := by cbv
  have hop : collisionSession.operators.get? "next" = some sampleOperator := by cbv
  obtain ⟨-, -, hrecords, hoperators, -⟩ := representation_invariant hreachable
  obtain ⟨hlength, -⟩ := hrecords _ _ _ hc
  obtain ⟨-, -, -, -, -, hcopies⟩ := hoperators _ _ hop
  exact ⟨_, hc, by decide, by decide, hlength, fun index => (hcopies _ _ _ _ _ _ index hc hc).1⟩

end Session

end LoopScope
