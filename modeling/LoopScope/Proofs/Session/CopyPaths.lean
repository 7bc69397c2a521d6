import LoopScope.Proofs.Session.Duplicates
import LoopScope.Proofs.Store.Collection
/-!
# The two ways to copy

The next record of a loop can be materialized, or it can be made with the parent link and the
argument list of the old one and then refreshed from it. Either way leads to the same store. What
the accessors see differs at slot 0 only, which a refresh leaves out.
-/
namespace LoopScope

/-- Both ways move the bindings through the accessors after the first. -/
theorem drop_observeEach (accessors : List Accessor) (slots : List Value) :
    (accessors.take 1 ++ observeEach (accessors.drop 1) (slots.drop 1)).drop 1 =
      (observeEach accessors slots).drop 1 := by
  cases accessors with
  | nil => rfl
  | cons a accessors =>
    cases slots with
    | nil => simp [observeEach]
    | cons value slots => rfl

theorem Record.conformsTo_new {digest : Layout.DigestFunction} {schema : SharedSchema}
    (h : schema.schema.WellFormed digest) (parent : Value) (arguments : ArgumentsId) :
    (new schema parent arguments).conformsTo schema :=
  (wellFormed_new h parent arguments).conformsTo_of_slots h rfl

namespace Operator

variable {digest : Layout.DigestFunction} {op : Operator} {s : Store}
  {destination source : RecordId} {into record : Record} {guard : Guard} {parent : Value}

/-- A refresh of a free record that has the parent link of its source. -/
theorem WellFormed.copyInto_of_parents (h : op.WellFormed digest) (hne : destination ≠ source)
    (hd : s.content? destination = some (into, .free))
    (hc : s.content? source = some (record, guard)) (hguard : guard ≠ .exclusive)
    (hinto : into.conformsTo op.schema) (hconforms : record.conformsTo op.schema)
    (hparents : into.slots[parentSlot]? = record.slots[parentSlot]?) (debugChecks : Bool) :
    op.copyInto debugChecks s destination source =
      (.ok (), (op.observing 1 record.slots).logOutcome "copy_into" (.ok ()),
        s.putSlots destination record.slots) := by
  have hcheck : op.checkRefresh debugChecks record into = .ok () :=
    (op.checkRefresh_eq_ok_iff debugChecks record into).mpr ⟨hconforms, hinto, fun _ => hparents⟩
  have hbusy : ¬ (guard = .exclusive ∨ Guard.free ≠ .free) := by simp [hguard]
  rw [copyInto_eq h debugChecks hne hd hc, if_neg hbusy, hcheck, refreshed_of_parents hparents]

/-- One operator after materializing a record and after refreshing one, each time from a source with
this parent link. -/
structure CopiedAlike (op made refreshed : Operator) (parent : Value) : Prop where
  bindingReads : made.reads.drop 1 = refreshed.reads.drop 1
  bindingWrites : made.writes.drop 1 = refreshed.writes.drop 1
  madeRead : made.reads[parentSlot]? = op.reads[parentSlot]?.map fun a => a.observe parent
  madeWrite : made.writes[parentSlot]? = op.writes[parentSlot]?.map fun a => a.observe parent
  refreshedRead : refreshed.reads[parentSlot]? = op.reads[parentSlot]?
  refreshedWrite : refreshed.writes[parentSlot]? = op.writes[parentSlot]?
  madeLog : made.log = op.log ++ op.passEntries "materialize"
  refreshedLog : refreshed.log = op.log ++ op.passEntries "copy_into"
  madeSetup : made.SameSetup op
  refreshedSetup : refreshed.SameSetup op

theorem WellFormed.copiedAlike (h : op.WellFormed digest)
    (hlength : record.slots.length = op.schema.schema.length)
    (hparent : record.slots[parentSlot]? = some parent) :
    op.CopiedAlike ((op.observing 0 record.slots).logOutcome "materialize" (.ok ()))
      ((op.observing 1 record.slots).logOutcome "copy_into" (.ok ())) parent := by
  have hmade := (h.observes 0 hlength).logOutcome "materialize" (.ok ())
  have hrefreshed := (h.observes 1 hlength).logOutcome "copy_into" (.ok ())
  refine ⟨?_, ?_, ?_, ?_, ?_, ?_, log_passed _ _, log_passed _ _,
    (sameSetup_logOutcome _ _ _).trans ⟨rfl, rfl, rfl⟩,
    (sameSetup_logOutcome _ _ _).trans ⟨rfl, rfl, rfl⟩⟩
  · rw [reads_logOutcome, reads_logOutcome]
    exact (drop_observeEach op.reads record.slots).symm
  · rw [writes_logOutcome, writes_logOutcome]
    exact (drop_observeEach op.writes record.slots).symm
  · exact hmade.reads parentSlot parent hparent
  · exact hmade.writes parentSlot parent hparent
  · rw [hrefreshed.reads parentSlot parent hparent]
    exact Option.map_id'
  · rw [hrefreshed.writes parentSlot parent hparent]
    exact Option.map_id'

end Operator

namespace Session

variable {digest : Layout.DigestFunction} {s : Session} {name : String} {op : Operator}
  {source : RecordId} {record : Record} {guard : Guard}

/-- For a source that conforms and is not exclusively borrowed, making a record with its parent link
and its argument list and refreshing that record leads to the store that materializing it leads to.
One record is new there, with the operator's schema and the slots and the argument list of the
source, and all others are as they were. The operator has logged another event, and only its
accessors of slot 0 have seen anything else. A record that was there before and has the parent link
of the source gets the same slots from a refresh. A held one outlasts the refresh; one that nothing
but its own slots leads to can go away with what they held. -/
theorem copy_paths_agree (hs : s.Reachable digest) (hop : s.operators.get? name = some op)
    (hc : s.store.content? source = some (record, guard)) (hguard : guard ≠ .exclusive)
    (hconforms : record.conformsTo op.schema) :
    ∃ parent, record.slots[parentSlot]? = some parent ∧
      (∃ r u made refreshed t, s.store.create (.new op.schema parent record.arguments) = (r, u) ∧
        op.materialize s.store source = (.ok r, made, t) ∧
        (∀ debugChecks, op.copyInto debugChecks u r source = (.ok (), refreshed, t)) ∧
        s.store.content? r = none ∧
        t.content? r = some (⟨op.schema, record.slots, record.arguments⟩, .free) ∧
        (∀ q, q ≠ r → t.content? q = s.store.content? q) ∧
        (∀ a, t.values? a = s.store.values? a) ∧
        op.CopiedAlike made refreshed parent) ∧
      ∀ destination into, s.store.content? destination = some (into, .free) →
        into.conformsTo op.schema → into.slots[parentSlot]? = some parent →
        ∃ used t,
          (∀ debugChecks, op.copyInto debugChecks s.store destination source =
            (.ok (), used, t)) ∧
          (s.HasHandle destination → t.Live (.record destination)) ∧
          (t.Live (.record destination) →
            t.content? destination = some ({ into with slots := record.slots }, .free)) := by
  have hsound := sound_of_reachable hs
  have hwell := hsound.operators hop
  have hlength : record.slots.length = op.schema.schema.length :=
    Record.length_of_conformsTo hconforms
  have hlive : ∀ ref ∈ record.refs, s.store.Live ref := fun ref hm =>
    hsound.balanced.live_of_content? hc hm
  have hslots : ∀ ref ∈ valueRefs record.slots, s.store.Live ref := fun ref hm =>
    hlive ref (List.mem_append_left _ hm)
  obtain ⟨parent, hparent⟩ := (hsound.records hc).exists_parent
  replace hparent : record.slots[parentSlot]? = some parent := hparent
  refine ⟨parent, hparent, ?_, ?_⟩
  · have hmaterialize := Operator.materialize_eq hwell hc
    rw [if_neg hguard, if_pos hconforms] at hmaterialize
    have hne : source ≠ ⟨s.store.records.next⟩ := by
      intro he
      exact Nat.ne_of_lt (Store.lt_next_of_content? hc) (congrArg RecordId.number he)
    have hnew : ∀ ref ∈ (Record.new op.schema parent record.arguments).refs, s.store.Live ref := by
      intro ref hm
      rw [Store.refs_new] at hm
      rcases List.mem_append.mp hm with hm | hm
      · exact hsound.live_of_slots hc (List.mem_of_getElem? hparent) ref hm
      · exact hlive ref (List.mem_append_right _ hm)
    have hrefresh := hwell.copyInto_of_parents (Ne.symm hne)
      (Store.content?_create_self s.store (.new op.schema parent record.arguments))
      ((Store.content?_create_of_ne s.store _ hne).trans hc) hguard
      (Record.conformsTo_new hwell.schema parent record.arguments) hconforms hparent.symm
    have hwritten := hsound.balanced.putSlots_create hnew hslots
    rw [Store.create_fst] at hwritten
    simp only [hwritten] at hrefresh
    have hfresh : s.store.content? ⟨s.store.records.next⟩ = none := by
      rw [Store.content?, Store.recordCell?, Arena.get?_next, Option.map_none]
    exact ⟨⟨s.store.records.next⟩, _, _, _, _, Prod.ext (Store.create_fst _ _) rfl, hmaterialize,
      hrefresh, hfresh, Store.content?_create_self _ _,
      fun q hq => Store.content?_create_of_ne _ _ hq, Store.values?_create _ _,
      hwell.copiedAlike hlength hparent⟩
  · intro destination into hd hfits hparents
    by_cases he : destination = source
    · subst he
      rw [hc] at hd
      cases hd
      have hself (debugChecks : Bool) := op.copyInto_self_eq debugChecks hc
      simp only [if_neg hguard, if_pos hconforms] at hself
      exact ⟨_, _, hself, fun _ => Store.live_of_content? hc, fun _ => hc⟩
    · have hbalanced := hsound.balanced.putSlots destination hslots
      exact ⟨_, _,
        hwell.copyInto_of_parents he hd hc hguard hfits hconforms (hparents.trans hparent.symm),
        hbalanced.live_of_mem_held, fun hl => Store.content?_putSlots_of_live hl hd⟩

/-- The first record, carried on both ways, and the second one refreshed from it. -/
theorem copy_paths_agree_sample :
    (∃ u made refreshed t, sample.store.create (.new sampleSchema .null ⟨0⟩) = (⟨2⟩, u) ∧
      sampleOperator.materialize sample.store ⟨0⟩ = (.ok ⟨2⟩, made, t) ∧
      sampleOperator.copyInto true u ⟨2⟩ ⟨0⟩ = (.ok (), refreshed, t) ∧
      t.content? ⟨2⟩ = some (⟨sampleSchema, [.null, .bool true], ⟨0⟩⟩, .free)) ∧
    ∃ used t, sampleOperator.copyInto true sample.store ⟨1⟩ ⟨0⟩ = (.ok (), used, t) ∧
      t.content? ⟨1⟩ = some (⟨sampleSchema, [.null, .bool true], ⟨0⟩⟩, .free) := by
  obtain ⟨parent, hparent, ⟨r, u, made, refreshed, t, hnew, hmade, hrefreshed, -, hcontent, -⟩,
    hinto⟩ :=
    copy_paths_agree reachable_sample operator_sample content?_sample_first Guard.noConfusion
      (by decide)
  cases hparent
  have hnext : sample.store.records.next = 2 := by cbv
  have hr : r = ⟨2⟩ := by
    have hfst := congrArg Prod.fst hnew
    rw [Store.create_fst, hnext] at hfst
    exact hfst.symm
  subst hr
  obtain ⟨used, after, hcopied, hlive, hslots⟩ :=
    hinto ⟨1⟩ _ content?_sample_second (by decide) rfl
  exact ⟨⟨u, made, refreshed, t, hnew, hmade, hrefreshed true, hcontent⟩, used, after,
    hcopied true,
    hslots (hlive (hasHandle_of_name name_sample_second))⟩

end Session

end LoopScope
