import LoopScope.Proofs.Session.Invariant
import Mathlib
/-!
# Copies in a session

The complete outcome and effect of `materialize` and of `copyInto`, for every operator and all
records that a client can hold. A copy that fails changes neither a record nor an accessor.
-/
namespace LoopScope

theorem Record.renderParent_eq {record : Record} {parent : Value}
    (h : record.slots[parentSlot]? = some parent) : record.renderParent = parent.render := by
  rw [renderParent, parent?, slot?, h]
  rfl

/-- What a refresh checks, told by the values in the two parent links. -/
theorem Operator.checkRefresh_of_parents (op : Operator) (debugChecks : Bool)
    {source into : Record} {parent intoParent : Value}
    (hsource : source.slots[parentSlot]? = some parent)
    (hinto : into.slots[parentSlot]? = some intoParent) :
    op.checkRefresh debugChecks source into =
      if ¬ source.conformsTo op.schema then
        .error (.nonConformantRecord .source op.schema.schema.contentHash source.slots.length)
      else if ¬ into.conformsTo op.schema then
        .error (.nonConformantRecord .destination op.schema.schema.contentHash into.slots.length)
      else if op.config.parentLinkCheck.enabled debugChecks ∧ intoParent ≠ parent then
        .error (.parentLinkDiverged intoParent.render parent.render)
      else .ok () := by
  have hdiverged : into.parent? ≠ source.parent? ↔ intoParent ≠ parent := by
    rw [Record.parent?, Record.parent?, Record.slot?, Record.slot?, hinto, hsource, ne_eq, ne_eq,
      Option.some.injEq]
  rw [checkRefresh_eq, Record.renderParent_eq hinto, Record.renderParent_eq hsource]
  simp only [hdiverged]

namespace Session

variable {digest : Layout.DigestFunction} {s : Session} {name : String} {op used : Operator}
  {source destination : RecordId} {t : Store} {debugChecks : Bool}

/-! ## A sample session -/

/-- The layout of a loop with one binding, as a schema instance. -/
def sampleSchema : SharedSchema := ⟨0, [.parent, .binding "i" 1 .letBinding], "sha256:"⟩

/-- The calls of a client that makes two records for one loop, and an operator. -/
def sampleCalls : List Call :=
  [.schema "loop" sampleSchema.schema.slots, .arguments "args" [],
    .record "first" "loop" (.value .null) (some "args"), .set "first" "i" (.value (.bool true)),
    .record "second" "loop" (.value .null) (some "args"),
    .operator "next" (.given .default) .blank (.schema "loop")]

/-- The session after these calls, with debug checks and with empty digests. -/
def sample : Session := runBy (fun _ => []) (empty true) sampleCalls

def sampleOperator : Operator :=
  ⟨sampleSchema, [.fresh 0, .fresh 1], [.fresh 0, .fresh 1], .default, .blank,
    [.make .blank "iteration_scope_created" none "sha256:" 2]⟩

theorem reachable_sample : sample.Reachable fun _ => [] := ⟨true, sampleCalls, rfl⟩

theorem operator_sample : sample.operators.get? "next" = some sampleOperator := by cbv

theorem name_sample_first : sample.records.get? "first" = some ⟨0⟩ := by cbv

theorem name_sample_second : sample.records.get? "second" = some ⟨1⟩ := by cbv

theorem content?_sample_first :
    sample.store.content? ⟨0⟩ = some (⟨sampleSchema, [.null, .bool true], ⟨0⟩⟩, .free) := by
  cbv

theorem content?_sample_second :
    sample.store.content? ⟨1⟩ = some (⟨sampleSchema, [.null, .tdz], ⟨0⟩⟩, .free) := by
  cbv

/-! ## Making the next record -/

/-- Materializing fails just on a record that is exclusively borrowed or does not conform. Else it
makes one free record, which has the operator's schema, and the slots and the argument list of the
source. -/
theorem materialize_outcome_and_effect (hs : s.Reachable digest)
    (hop : s.operators.get? name = some op) (hsource : s.HasHandle source)
    {outcome : Except ScopeError RecordId}
    (hrun : op.materialize s.store source = (outcome, used, t)) :
    ∃ record guard, s.store.content? source = some (record, guard) ∧
      outcome =
        (if guard = .exclusive then .error .recordBusy
        else if ¬ record.conformsTo op.schema then
          .error (.nonConformantRecord .source op.schema.schema.contentHash record.slots.length)
        else .ok ⟨s.store.records.next⟩) ∧
      (∀ e, outcome = .error e → t = s.store ∧ used.reads = op.reads ∧ used.writes = op.writes) ∧
      ∀ r, outcome = .ok r →
        (∀ q content, s.store.content? q = some content → q ≠ r) ∧
        t.content? r = some (⟨op.schema, record.slots, record.arguments⟩, .free) ∧
        record.slots.length = op.slotCount ∧
        (∀ q, q ≠ r → t.content? q = s.store.content? q) ∧
        (∀ a, t.values? a = s.store.values? a) ∧
        op.Observes used 0 record.slots := by
  have hsound := sound_of_reachable hs
  have hwell := hsound.operators hop
  obtain ⟨record, guard, hc⟩ := hsound.exists_content hsource
  refine ⟨record, guard, hc, ?_⟩
  rw [Operator.materialize_eq hwell hc] at hrun
  by_cases hg : guard = .exclusive
  · rw [if_pos hg] at hrun ⊢
    obtain ⟨rfl, hkept⟩ := Operator.refused_eq hrun
    refine ⟨rfl, fun _ _ => hkept, ?_⟩
    intro r h
    cases h
  · rw [if_neg hg] at hrun ⊢
    by_cases hconforms : record.conformsTo op.schema
    · rw [if_pos hconforms] at hrun
      rw [if_neg (not_not_intro hconforms)]
      cases hrun
      have hlength : record.slots.length = op.schema.schema.length :=
        Record.length_of_conformsTo hconforms
      refine ⟨rfl, ?_, ?_⟩
      · intro e h
        cases h
      · intro r h
        cases h
        refine ⟨?_, Store.content?_create_self _ _, hlength,
          fun q hq => Store.content?_create_of_ne _ _ hq, Store.values?_create _ _,
          (hwell.observes 0 hlength).logOutcome _ _⟩
        intro q content hq he
        have hlt := Store.lt_next_of_content? hq
        rw [he] at hlt
        exact Nat.lt_irrefl _ hlt
    · rw [if_neg hconforms] at hrun
      rw [if_pos hconforms]
      obtain ⟨rfl, hkept⟩ := Operator.refused_eq hrun
      refine ⟨rfl, fun _ _ => hkept, ?_⟩
      intro r h
      cases h

theorem materialize_sample :
    ∃ used t, sampleOperator.materialize sample.store ⟨0⟩ = (.ok ⟨2⟩, used, t) ∧
      t.content? ⟨2⟩ = some (⟨sampleSchema, [.null, .bool true], ⟨0⟩⟩, .free) ∧
      t.content? ⟨0⟩ = sample.store.content? ⟨0⟩ := by
  have hrun : sampleOperator.materialize sample.store ⟨0⟩ =
      ((sampleOperator.materialize sample.store ⟨0⟩).1, _, _) := rfl
  obtain ⟨record, guard, hc, houtcome, -, hmade⟩ :=
    materialize_outcome_and_effect reachable_sample operator_sample
      (hasHandle_of_name name_sample_first) hrun
  rw [content?_sample_first] at hc
  cases hc
  have hnext : sample.store.records.next = 2 := by cbv
  have hok : (sampleOperator.materialize sample.store ⟨0⟩).1 = .ok ⟨2⟩ := by
    rw [houtcome, hnext]
    rfl
  obtain ⟨-, hnew, -, hframe, -⟩ := hmade ⟨2⟩ hok
  rw [hok] at hrun
  exact ⟨_, _, hrun, hnew, hframe ⟨0⟩ (by decide)⟩

/-! ## Refreshing a record in place -/

/-- A record copied into itself. -/
private theorem copyInto_self_outcome {r : RecordId} {record : Record} {guard : Guard}
    (hc : s.store.content? r = some (record, guard)) {outcome : Except ScopeError Unit}
    (hrun : op.copyInto debugChecks s.store r r = (outcome, used, t)) :
    outcome =
        (if guard = .exclusive then .error .recordBusy
        else if ¬ record.conformsTo op.schema then
          .error (.nonConformantRecord .source op.schema.schema.contentHash record.slots.length)
        else .ok ()) ∧
      t = s.store ∧ used.reads = op.reads ∧ used.writes = op.writes := by
  rw [Operator.copyInto_self_eq op debugChecks hc] at hrun
  by_cases hg : guard = .exclusive
  · rw [if_pos hg] at hrun ⊢
    exact Operator.refused_eq hrun
  · rw [if_neg hg] at hrun ⊢
    by_cases hconforms : record.conformsTo op.schema
    · rw [if_pos hconforms] at hrun
      rw [if_neg (not_not_intro hconforms)]
      cases hrun
      exact ⟨rfl, rfl, op.reads_logOutcome _ _, op.writes_logOutcome _ _⟩
    · rw [if_neg hconforms] at hrun
      rw [if_pos hconforms]
      exact Operator.refused_eq hrun

/-- New values in the slots of a record that the client holds, taken from what is in the store.
Whatever the client or a record then holds is what it was. -/
theorem putSlots_effect (hsound : s.Sound digest) {into : Record} {intoGuard : Guard}
    {slots : List Value} (hinto : s.HasHandle destination)
    (hd : s.store.content? destination = some (into, intoGuard))
    (hlive : ∀ ref ∈ valueRefs slots, s.store.Live ref)
    (ht : t = s.store.putSlots destination slots) :
    t.content? destination = some ({ into with slots := slots }, intoGuard) ∧
      (∀ r content, r ≠ destination → t.content? r = some content →
        s.store.content? r = some content) ∧
      (∀ r, r ≠ destination → (s.HasHandle r ∨ Ref.record r ∈ t.refs) →
        t.content? r = s.store.content? r) ∧
      (∀ a values, t.values? a = some values → s.store.values? a = some values) ∧
      ∀ a, (Ref.arguments a ∈ s.holds ∨ Ref.arguments a ∈ t.refs) →
        t.values? a = s.store.values? a := by
  have hbalanced : t.Balanced s.holds := by
    rw [ht]
    exact hsound.balanced.putSlots destination hlive
  have hwithin := Store.within_putSlots s.store destination slots
  rw [← ht] at hwithin
  have hlive_of_held {ref : Ref} (h : ref ∈ s.holds ∨ ref ∈ t.refs) : t.Live ref := by
    rcases h with h | h
    · exact hbalanced.live_of_mem_held h
    · exact hbalanced.live_of_mem_refs h
  have hothers {r : RecordId} {content : Record × Guard} (hr : r ≠ destination)
      (h : t.content? r = some content) : s.store.content? r = some content := by
    have hover := hwithin.content h
    rwa [Store.content?_overwrite_of_ne _ _ hr] at hover
  have hlists {a : ArgumentsId} {values : List Value} (h : t.values? a = some values) :
      s.store.values? a = some values := by
    have hover := hwithin.values h
    rwa [Store.overwrite, Store.values?_modifyRecord] at hover
  refine ⟨?_, fun r content => hothers, ?_, fun a values => hlists, ?_⟩
  · obtain ⟨changed, guard, hchanged⟩ := hbalanced.exists_content hinto
    have hover := hwithin.content hchanged
    rw [Store.content?_overwrite_self _ hd] at hover
    rw [hchanged, hover]
  · intro r hr hheld
    obtain ⟨cell, hcell⟩ := Option.isSome_iff_exists.mp (hlive_of_held hheld)
    have hcontent := Store.content?_of_cell hcell
    rw [hcontent, hothers hr hcontent]
  · intro a hheld
    obtain ⟨cell, hcell⟩ := Option.isSome_iff_exists.mp (hlive_of_held hheld)
    have hvalues : t.values? a = some cell.values :=
      congrArg (Option.map ArgumentsCell.values) hcell
    rw [hvalues, hlists hvalues]

/-- Refreshing a record from itself changes no record. From another record it fails on the first
thing that is wrong; else the destination takes over all slots but the first, and keeps the first,
its schema, its argument list and its guard. Nothing that the client or a record holds is lost, and
no other record changes. -/
theorem copyInto_outcome_and_effect (hs : s.Reachable digest)
    (hop : s.operators.get? name = some op) (hinto : s.HasHandle destination)
    (hsource : s.HasHandle source) {outcome : Except ScopeError Unit}
    (hrun : op.copyInto debugChecks s.store destination source = (outcome, used, t)) :
    ∃ into intoGuard intoParent record guard parent,
      s.store.content? destination = some (into, intoGuard) ∧
      s.store.content? source = some (record, guard) ∧
      into.slots[parentSlot]? = some intoParent ∧ record.slots[parentSlot]? = some parent ∧
      (destination = source →
        outcome =
          (if guard = .exclusive then .error .recordBusy
          else if ¬ record.conformsTo op.schema then
            .error (.nonConformantRecord .source op.schema.schema.contentHash record.slots.length)
          else .ok ()) ∧
        t = s.store ∧ used.reads = op.reads ∧ used.writes = op.writes) ∧
      (destination ≠ source →
        outcome =
          (if guard = .exclusive ∨ intoGuard ≠ .free then .error .recordBusy
          else if ¬ record.conformsTo op.schema then
            .error (.nonConformantRecord .source op.schema.schema.contentHash record.slots.length)
          else if ¬ into.conformsTo op.schema then
            .error
              (.nonConformantRecord .destination op.schema.schema.contentHash into.slots.length)
          else if op.config.parentLinkCheck.enabled debugChecks ∧ intoParent ≠ parent then
            .error (.parentLinkDiverged intoParent.render parent.render)
          else .ok ()) ∧
        (∀ e, outcome = .error e →
          t = s.store ∧ used.reads = op.reads ∧ used.writes = op.writes) ∧
        (outcome = .ok () → ∃ slots : List Value,
          t.content? destination = some ({ into with slots := slots }, intoGuard) ∧
          slots.length = op.slotCount ∧ slots[parentSlot]? = some intoParent ∧
          (∀ i, 1 ≤ i → slots[i]? = record.slots[i]?) ∧
          (∀ r content, r ≠ destination → t.content? r = some content →
            s.store.content? r = some content) ∧
          (∀ r, r ≠ destination → (s.HasHandle r ∨ Ref.record r ∈ t.refs) →
            t.content? r = s.store.content? r) ∧
          (∀ a values, t.values? a = some values → s.store.values? a = some values) ∧
          (∀ a, (Ref.arguments a ∈ s.holds ∨ Ref.arguments a ∈ t.refs) →
            t.values? a = s.store.values? a) ∧
          op.Observes used 1 record.slots)) := by
  have hsound := sound_of_reachable hs
  have hwell := hsound.operators hop
  obtain ⟨into, intoGuard, hd⟩ := hsound.exists_content hinto
  obtain ⟨record, guard, hc⟩ := hsound.exists_content hsource
  obtain ⟨intoParent, hintoParent⟩ := (hsound.records hd).exists_parent
  obtain ⟨parent, hparent⟩ := (hsound.records hc).exists_parent
  refine ⟨into, intoGuard, intoParent, record, guard, parent, hd, hc, hintoParent, hparent, ?_, ?_⟩
  · intro he
    subst he
    exact copyInto_self_outcome hc hrun
  · intro hne
    rw [Operator.copyInto_eq hwell debugChecks hne hd hc] at hrun
    by_cases hbusy : guard = .exclusive ∨ intoGuard ≠ .free
    · rw [if_pos hbusy] at hrun ⊢
      obtain ⟨rfl, hkept⟩ := Operator.refused_eq hrun
      refine ⟨rfl, fun _ _ => hkept, ?_⟩
      intro h
      cases h
    · rw [if_neg hbusy] at hrun ⊢
      rw [← op.checkRefresh_of_parents debugChecks hparent hintoParent]
      cases hcheck : op.checkRefresh debugChecks record into with
      | error e =>
        rw [hcheck] at hrun
        obtain ⟨rfl, hkept⟩ := Operator.refused_eq hrun
        refine ⟨rfl, fun _ _ => hkept, ?_⟩
        intro h
        cases h
      | ok checked =>
        rw [hcheck] at hrun
        cases hrun
        refine ⟨rfl, ?_, ?_⟩
        · intro e h
          cases h
        · intro _
          obtain ⟨hcopied, hconforms⟩ := Operator.conforming_of_checkRefresh hcheck
          have hlength : record.slots.length = op.schema.schema.length :=
            Record.length_of_conformsTo hcopied
          have hlengthInto : into.slots.length = op.schema.schema.length :=
            Record.length_of_conformsTo hconforms
          have hpos := hsound.slots_pos hd
          obtain ⟨hchanged, hothers, hheld, hlists, hheldLists⟩ :=
            putSlots_effect hsound hinto hd (hsound.live_of_refreshed hd hc) rfl
          refine ⟨_, hchanged, ?_, ?_, ?_, hothers, hheld, hlists, hheldLists,
            (hwell.observes 1 hlength).logOutcome _ _⟩
          · exact (Operator.length_refreshed hpos (hlength.trans hlengthInto.symm)).trans hlengthInto
          · rw [Operator.getElem?_refreshed hpos, if_pos rfl]
            exact hintoParent
          · intro i hi
            have hbinding : i ≠ parentSlot := Nat.ne_of_gt hi
            rw [Operator.getElem?_refreshed hpos, if_neg hbinding]

theorem copyInto_sample :
    ∃ used t, sampleOperator.copyInto true sample.store ⟨1⟩ ⟨0⟩ = (.ok (), used, t) ∧
      t.content? ⟨0⟩ = sample.store.content? ⟨0⟩ ∧
      ∃ slots, t.content? ⟨1⟩ = some (⟨sampleSchema, slots, ⟨0⟩⟩, .free) ∧
        slots[0]? = some .null ∧ slots[1]? = some (.bool true) := by
  have hrun : sampleOperator.copyInto true sample.store ⟨1⟩ ⟨0⟩ =
      ((sampleOperator.copyInto true sample.store ⟨1⟩ ⟨0⟩).1, _, _) := rfl
  obtain ⟨into, intoGuard, intoParent, record, guard, parent, hd, hc, hintoParent, hparent, -,
    hother⟩ :=
    copyInto_outcome_and_effect reachable_sample operator_sample
      (hasHandle_of_name name_sample_second) (hasHandle_of_name name_sample_first) hrun
  rw [content?_sample_second] at hd
  rw [content?_sample_first] at hc
  cases hd
  cases hc
  cases hintoParent
  cases hparent
  obtain ⟨houtcome, -, hcopied⟩ := hother (by decide)
  have hok : (sampleOperator.copyInto true sample.store ⟨1⟩ ⟨0⟩).1 = .ok () := by
    rw [houtcome]
    rfl
  obtain ⟨slots, hinto, -, hslot, hslots, -, hheld, -⟩ := hcopied hok
  rw [hok] at hrun
  exact ⟨_, _, hrun, hheld ⟨0⟩ (by decide) (.inl (hasHandle_of_name name_sample_first)), slots,
    hinto, hslot, hslots 1 (Nat.le_refl 1)⟩

end Session

end LoopScope
