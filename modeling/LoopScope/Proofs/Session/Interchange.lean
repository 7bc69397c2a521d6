import LoopScope.Proofs.Session.Representation
import LoopScope.Proofs.Session.Unnumbered
/-!
# Schema instances of one layout

Two runs that make the same calls, except that a record or an operator gets another schema instance
of the same slots, go the same way: where one compares numbers the other compares fingerprints, and
a record that is materialized may change from one instance to the other. All that is left of the
difference is which instance is which.
-/
namespace LoopScope

variable {digest : Layout.DigestFunction}

/-! ## Calls -/

/-- The calls that name a schema instance, or the slots of one. -/
def Call.namesSchema : Call → Bool
  | .schema _ _ | .record _ _ _ _ | .root _ _ | .conforms _ _ | .accessors _
  | .operator _ _ _ _ => true
  | _ => false

/-- The answer to a call without what it tells about the identity of schema instances. -/
def Call.forgetInstance : Call → Answer → Answer
  | .sameSchema _ _, .sameness _ alike => .flag alike
  | .operatorInfo _ _, .operatorInfo told =>
    .operatorInfo { told with sharesSchema := told.sharesSchema.map fun _ => true }
  | _, answer => answer

/-! ## Schemas -/

namespace Schema

/-- The slots of a schema in use are all there is to it. -/
theorem WellFormed.eq_of_slots {a b : Schema} (ha : a.WellFormed digest) (hb : b.WellFormed digest)
    (h : a.slots = b.slots) : a = b := by
  rw [mk.injEq, ha.contentHash, hb.contentHash, h]
  exact ⟨rfl, rfl⟩

end Schema

/-! ## Operators -/

namespace Operator

variable {op : Operator} {s t : Store} {destination source : RecordId} {record into : Record}
  {guard intoGuard : Guard} {number sourceNumber intoNumber : Nat} {debugChecks : Bool}

theorem WellFormed.renumber (h : op.WellFormed digest) (number : Nat) :
    (op.renumber number).WellFormed digest :=
  ⟨h.schema, h.reads, h.writes, h.slots_le⟩

/-- Two copies with one outcome and the same effect, but for instance numbers. -/
structure SameCopy {α : Type} (a b : Except ScopeError α × Operator × Store) : Prop where
  outcome : a.1 = b.1
  used : a.2.1.unnumbered = b.2.1.unnumbered
  store : a.2.2.unnumbered = b.2.2.unnumbered

theorem sameCopy_logOutcome {α : Type} (op : Operator) (number : Nat)
    (hst : s.unnumbered = t.unnumbered) (outcome : Except ScopeError α) (event : String)
    (logged : Except ScopeError Unit) :
    SameCopy (outcome, op.logOutcome event logged, s)
      (outcome, (op.renumber number).logOutcome event logged, t) where
  outcome := rfl
  used := by
    rw [unnumbered_logOutcome, unnumbered_logOutcome]
    rfl
  store := hst

theorem sameCopy_refused {α : Type} (op : Operator) (number : Nat)
    (hst : s.unnumbered = t.unnumbered) (event : String) (e : ScopeError) :
    SameCopy (op.refused s event e : Except ScopeError α × Operator × Store)
      ((op.renumber number).refused t event e) :=
  sameCopy_logOutcome op number hst _ event _

/-- A record that conforms to the one instance conforms to the other, and is materialized alike. -/
theorem WellFormed.sameCopy_materialize (h : op.WellFormed digest)
    (hst : s.unnumbered = t.unnumbered) (hc : s.content? source = some (record, guard))
    (hc' : t.content? source = some (record.renumber sourceNumber, guard))
    (hconforms : (record.renumber sourceNumber).conformsTo (op.renumber number).schema =
      record.conformsTo op.schema) :
    SameCopy (op.materialize s source) ((op.renumber number).materialize t source) := by
  rw [materialize_eq h hc, materialize_eq (h.renumber number) hc', hconforms]
  split
  · exact sameCopy_refused op number hst _ _
  · split
    · have hnext : s.records.next = t.records.next := by
        rw [← s.nextRecord_unnumbered, hst, t.nextRecord_unnumbered]
      have hcreate := s.create_unnumbered ⟨op.schema, record.slots, record.arguments⟩
      have hcreate' := t.create_unnumbered
        ⟨(op.renumber number).schema, record.slots, record.arguments⟩
      rw [hst] at hcreate
      have hmade := (congrArg Prod.snd hcreate).symm.trans (congrArg Prod.snd hcreate')
      rw [hnext]
      exact sameCopy_logOutcome (op.observing 0 record.slots) number hmade _ _ _
    · exact sameCopy_refused op number hst _ _

theorem sameCopy_copyInto_self (hst : s.unnumbered = t.unnumbered)
    (hc : s.content? source = some (record, guard))
    (hc' : t.content? source = some (record.renumber sourceNumber, guard))
    (hconforms : (record.renumber sourceNumber).conformsTo (op.renumber number).schema =
      record.conformsTo op.schema) :
    SameCopy (op.copyInto debugChecks s source source)
      ((op.renumber number).copyInto debugChecks t source source) := by
  rw [copyInto_self_eq op debugChecks hc, copyInto_self_eq (op.renumber number) debugChecks hc',
    hconforms]
  split
  · exact sameCopy_refused op number hst _ _
  · split
    · exact sameCopy_logOutcome op number hst _ _ _
    · exact sameCopy_refused op number hst _ _

theorem WellFormed.sameCopy_copyInto (h : op.WellFormed digest) (hne : destination ≠ source)
    (hst : s.unnumbered = t.unnumbered) (hd : s.content? destination = some (into, intoGuard))
    (hd' : t.content? destination = some (into.renumber intoNumber, intoGuard))
    (hc : s.content? source = some (record, guard))
    (hc' : t.content? source = some (record.renumber sourceNumber, guard))
    (hinto : (into.renumber intoNumber).conformsTo (op.renumber number).schema =
      into.conformsTo op.schema)
    (hsource : (record.renumber sourceNumber).conformsTo (op.renumber number).schema =
      record.conformsTo op.schema) :
    SameCopy (op.copyInto debugChecks s destination source)
      ((op.renumber number).copyInto debugChecks t destination source) := by
  have hcheck : (op.renumber number).checkRefresh debugChecks (record.renumber sourceNumber)
      (into.renumber intoNumber) = op.checkRefresh debugChecks record into := by
    rw [checkRefresh_eq, checkRefresh_eq, hinto, hsource]
    rfl
  rw [copyInto_eq h debugChecks hne hd hc,
    copyInto_eq (h.renumber number) debugChecks hne hd' hc', hcheck]
  split
  · exact sameCopy_refused op number hst _ _
  · cases op.checkRefresh debugChecks record into with
    | error e => exact sameCopy_refused op number hst _ _
    | ok checked =>
      have hput : (s.putSlots destination (into.slots.take 1 ++ record.slots.drop 1)).unnumbered =
          (t.putSlots destination (into.slots.take 1 ++ record.slots.drop 1)).unnumbered := by
        rw [Store.unnumbered_putSlots, Store.unnumbered_putSlots, hst]
      exact sameCopy_logOutcome (op.observing 1 record.slots) number hput _ _ _

theorem unnumbered_ofSlotsBy (number : Nat) (slots : List Slot) (config : Config)
    (context : Context) :
    (ofSlotsBy digest number slots config context).map unnumbered =
      ofSlotsBy digest 0 slots config context := by
  unfold ofSlotsBy
  cases Schema.ofSlotsBy digest slots with
  | error defect => rfl
  | ok schema => exact (build_unnumbered ⟨number, schema⟩ _ _ config context).symm

/-- An operator for the slots of an instance is one for the instance. -/
theorem ofSlotsBy_slots {shared : SharedSchema} (h : shared.schema.WellFormed digest)
    (config : Config) (context : Context) :
    ofSlotsBy digest 0 shared.schema.slots config context =
      (forSchema shared config context).map unnumbered := by
  rw [ofSlotsBy, h.ofSlotsBy_slots]
  exact build_unnumbered shared _ _ config context

end Operator

namespace Session

variable {s t : Session} {call call' : Call} {calls calls' : List Call}

/-! ## Two sessions -/

/-- Two sessions that are the same but for their schema instances. -/
structure Counterparts (digest : Layout.DigestFunction) (s t : Session) : Prop where
  same : s.unnumbered = t.unnumbered
  sound : s.Sound digest
  sound' : t.Sound digest
  numbered : s.Numbered
  numbered' : t.Numbered

/-- One answer, and the same session afterwards but for schema instances. -/
structure SameButInstances (a b : Answer × Session) : Prop where
  answer : a.1 = b.1
  session : a.2.unnumbered = b.2.unnumbered

theorem SameButInstances.told {a b : Answer × Session} (h : SameButInstances a b)
    (hcalls : call.forgetInstance = call'.forgetInstance) :
    call.forgetInstance a.1 = call'.forgetInstance b.1 ∧ a.2.unnumbered = b.2.unnumbered := by
  rw [h.answer, hcalls]
  exact ⟨rfl, h.session⟩

/-- A store and an operator put into both sessions. -/
theorem unnumbered_withOperator (hst : s.unnumbered = t.unnumbered) (name : String)
    {store store' : Store} {op op' : Operator} (hstore : store.unnumbered = store'.unnumbered)
    (hop : op.unnumbered = op'.unnumbered) :
    ({ s with store := store, operators := s.operators.insert name op } : Session).unnumbered =
      ({ t with store := store', operators := t.operators.insert name op' } :
        Session).unnumbered := by
  have hsame := congrArg (fun u : Session =>
    { u with store := store.unnumbered, operators := u.operators.insert name op.unnumbered }) hst
  simp only [unnumbered, Table.map_insert, ← hstore, ← hop]
  exact hsame

/-- Operators that were built in both sessions, bound in both. -/
theorem sameButInstances_bindOperator (hst : s.unnumbered = t.unnumbered) (name : String)
    {built built' : Except ScopeError Operator}
    (hbuilt : built.map Operator.unnumbered = built'.map Operator.unnumbered) :
    SameButInstances (s.bindOperator name built) (t.bindOperator name built') := by
  cases built with
  | error e =>
    cases built' with
    | error e' =>
      cases hbuilt
      exact ⟨rfl, hst⟩
    | ok op' => cases hbuilt
  | ok op =>
    cases built' with
    | error e' => cases hbuilt
    | ok op' =>
      have hstore : s.store.unnumbered = t.store.unnumbered := (congrArg Session.store hst :)
      exact ⟨rfl, unnumbered_withOperator hst name hstore (Except.ok.inj hbuilt)⟩

/-- Two names for schema instances of the same slots, or for none. -/
def SameLayout (s t : Session) (a b : String) : Prop :=
  (s.schemas.get? a).map (fun shared => shared.schema.slots) =
    (t.schemas.get? b).map fun shared => shared.schema.slots

namespace Counterparts

theorem store (h : Counterparts digest s t) : s.store.unnumbered = t.store.unnumbered :=
  (congrArg Session.store h.same :)

theorem debugChecks (h : Counterparts digest s t) : t.debugChecks = s.debugChecks :=
  (congrArg Session.debugChecks h.same.symm :)

theorem records (h : Counterparts digest s t) (name : String) :
    t.records.get? name = s.records.get? name :=
  (congrArg (fun u : Session => u.records.get? name) h.same.symm :)

theorem arguments (h : Counterparts digest s t) (name : String) :
    t.arguments.get? name = s.arguments.get? name :=
  (congrArg (fun u : Session => u.arguments.get? name) h.same.symm :)

theorem operand? (h : Counterparts digest s t) : t.operand? = s.operand? :=
  (congrArg Session.operand? h.same.symm :)

theorem operators (h : Counterparts digest s t) (name : String) :
    (s.operators.get? name = none ∧ t.operators.get? name = none) ∨
      ∃ op number, s.operators.get? name = some op ∧
        t.operators.get? name = some (op.renumber number) := by
  have hsame : (s.operators.get? name).map Operator.unnumbered =
      (t.operators.get? name).map Operator.unnumbered := by
    rw [← get?_unnumbered, h.same, get?_unnumbered]
  cases hs : s.operators.get? name with
  | none =>
    rw [hs] at hsame
    exact .inl ⟨rfl, Option.map_eq_none_iff.mp hsame.symm⟩
  | some op =>
    rw [hs] at hsame
    obtain ⟨op', ht, hop⟩ := Option.map_eq_some_iff.mp hsame.symm
    refine .inr ⟨op, op'.schema.number, rfl, ?_⟩
    rw [← Operator.eq_renumber hop.symm]
    exact ht

theorem schemas (h : Counterparts digest s t) {a b : String} (hl : SameLayout s t a b) :
    (s.schemas.get? a = none ∧ t.schemas.get? b = none) ∨
      ∃ shared number, s.schemas.get? a = some shared ∧
        t.schemas.get? b = some (shared.renumber number) := by
  unfold SameLayout at hl
  cases ha : s.schemas.get? a with
  | none =>
    rw [ha] at hl
    exact .inl ⟨rfl, Option.map_eq_none_iff.mp hl.symm⟩
  | some shared =>
    rw [ha] at hl
    obtain ⟨⟨number, schema⟩, hb, hslots⟩ := Option.map_eq_some_iff.mp hl.symm
    have hschema : schema = shared.schema :=
      (h.sound'.schemas hb).eq_of_slots (h.sound.schemas ha) hslots
    rw [hschema] at hb
    exact .inr ⟨shared, number, rfl, hb⟩

/-- Where one session compares numbers and the other fingerprints, they agree. -/
theorem conformsTo (h : Counterparts digest s t) {r : RecordId} {record : Record}
    {guard guard' : Guard} {shared : SharedSchema} {recordNumber number : Nat}
    (hc : s.store.content? r = some (record, guard))
    (hc' : t.store.content? r = some (record.renumber recordNumber, guard'))
    (hs : s.Uses shared) (ht : t.Uses (shared.renumber number)) :
    (record.renumber recordNumber).conformsTo (shared.renumber number) =
      record.conformsTo shared := by
  have hoffers : s.Offers digest shared := .inl hs
  have hoffers' : t.Offers digest (shared.renumber number) := .inl ht
  rw [conformsTo_eq h.numbered hc hoffers, conformsTo_eq h.numbered' hc' hoffers']
  rfl

theorem toRead (h : Counterparts digest s t) (r : RecordId) :
    (∃ e, s.store.toRead r = .error e ∧ t.store.toRead r = .error e) ∨
      ∃ record number, s.store.toRead r = .ok record ∧
        t.store.toRead r = .ok (record.renumber number) := by
  have hsame : (s.store.toRead r).map Record.unnumbered =
      (t.store.toRead r).map Record.unnumbered := by
    rw [← Store.toRead_unnumbered, h.store, Store.toRead_unnumbered]
  cases hs : s.store.toRead r with
  | error e =>
    cases ht : t.store.toRead r with
    | error e' =>
      rw [hs, ht] at hsame
      cases hsame
      exact .inl ⟨e, rfl, rfl⟩
    | ok record =>
      rw [hs, ht] at hsame
      cases hsame
  | ok record =>
    cases ht : t.store.toRead r with
    | error e =>
      rw [hs, ht] at hsame
      cases hsame
    | ok record' =>
      rw [hs, ht] at hsame
      have hrecord := Record.eq_renumber (Except.ok.inj hsame)
      exact .inr ⟨record, record'.schema.number, rfl, congrArg Except.ok hrecord⟩

/-! ## Calls that use an instance -/

theorem unbound (h : Counterparts digest s t) : SameButInstances (.unbound, s) (.unbound, t) :=
  ⟨rfl, h.same⟩

/-- The same instance under two names. -/
theorem schemaCall (h : Counterparts digest s t) (a b : String) (slots : List Slot) :
    SameButInstances (s.schemaCall digest a slots) (t.schemaCall digest b slots) := by
  unfold Session.schemaCall
  cases Schema.ofSlotsBy digest slots with
  | error defect => exact ⟨rfl, h.same⟩
  | ok schema => exact ⟨rfl, h.same⟩

/-- A record that both sessions have made, bound in both. -/
theorem made (h : Counterparts digest s t) (name : String) {made made' : RecordId × Store}
    (hmade : (made.1, made.2.unnumbered) = (made'.1, made'.2.unnumbered)) :
    SameButInstances (.record made.1, { s with store := made.2 }.bindRecord name made.1)
      (.record made'.1, { t with store := made'.2 }.bindRecord name made'.1) := by
  obtain ⟨hr, hstore⟩ := Prod.mk.inj hmade
  refine ⟨congrArg Answer.record hr, ?_⟩
  have hsame := congrArg (fun u : Session => { u with store := made.2.unnumbered }) h.same
  rw [unnumbered_bindRecord, unnumbered_bindRecord, ← hr]
  simp only [unnumbered, ← hstore] at hsame ⊢
  exact congrArg (bindRecord · name made.1) hsame

theorem recordCall (h : Counterparts digest s t) {a b : String} (hl : SameLayout s t a b)
    (name : String) (parent : Operand) :
    SameButInstances (s.recordCall name a parent) (t.recordCall name b parent) := by
  rcases h.schemas hl with ⟨ha, hb⟩ | ⟨shared, number, ha, hb⟩
  · simp only [Session.recordCall, ha, hb]
    exact h.unbound
  · simp only [Session.recordCall, ha, hb, h.operand?]
    cases s.operand? parent with
    | none => exact h.unbound
    | some value =>
      have hmade := s.store.createAlone_unnumbered shared value
      rw [h.store] at hmade
      exact h.made name (hmade.symm.trans
        (t.store.createAlone_unnumbered (shared.renumber number) value))

theorem recordOverCall (h : Counterparts digest s t) {a b : String} (hl : SameLayout s t a b)
    (name : String) (parent : Operand) (arguments : String) :
    SameButInstances (s.recordOverCall name a parent arguments)
      (t.recordOverCall name b parent arguments) := by
  rcases h.schemas hl with ⟨ha, hb⟩ | ⟨shared, number, ha, hb⟩
  · simp only [Session.recordOverCall, ha, hb]
    exact h.unbound
  · simp only [Session.recordOverCall, ha, hb, h.operand?, h.arguments]
    cases s.operand? parent with
    | none => exact h.unbound
    | some value =>
      cases s.arguments.get? arguments with
      | none => exact h.unbound
      | some list =>
        have hmade := s.store.create_unnumbered (.new shared value list)
        rw [h.store] at hmade
        exact h.made name (hmade.symm.trans
          (t.store.create_unnumbered (.new (shared.renumber number) value list)))

theorem conformsCall (h : Counterparts digest s t) {a b : String} (hl : SameLayout s t a b)
    (record : String) :
    SameButInstances (s.conformsCall record a) (t.conformsCall record b) := by
  simp only [Session.conformsCall, h.records]
  cases s.records.get? record with
  | none => exact h.unbound
  | some r =>
    rcases h.schemas hl with ⟨ha, hb⟩ | ⟨shared, number, ha, hb⟩
    · simp only [ha, hb]
      exact h.unbound
    · simp only [ha, hb]
      refine ⟨?_, h.same⟩
      rcases h.toRead r with ⟨e, hs, ht⟩ | ⟨found, foundNumber, hs, ht⟩
      · simp only [hs, ht, answerOr]
      · obtain ⟨guard, hc, -⟩ := Store.content?_of_toRead hs
        obtain ⟨guard', hc', -⟩ := Store.content?_of_toRead ht
        simp only [hs, ht, answerOr, h.conformsTo hc hc' (.named ha) (.named hb)]

theorem accessorsCall (h : Counterparts digest s t) {a b : String} (hl : SameLayout s t a b) :
    SameButInstances (s.accessorsCall a) (t.accessorsCall b) := by
  rcases h.schemas hl with ⟨ha, hb⟩ | ⟨shared, number, ha, hb⟩
  · simp only [Session.accessorsCall, ha, hb]
    exact h.unbound
  · simp only [Session.accessorsCall, ha, hb]
    exact ⟨rfl, h.same⟩

end Counterparts

/-- Two sources for one operator: the same slots, two instances of the same slots, or an instance
and its slots. -/
inductive SameSource (s t : Session) : OperatorSource → OperatorSource → Prop
  | slots (slots : List Slot) : SameSource s t (.slots slots) (.slots slots)
  | accessors {a b : String} (layout : SameLayout s t a b) (reads writes : List Nat) :
      SameSource s t (.accessors a reads writes) (.accessors b reads writes)
  | schema {a b : String} (layout : SameLayout s t a b) : SameSource s t (.schema a) (.schema b)
  | ofSlots {b : String} {shared : SharedSchema} (found : t.schemas.get? b = some shared) :
      SameSource s t (.slots shared.schema.slots) (.schema b)
  | toSlots {a : String} {shared : SharedSchema} (found : s.schemas.get? a = some shared) :
      SameSource s t (.schema a) (.slots shared.schema.slots)

namespace Counterparts

theorem operatorCall (h : Counterparts digest s t) (name : String) (config : ConfigSource)
    (context : Context) {source source' : OperatorSource}
    (hsource : SameSource s t source source') :
    SameButInstances (s.operatorCall digest name config context source)
      (t.operatorCall digest name config context source') := by
  unfold Session.operatorCall
  cases config.resolve with
  | error e => exact ⟨rfl, h.same⟩
  | ok config =>
    cases hsource with
    | slots slots =>
      have hst : ({ s with nextSchema := s.nextSchema + 1 } : Session).unnumbered =
        ({ t with nextSchema := t.nextSchema + 1 } : Session).unnumbered := h.same
      refine sameButInstances_bindOperator hst name ?_
      rw [Operator.unnumbered_ofSlotsBy, Operator.unnumbered_ofSlotsBy]
    | accessors layout reads writes =>
      rcases h.schemas layout with ⟨ha, hb⟩ | ⟨shared, number, ha, hb⟩
      · simp only [ha, hb]
        exact h.unbound
      · simp only [ha, hb]
        refine sameButInstances_bindOperator h.same name ?_
        rw [← Operator.build_unnumbered, ← Operator.build_unnumbered]
        rfl
    | schema layout =>
      rcases h.schemas layout with ⟨ha, hb⟩ | ⟨shared, number, ha, hb⟩
      · simp only [ha, hb]
        exact h.unbound
      · simp only [ha, hb]
        refine sameButInstances_bindOperator h.same name ?_
        rw [Operator.forSchema, Operator.forSchema, ← Operator.build_unnumbered,
          ← Operator.build_unnumbered]
        rfl
    | ofSlots found =>
      have hst : ({ s with nextSchema := s.nextSchema + 1 } : Session).unnumbered =
        t.unnumbered := h.same
      simp only [found]
      refine sameButInstances_bindOperator hst name ?_
      rw [Operator.unnumbered_ofSlotsBy, Operator.ofSlotsBy_slots (h.sound'.schemas found)]
    | toSlots found =>
      have hst : s.unnumbered =
        ({ t with nextSchema := t.nextSchema + 1 } : Session).unnumbered := h.same
      simp only [found]
      refine sameButInstances_bindOperator hst name ?_
      rw [Operator.unnumbered_ofSlotsBy, Operator.ofSlotsBy_slots (h.sound.schemas found)]

theorem materializeCall (h : Counterparts digest s t) (name operator source : String) :
    SameButInstances (s.materializeCall name operator source)
      (t.materializeCall name operator source) := by
  simp only [Session.materializeCall, h.records]
  rcases h.operators operator with ⟨hs, ht⟩ | ⟨op, number, hs, ht⟩
  · simp only [hs, ht]
    exact h.unbound
  · simp only [hs, ht]
    cases hr : s.records.get? source with
    | none => exact h.unbound
    | some r =>
      obtain ⟨record, guard, hc⟩ := h.sound.exists_content (hasHandle_of_name hr)
      obtain ⟨recordNumber, hc'⟩ := Store.exists_content_of_unnumbered h.store hc
      have hconforms := h.conformsTo hc hc' (.ofOperator hs rfl) (.ofOperator ht rfl)
      have hwork := (h.sound.operators hs).sameCopy_materialize h.store hc hc' hconforms
      dsimp only
      generalize op.materialize s.store r = a at hwork
      generalize (op.renumber number).materialize t.store r = b at hwork
      obtain ⟨outcome, used, store⟩ := a
      obtain ⟨outcome', used', store'⟩ := b
      obtain ⟨rfl, hused, hstore⟩ := hwork
      have hsession := unnumbered_withOperator h.same operator hstore hused
      cases outcome with
      | error e => exact ⟨rfl, hsession⟩
      | ok made =>
        refine ⟨?_, ?_⟩
        · dsimp only
          rw [← store.snapshot_unnumbered, hstore, store'.snapshot_unnumbered]
        · dsimp only
          rw [unnumbered_bindRecord, unnumbered_bindRecord, hsession]

theorem copyIntoCall (h : Counterparts digest s t) (operator destination source : String) :
    SameButInstances (s.copyIntoCall operator destination source)
      (t.copyIntoCall operator destination source) := by
  simp only [Session.copyIntoCall, h.records]
  rcases h.operators operator with ⟨hs, ht⟩ | ⟨op, number, hs, ht⟩
  · simp only [hs, ht]
    exact h.unbound
  · simp only [hs, ht]
    cases hd : s.records.get? destination with
    | none => exact h.unbound
    | some d =>
      cases hr : s.records.get? source with
      | none => exact h.unbound
      | some r =>
        have hwork : Operator.SameCopy (op.copyInto s.debugChecks s.store d r)
            ((op.renumber number).copyInto t.debugChecks t.store d r) := by
          rw [h.debugChecks]
          obtain ⟨record, guard, hc⟩ := h.sound.exists_content (hasHandle_of_name hr)
          obtain ⟨recordNumber, hc'⟩ := Store.exists_content_of_unnumbered h.store hc
          have hsource := h.conformsTo hc hc' (.ofOperator hs rfl) (.ofOperator ht rfl)
          by_cases hne : d = r
          · rw [hne]
            exact Operator.sameCopy_copyInto_self h.store hc hc' hsource
          · obtain ⟨into, intoGuard, hi⟩ := h.sound.exists_content (hasHandle_of_name hd)
            obtain ⟨intoNumber, hi'⟩ := Store.exists_content_of_unnumbered h.store hi
            have hinto := h.conformsTo hi hi' (.ofOperator hs rfl) (.ofOperator ht rfl)
            exact (h.sound.operators hs).sameCopy_copyInto hne h.store hi hi' hc hc' hinto hsource
        dsimp only
        generalize op.copyInto s.debugChecks s.store d r = a at hwork
        generalize (op.renumber number).copyInto t.debugChecks t.store d r = b at hwork
        obtain ⟨outcome, used, store⟩ := a
        obtain ⟨outcome', used', store'⟩ := b
        obtain ⟨rfl, hused, hstore⟩ := hwork
        have hsession := unnumbered_withOperator h.same operator hstore hused
        cases outcome with
        | error e => exact ⟨rfl, hsession⟩
        | ok done =>
          refine ⟨?_, hsession⟩
          dsimp only
          rw [← store.snapshot_unnumbered, hstore, store'.snapshot_unnumbered]

/-! ## Calls that compare instances -/

theorem sameSchema (h : Counterparts digest s t) (a b : String) :
    (Call.sameSchema a b).forgetInstance (s.stepBy digest (.sameSchema a b)).1 =
      (Call.sameSchema a b).forgetInstance (t.stepBy digest (.sameSchema a b)).1 := by
  simp only [Session.stepBy, queryPair, h.records]
  cases s.records.get? a with
  | none => rfl
  | some first =>
    cases s.records.get? b with
    | none => rfl
    | some second =>
      rcases h.toRead first with ⟨e, hs, ht⟩ | ⟨record, number, hs, ht⟩
      · simp only [hs, ht]
      · rcases h.toRead second with ⟨e, hs', ht'⟩ | ⟨other, otherNumber, hs', ht'⟩
        · simp only [hs, ht, hs', ht']
        · simp only [hs, ht, hs', ht']
          rfl

theorem operatorInfo (h : Counterparts digest s t) (operator other : String) :
    (Call.operatorInfo operator (some other)).forgetInstance
        (s.stepBy digest (.operatorInfo operator (some other))).1 =
      (Call.operatorInfo operator (some other)).forgetInstance
        (t.stepBy digest (.operatorInfo operator (some other))).1 := by
  simp only [Session.stepBy, operatorInfoCall, queryOperator, h.debugChecks]
  rcases h.operators other with ⟨hs, ht⟩ | ⟨second, otherNumber, hs, ht⟩
  · simp only [hs, ht]
  · rcases h.operators operator with ⟨hs', ht'⟩ | ⟨first, number, hs', ht'⟩
    · simp only [hs, ht, hs', ht']
    · simp only [hs, ht, hs', ht']
      rfl

end Counterparts

/-! ## Runs -/

/-- Two calls that differ in the schema instance that they name at most. -/
inductive Interchange (s t : Session) : Call → Call → Prop
  | same {call : Call} (names : call.namesSchema = false) : Interchange s t call call
  | schema (a b : String) (slots : List Slot) : Interchange s t (.schema a slots) (.schema b slots)
  | record {a b : String} (layout : SameLayout s t a b) (name : String) (parent : Operand)
      (arguments : Option String) :
      Interchange s t (.record name a parent arguments) (.record name b parent arguments)
  | root {a b : String} (layout : SameLayout s t a b) (name : String) :
      Interchange s t (.root name a) (.root name b)
  | conforms {a b : String} (layout : SameLayout s t a b) (record : String) :
      Interchange s t (.conforms record a) (.conforms record b)
  | accessors {a b : String} (layout : SameLayout s t a b) :
      Interchange s t (.accessors a) (.accessors b)
  | operator {source source' : OperatorSource} (same : SameSource s t source source')
      (name : String) (config : ConfigSource) (context : Context) :
      Interchange s t (.operator name config context source) (.operator name config context source')

/-- Two runs with the same calls, but for the schema instances that they name. -/
def Interchanged (digest : Layout.DigestFunction) (s t : Session) : List Call → List Call → Prop
  | [], [] => True
  | call :: calls, call' :: calls' =>
    Interchange s t call call' ∧
      (s.stepBy digest call).2.Interchanged digest (t.stepBy digest call').2 calls calls'
  | _, _ => False

namespace Counterparts

/-- A call that uses no instance does the same in both. -/
theorem stepBy_same (h : Counterparts digest s t) (huses : call.usesSchemas = false) :
    SameButInstances (s.stepBy digest call) (t.stepBy digest call) := by
  have hs := stepBy_unnumbered digest s huses
  rw [h.same, stepBy_unnumbered digest t huses] at hs
  obtain ⟨hanswer, hsession⟩ := Prod.mk.inj hs
  exact ⟨hanswer.symm, hsession.symm⟩

theorem answers (h : Counterparts digest s t) (hcall : Interchange s t call call') :
    call.forgetInstance (s.stepBy digest call).1 =
        call'.forgetInstance (t.stepBy digest call').1 ∧
      (s.stepBy digest call).2.unnumbered = (t.stepBy digest call').2.unnumbered := by
  cases hcall with
  | same names =>
    cases huses : call.usesSchemas with
    | false =>
      exact (h.stepBy_same huses).told rfl
    | true =>
      cases call with
      | materialize name operator source =>
        exact (h.materializeCall name operator source).told rfl
      | copyInto operator destination source =>
        exact (h.copyIntoCall operator destination source).told rfl
      | sameSchema a b =>
        refine ⟨h.sameSchema a b, ?_⟩
        simp only [stepBy, snd_queryPair, h.same]
      | operatorInfo operator other =>
        cases other with
        | none => cases huses
        | some other =>
          refine ⟨h.operatorInfo operator other, ?_⟩
          simp only [stepBy, snd_operatorInfoCall, h.same]
      | schema name slots => cases names
      | record name schema parent arguments => cases names
      | root name schema => cases names
      | conforms record schema => cases names
      | accessors schema => cases names
      | operator name config context source => cases names
      | _ => cases huses
  | schema a b slots =>
    exact (h.schemaCall a b slots).told rfl
  | record layout name parent arguments =>
    cases arguments with
    | none =>
      exact (h.recordCall layout name parent).told rfl
    | some arguments =>
      exact (h.recordOverCall layout name parent arguments).told rfl
  | root layout name =>
    exact (h.recordCall layout name (.value .null)).told rfl
  | conforms layout record =>
    exact (h.conformsCall layout record).told rfl
  | accessors layout =>
    exact (h.accessorsCall layout).told rfl
  | operator same name config context =>
    exact (h.operatorCall name config context same).told rfl

theorem stepBy (h : Counterparts digest s t) (hcall : Interchange s t call call') :
    Counterparts digest (s.stepBy digest call).2 (t.stepBy digest call').2 where
  same := (h.answers hcall).2
  sound := h.sound.stepBy call
  sound' := h.sound'.stepBy call'
  numbered := h.numbered.stepBy h.sound call
  numbered' := h.numbered'.stepBy h.sound' call'

/-- What two such runs answer, and the sessions that they end in. -/
theorem run (h : Counterparts digest s t) (hcalls : s.Interchanged digest t calls calls') :
    s.collect digest (fun _ call answer => [call.forgetInstance answer]) calls =
        t.collect digest (fun _ call answer => [call.forgetInstance answer]) calls' ∧
      (s.runBy digest calls).unnumbered = (t.runBy digest calls').unnumbered := by
  induction calls generalizing s t calls' with
  | nil =>
    cases calls' with
    | nil => exact ⟨rfl, h.same⟩
    | cons call' calls' => exact hcalls.elim
  | cons call calls ih =>
    cases calls' with
    | nil => exact hcalls.elim
    | cons call' calls' =>
      obtain ⟨hcall, hrest⟩ := hcalls
      obtain ⟨hanswers, hsession⟩ := ih (h.stepBy hcall) hrest
      refine ⟨?_, hsession⟩
      rw [collect, collect, (h.answers hcall).1, hanswers]

end Counterparts

theorem counterparts_of_reachable (hs : s.Reachable digest) (ht : t.Reachable digest)
    (h : s.unnumbered = t.unnumbered) : Counterparts digest s t where
  same := h
  sound := sound_of_reachable hs
  sound' := sound_of_reachable ht
  numbered := numbered_of_reachable hs
  numbered' := numbered_of_reachable ht

/-- Two runs whose calls differ in the schema instances that they name, each time two of the same
slots, give the same answers but for the identity of instances, and end in the same session but for
instances: records, values, holders, loans, accessors with their profiles and logs agree. It does
not matter where an instance comes from: a schema that a text lists is the one that its slots
make. -/
theorem equal_layouts_interchangeable (hs : s.Reachable digest) (ht : t.Reachable digest)
    (hst : s.unnumbered = t.unnumbered) (h : s.Interchanged digest t calls calls') :
    s.collect digest (fun _ call answer => [call.forgetInstance answer]) calls =
        t.collect digest (fun _ call answer => [call.forgetInstance answer]) calls' ∧
      (s.runBy digest calls).unnumbered = (t.runBy digest calls').unnumbered ∧
      ∀ (u : Session) (name text : String) (schema : Schema),
        Schema.ofTextBy digest text = .ok schema →
        u.stepBy digest (.schema name schema.slots) =
          (.schema schema.length schema.contentHash,
            { u with
              nextSchema := u.nextSchema + 1
              schemas := u.schemas.insert name ⟨u.nextSchema, schema⟩ }) := by
  obtain ⟨hanswers, hsession⟩ := (counterparts_of_reachable hs ht hst).run h
  refine ⟨hanswers, hsession, ?_⟩
  intro u name text schema htext
  have hmade := (Schema.wellFormed_of_ofTextBy htext).ofSlotsBy_slots
  simp only [Session.stepBy, Session.schemaCall, hmade, share]

/-- The calls of a client that materializes a record through an instance of this name. -/
def throughCalls (name : String) : List Call :=
  [.operator "next" (.given .default) .blank (.schema name), .materialize "second" "next" "scope",
    .conforms "second" name, .sameSchema "scope" "second"]

/-- Through the record's own instance and through another one of its layout. -/
theorem interchanged_throughCalls (digest : Layout.DigestFunction) :
    (layoutSession digest).Interchanged digest (layoutSession digest) (throughCalls "loop")
      (throughCalls "again") := by
  refine ⟨.operator (.schema ?_) _ _ _, .same rfl, .conforms ?_ _, .same rfl, trivial⟩
  · unfold SameLayout
    cbv
  · unfold SameLayout
    cbv

theorem number_of_throughCalls_loop (digest : Layout.DigestFunction) :
    (((layoutSession digest).runBy digest (throughCalls "loop")).store.content? ⟨1⟩).map
        (fun content => content.1.schema.number) = some 0 := by cbv

theorem number_of_throughCalls_again (digest : Layout.DigestFunction) :
    (((layoutSession digest).runBy digest (throughCalls "again")).store.content? ⟨1⟩).map
        (fun content => content.1.schema.number) = some 1 := by cbv

theorem equal_layouts_interchangeable_sample :
    let s := layoutSession Sha256.digest
    s.Interchanged Sha256.digest s (throughCalls "loop") (throughCalls "again") ∧
      s.collect Sha256.digest (fun _ call answer => [call.forgetInstance answer])
          (throughCalls "loop") =
        s.collect Sha256.digest (fun _ call answer => [call.forgetInstance answer])
          (throughCalls "again") ∧
      ((s.runBy Sha256.digest (throughCalls "loop")).store.content? ⟨1⟩).map
        (fun content => content.1.schema.number) = some 0 ∧
      ((s.runBy Sha256.digest (throughCalls "again")).store.content? ⟨1⟩).map
        (fun content => content.1.schema.number) = some 1 := by
  intro s
  have hreachable : s.Reachable Sha256.digest := reachable_layoutSession Sha256.digest
  have hinterchanged := interchanged_throughCalls Sha256.digest
  exact ⟨hinterchanged,
    (equal_layouts_interchangeable hreachable hreachable rfl hinterchanged).1,
    number_of_throughCalls_loop _, number_of_throughCalls_again _⟩

end Session

end LoopScope
