import LoopScope.Proofs.Session.Copies
import LoopScope.Proofs.Session.Runs
/-!
# The records of one loop

Materializing and cloning grow a family from one record. All members share its parent link, its
argument list and its layout, whatever else is done to them, as long as nobody assigns slot 0 of a
member. Copies among them can then fail for one reason only: a record is busy.
-/
namespace LoopScope.Session

variable {digest : Layout.DigestFunction} {s u : Session} {origin r : RecordId}
  {slots : List Slot} {calls : List Call}

/-- The records that a run grows from `origin`, by operators for layout `slots` and by clones. -/
inductive Descends (digest : Layout.DigestFunction) (s : Session) (origin : RecordId)
    (slots : List Slot) : List Call → RecordId → Prop
  | origin : Descends digest s origin slots [] origin
  | later {calls : List Call} {call : Call} {r : RecordId}
      (h : Descends digest s origin slots calls r) :
      Descends digest s origin slots (calls ++ [call]) r
  | materialize {calls : List Call} {name operator source : String} {op : Operator}
      {q r : RecordId} {snapshot : RecordSnapshot} (h : Descends digest s origin slots calls q)
      (hq : (s.runBy digest calls).records.get? source = some q)
      (hop : (s.runBy digest calls).operators.get? operator = some op)
      (hslots : op.schema.schema.slots = slots)
      (hanswer : ((s.runBy digest calls).stepBy digest (.materialize name operator source)).1 =
        .materialized r snapshot) :
      Descends digest s origin slots (calls ++ [.materialize name operator source]) r
  | clone {calls : List Call} {name source : String} {q r : RecordId}
      (h : Descends digest s origin slots calls q)
      (hq : (s.runBy digest calls).records.get? source = some q)
      (hanswer : ((s.runBy digest calls).stepBy digest (.cloneRecord name source)).1 =
        .record r) :
      Descends digest s origin slots (calls ++ [.cloneRecord name source]) r

/-- No call of a run assigns, by the number of the slot, slot 0 of a record that descends from
`origin`. -/
def SparesParents (digest : Layout.DigestFunction) (s : Session) (origin : RecordId)
    (slots : List Slot) (calls : List Call) : Prop :=
  ∀ before call after, calls = before ++ call :: after → ∀ r,
    Descends digest s origin slots before r → (s.runBy digest before).written? call = some r →
      ¬ (s.runBy digest before).AssignsParent call

theorem SparesParents.init {call : Call}
    (h : SparesParents digest s origin slots (calls ++ [call])) :
    SparesParents digest s origin slots calls := by
  intro before other after he r hr hw
  refine h before other (after ++ [call]) ?_ r hr hw
  rw [he, List.append_assoc, List.cons_append]

/-- Assignments by the number of a slot are the only calls that can touch a parent link. -/
theorem sparesParents_of_forall
    (h : ∀ call ∈ calls, ∀ u : Session, ¬ u.AssignsParent call) :
    SparesParents digest s origin slots calls := by
  intro before call after he r _ _
  apply h
  rw [he]
  exact List.mem_append_right _ List.mem_cons_self

/-- What the members of a family have in common. -/
structure Kin (record first : Record) : Prop where
  parent : record.slots[parentSlot]? = first.slots[parentSlot]?
  arguments : record.arguments = first.arguments
  slots : record.schema.schema.slots = first.schema.schema.slots

/-! ## The numbers of new records -/

theorem materialize_answer (h : s.Sound digest) {name operator source : String}
    {snapshot : RecordSnapshot}
    (hanswer : (s.stepBy digest (.materialize name operator source)).1 =
      .materialized r snapshot) :
    r = ⟨s.store.records.next⟩ ∧
      (s.stepBy digest (.materialize name operator source)).2.records.get? name = some r := by
  simp only [stepBy] at hanswer ⊢
  rcases materializeCall_cases h name operator source with
    ⟨-, hcall⟩ | ⟨op, q, record, guard, e, -, -, -, -, -, hcall⟩ |
    ⟨op, q, record, guard, made, hop, hq, hc, hconforms, hcall⟩
  · rw [hcall] at hanswer
    cases hanswer
  · rw [hcall] at hanswer
    cases hanswer
  · rw [hcall] at hanswer ⊢
    cases hanswer
    exact ⟨rfl, Table.get?_insert_self _ _ _⟩

theorem cloneRecord_answer {name source : String}
    (hanswer : (s.stepBy digest (.cloneRecord name source)).1 = .record r) :
    r = ⟨s.store.records.next⟩ ∧
      (s.stepBy digest (.cloneRecord name source)).2.records.get? name = some r := by
  simp only [stepBy, cloneRecordCall] at hanswer ⊢
  split at hanswer
  · cases hanswer
  · rename_i q hq
    split at hanswer
    · cases hanswer
    · rename_i made store hclone
      obtain ⟨record, guard, -, hmade, -⟩ := Store.clone_eq_ok hclone
      cases hanswer
      exact ⟨hmade, Table.get?_insert_self _ _ _⟩

theorem runBy_snoc (digest : Layout.DigestFunction) (s : Session) (calls : List Call)
    (call : Call) :
    s.runBy digest (calls ++ [call]) = ((s.runBy digest calls).stepBy digest call).2 :=
  runBy_append digest s calls [call]

/-- A member has been made. -/
theorem Descends.lt_next (h : Descends digest s origin slots calls r) (hs : s.Sound digest)
    (horigin : origin.number < s.store.records.next) :
    r.number < (s.runBy digest calls).store.records.next := by
  induction h with
  | origin => exact horigin
  | @later calls call r h ih =>
    rw [runBy_snoc]
    exact Nat.lt_of_lt_of_le ih (effect_stepBy (hs.runBy calls) call).next_le
  | @materialize calls name operator source op q r snapshot h hq hop hslots hanswer ih =>
    rw [runBy_snoc]
    have hnamed := (materialize_answer (hs.runBy calls) hanswer).2
    exact ((hs.runBy calls).stepBy _).lt_next (hasHandle_of_name hnamed)
  | @clone calls name source q r h hq hanswer ih =>
    rw [runBy_snoc]
    have hnamed := (cloneRecord_answer hanswer).2
    exact ((hs.runBy calls).stepBy _).lt_next (hasHandle_of_name hnamed)

/-! ## The invariant -/

theorem Kin.trans {a b c : Record} (h : Kin a b) (h' : Kin b c) : Kin a c :=
  ⟨h.parent.trans h'.parent, h.arguments.trans h'.arguments, h.slots.trans h'.slots⟩

/-- A record that was there before a call is of the same kin after it, unless the call assigns its
slot 0 by number. -/
theorem Provenance.kin {call : Call} {record : Record} (hp : s.Provenance call r record)
    (hr : r.number < s.store.records.next)
    (hspared : s.written? call = some r → ¬ s.AssignsParent call) :
    ∃ old guard, s.store.content? r = some (old, guard) ∧ Kin record old := by
  cases hp with
  | kept content => exact ⟨record, _, content, rfl, rfl, rfl⟩
  | @assigned old slots target content record_eq length parent =>
    refine ⟨old, _, content, ?_⟩
    rw [record_eq]
    exact ⟨parent (hspared target), rfl, rfl⟩
  | made fresh made =>
    rw [fresh] at hr
    exact (Nat.lt_irrefl _ hr).elim

/-- A record whose number was not taken before a call is one that the call has made. -/
theorem Provenance.makes {call : Call} {record : Record}
    (hp : s.Provenance call ⟨s.store.records.next⟩ record) : s.Makes call record := by
  cases hp with
  | kept content => exact (Nat.lt_irrefl _ (Store.lt_next_of_content? content)).elim
  | assigned target content record_eq length parent =>
    exact (Nat.lt_irrefl _ (Store.lt_next_of_content? content)).elim
  | made fresh made => exact made

/-- Every member that is there is of the kin of the record that the family grew from. -/
theorem Descends.kin (h : Descends digest s origin slots calls r) (hs : s.Sound digest)
    {first : Record} {guard₀ : Guard} (hfirst : s.store.content? origin = some (first, guard₀))
    (hslots : first.schema.schema.slots = slots)
    (hspared : SparesParents digest s origin slots calls) {record : Record} {guard : Guard}
    (hc : (s.runBy digest calls).store.content? r = some (record, guard)) : Kin record first := by
  induction h generalizing record guard with
  | origin =>
    rw [runBy_nil, hfirst] at hc
    cases hc
    exact ⟨rfl, rfl, rfl⟩
  | @later calls call r h ih =>
    rw [runBy_snoc] at hc
    have hlt := h.lt_next hs (Store.lt_next_of_content? hfirst)
    obtain ⟨old, before, hold, hkin⟩ :=
      ((effect_stepBy (hs.runBy calls) call).provenance hc).kin hlt
        (hspared calls call [] rfl r h)
    exact hkin.trans (ih hspared.init hold)
  | @materialize calls name operator source op q r snapshot h hq hop hop_slots hanswer ih =>
    rw [runBy_snoc] at hc
    obtain ⟨hfresh, -⟩ := materialize_answer (hs.runBy calls) hanswer
    rw [hfresh] at hc
    cases ((effect_stepBy (hs.runBy calls) _).provenance hc).makes with
    | materialize hop' hq' hold hconforms =>
      rw [hop] at hop'
      rw [hq] at hq'
      cases hop'
      cases hq'
      obtain ⟨hparent, harguments, -⟩ := ih hspared.init hold
      exact ⟨hparent, harguments, hop_slots.trans hslots.symm⟩
  | @clone calls name source q r h hq hanswer ih =>
    rw [runBy_snoc] at hc
    obtain ⟨hfresh, -⟩ := cloneRecord_answer hanswer
    rw [hfresh] at hc
    cases ((effect_stepBy (hs.runBy calls) _).provenance hc).makes with
    | clone hq' hold =>
      rw [hq] at hq'
      cases hq'
      exact ih hspared.init hold

/-! ## Copies among the members -/

theorem fst_materialize_of_conformsTo (h : s.Sound digest) {name : String} {op : Operator}
    (hop : s.operators.get? name = some op) {record : Record} {guard : Guard}
    (hc : s.store.content? r = some (record, guard)) (hconforms : record.conformsTo op.schema) :
    (op.materialize s.store r).1 =
      if guard = .exclusive then .error .recordBusy else .ok ⟨s.store.records.next⟩ := by
  rw [Operator.materialize_eq (h.operators hop) hc, if_pos hconforms]
  split <;> rfl

theorem fst_copyInto_of_conformsTo (h : s.Sound digest) {name : String} {op : Operator}
    (hop : s.operators.get? name = some op) {d : RecordId} {into record : Record}
    {intoGuard guard : Guard} (hd : s.store.content? d = some (into, intoGuard))
    (hc : s.store.content? r = some (record, guard)) (hinto : into.conformsTo op.schema)
    (hconforms : record.conformsTo op.schema) {debugChecks : Bool}
    (hparents : op.config.parentLinkCheck.enabled debugChecks →
      into.slots[parentSlot]? = record.slots[parentSlot]?) :
    (op.copyInto debugChecks s.store d r).1 =
      if guard = .exclusive ∨ d ≠ r ∧ intoGuard ≠ .free then .error .recordBusy else .ok () := by
  by_cases hne : d = r
  · subst hne
    rw [Operator.copyInto_self_eq op debugChecks hc, if_pos hconforms]
    simp only [ne_eq, not_true, false_and, or_false]
    split <;> rfl
  · have hcheck : op.checkRefresh debugChecks record into = .ok () :=
      (op.checkRefresh_eq_ok_iff debugChecks record into).mpr ⟨hconforms, hinto, hparents⟩
    rw [Operator.copyInto_eq (h.operators hop) debugChecks hne hd hc, hcheck]
    simp only [hne, ne_eq, not_false_eq_true, true_and]
    split <;> rfl

/-- The lineage invariant: members share the parent link and the argument list of the record that
they descend from and conform to every operator for its layout. A copy among them is refused when a
borrow is in its way, and for no other reason. -/
theorem lineage_invariant (hs : s.Reachable digest) {first : Record} {guard₀ : Guard}
    (hfirst : s.store.content? origin = some (first, guard₀))
    (hspared : SparesParents digest s origin first.schema.schema.slots calls) :
    (∀ r record guard, Descends digest s origin first.schema.schema.slots calls r →
      (s.runBy digest calls).store.content? r = some (record, guard) →
      record.slots[parentSlot]? = first.slots[parentSlot]? ∧ record.arguments = first.arguments ∧
      ∀ name op, (s.runBy digest calls).operators.get? name = some op →
        op.schema.schema.slots = first.schema.schema.slots →
        record.conformsTo op.schema ∧
        (op.materialize (s.runBy digest calls).store r).1 =
          if guard = .exclusive then .error .recordBusy
          else .ok ⟨(s.runBy digest calls).store.records.next⟩) ∧
    ∀ d r into intoGuard record guard,
      Descends digest s origin first.schema.schema.slots calls d →
      Descends digest s origin first.schema.schema.slots calls r →
      (s.runBy digest calls).store.content? d = some (into, intoGuard) →
      (s.runBy digest calls).store.content? r = some (record, guard) →
      ∀ name op, (s.runBy digest calls).operators.get? name = some op →
        op.schema.schema.slots = first.schema.schema.slots → ∀ debugChecks,
        (op.copyInto debugChecks (s.runBy digest calls).store d r).1 =
          if guard = .exclusive ∨ d ≠ r ∧ intoGuard ≠ .free then .error .recordBusy
          else .ok () := by
  have hsound := sound_of_reachable hs
  have hlater := hsound.runBy calls
  have hkin {r : RecordId} {record : Record} {guard : Guard}
      (hr : Descends digest s origin first.schema.schema.slots calls r)
      (hc : (s.runBy digest calls).store.content? r = some (record, guard)) : Kin record first :=
    hr.kin hsound hfirst rfl hspared hc
  have hconforms {r : RecordId} {record : Record} {guard : Guard} {name : String} {op : Operator}
      (hr : Descends digest s origin first.schema.schema.slots calls r)
      (hc : (s.runBy digest calls).store.content? r = some (record, guard))
      (hop : (s.runBy digest calls).operators.get? name = some op)
      (hslots : op.schema.schema.slots = first.schema.schema.slots) :
      record.conformsTo op.schema :=
    (hlater.records hc).conformsTo_of_slots (hlater.operators hop).schema
      ((hkin hr hc).slots.trans hslots.symm)
  constructor
  · intro r record guard hr hc
    refine ⟨(hkin hr hc).parent, (hkin hr hc).arguments, ?_⟩
    intro name op hop hslots
    have hconform := hconforms hr hc hop hslots
    exact ⟨hconform, fst_materialize_of_conformsTo hlater hop hc hconform⟩
  · intro d r into intoGuard record guard hdescends hr hd hc name op hop hslots debugChecks
    exact fst_copyInto_of_conformsTo hlater hop hd hc (hconforms hdescends hd hop hslots)
      (hconforms hr hc hop hslots)
      fun _ => (hkin hdescends hd).parent.trans (hkin hr hc).parent.symm

theorem lineage_sample :
    ∃ record guard,
      (sample.runBy (fun _ => []) [.materialize "third" "next" "first"]).store.content? ⟨2⟩ =
        some (record, guard) ∧
      record.slots[parentSlot]? = some .null ∧ record.arguments = ⟨0⟩ := by
  have hspared : SparesParents (fun _ => []) sample ⟨0⟩ sampleSchema.schema.slots
      [.materialize "third" "next" "first"] := by
    apply sparesParents_of_forall
    intro call hm u
    rw [List.mem_singleton.mp hm]
    exact id
  have hanswer : (sample.stepBy (fun _ => []) (.materialize "third" "next" "first")).1 =
      .materialized ⟨2⟩ ⟨"sha256:", 0,
        [⟨"<parent>", .parentLink, "null"⟩, ⟨"i", .letBinding, "true"⟩]⟩ := by cbv
  have hmember : Descends (fun _ => []) sample ⟨0⟩ sampleSchema.schema.slots
      [.materialize "third" "next" "first"] ⟨2⟩ :=
    .materialize .origin name_sample_first operator_sample rfl hanswer
  have hc : (sample.runBy (fun _ => []) [.materialize "third" "next" "first"]).store.content?
      ⟨2⟩ = some (⟨sampleSchema, [.null, .bool true], ⟨0⟩⟩, .free) := by cbv
  obtain ⟨hmembers, -⟩ := lineage_invariant reachable_sample content?_sample_first hspared
  obtain ⟨hparent, harguments, -⟩ := hmembers ⟨2⟩ _ _ hmember hc
  exact ⟨_, _, hc, hparent, harguments⟩

end LoopScope.Session
