import LoopScope.Proofs.Session.Sound
/-!
# What a call does

Every call has one of a few effects on the store and on what the client holds. `Session.Effect`
lists them, and `effect_stepBy` finds the one of each call; what holds after a step is then a case
analysis on its effect. What a call does to the schemas and the operators is apart from that, and
`SetupEffect` tells it.
-/
namespace LoopScope

/-- The calls that only ask. -/
def Call.asks : Call → Bool
  | .get _ _ | .parent _ | .slot _ _ | .snapshot _ | .info _ | .holders _ | .sameRecord _ _
  | .sameArguments _ _ | .sameSchema _ _ | .conforms _ _ | .equal _ _ | .render _ | .accessors _
  | .events _ | .lines _ | .profiles _ | .operatorInfo _ _ => true
  | _ => false

/-- The name of the record that a call writes to. -/
def Call.destination? : Call → Option String
  | .set name _ _ | .put name _ _ | .write name _ _ | .copyInto _ name _ => some name
  | _ => none

/-- The name that a call takes away from the record that has it. -/
def Call.recordName? : Call → Option String
  | .record name _ _ _ | .root name _ | .cloneRecord name _ | .alias name _
  | .materialize name _ _ | .drop name => some name
  | _ => none

/-- The name that a call takes away from the operator that has it. -/
def Call.operatorName? : Call → Option String
  | .operator name _ _ _ | .cloneOperator name _ => some name
  | _ => none

namespace Session

variable {digest : Layout.DigestFunction} {s t u : Session} {call : Call}

/-- The record that a call writes to, if it writes. -/
def written? (s : Session) (call : Call) : Option RecordId :=
  call.destination?.bind s.records.get?

/-- The call assigns a slot by its number, and the slot is the parent link. -/
def AssignsParent (s : Session) : Call → Prop
  | .put _ index _ => index = parentSlot
  | .write _ accessor _ => ∃ a, s.writeAccessor? accessor = some a ∧ a.index = parentSlot
  | _ => False

/-- The records that a call can make. -/
inductive Makes (s : Session) : Call → Record → Prop
  | given {name schema : String} {parent : Operand} {arguments : String} {shared : SharedSchema}
      {value : Value} {a : ArgumentsId} (hs : s.schemas.get? schema = some shared)
      (hv : s.operand? parent = some value) (ha : s.arguments.get? arguments = some a) :
      Makes s (.record name schema parent (some arguments)) (.new shared value a)
  | alone {name schema : String} {parent : Operand} {shared : SharedSchema} {value : Value}
      (hs : s.schemas.get? schema = some shared) (hv : s.operand? parent = some value) :
      Makes s (.record name schema parent none) (.new shared value ⟨s.store.arguments.next⟩)
  | root {name schema : String} {shared : SharedSchema}
      (hs : s.schemas.get? schema = some shared) :
      Makes s (.root name schema) (.new shared .null ⟨s.store.arguments.next⟩)
  | clone {name source : String} {r : RecordId} {record : Record} {guard : Guard}
      (hr : s.records.get? source = some r) (hc : s.store.content? r = some (record, guard)) :
      Makes s (.cloneRecord name source) record
  | materialize {name operator source : String} {op : Operator} {r : RecordId} {record : Record}
      {guard : Guard} (hop : s.operators.get? operator = some op)
      (hr : s.records.get? source = some r) (hc : s.store.content? r = some (record, guard))
      (hconforms : record.conformsTo op.schema) :
      Makes s (.materialize name operator source) ⟨op.schema, record.slots, record.arguments⟩

/-- What is let go when a name is given to another record. -/
def displaced (s : Session) (name : String) : List Ref :=
  (s.records.get? name).toList.map .record

def displacedArguments (s : Session) (name : String) : List Ref :=
  (s.arguments.get? name).toList.map .arguments

/-- The client holds what it held before. -/
structure KeepsHolds (t s : Session) : Prop where
  records : t.records = s.records
  arguments : t.arguments = s.arguments
  loans : t.loans = s.loans

theorem KeepsHolds.holds_eq (h : t.KeepsHolds s) : t.holds = s.holds := by
  rw [holds, holds, h.records, h.arguments, h.loans]

/-- What a call can do to the store and to what the client holds of it. -/
inductive Effect (s : Session) (call : Call) (t : Session) : Prop
  | none (store : t.store = s.store) (keeps : t.KeepsHolds s)
  | assign {r : RecordId} {old : Record} {slots : List Value} (target : s.written? call = some r)
      (content : s.store.content? r = some (old, .free))
      (length : slots.length = old.slots.length)
      (live : ∀ ref ∈ valueRefs slots, s.store.Live ref)
      (parent : ¬ s.AssignsParent call → slots[parentSlot]? = old.slots[parentSlot]?)
      (store : t.store = s.store.putSlots r slots) (keeps : t.KeepsHolds s)
  | make {name : String} {record : Record} (bound : call.recordName? = some name)
      (made : s.Makes call record) (live : ∀ ref ∈ record.refs, s.store.Live ref)
      (store : t.store = (s.store.create record).2.release (s.displaced name))
      (records : t.records = s.records.insert name ⟨s.store.records.next⟩)
      (arguments : t.arguments = s.arguments) (loans : t.loans = s.loans)
  | makeAlone {name : String} {schema : SharedSchema} {parent : Value}
      (bound : call.recordName? = some name)
      (made : s.Makes call (.new schema parent ⟨s.store.arguments.next⟩))
      (live : ∀ ref ∈ parent.refs, s.store.Live ref)
      (store : t.store = (s.store.createAlone schema parent).2.release (s.displaced name))
      (records : t.records = s.records.insert name ⟨s.store.records.next⟩)
      (arguments : t.arguments = s.arguments) (loans : t.loans = s.loans)
  | share {name : String} {r : RecordId} (bound : call.recordName? = some name)
      (handle : s.HasHandle r)
      (store : t.store = (s.store.retain (.record r)).release (s.displaced name))
      (records : t.records = s.records.insert name r)
      (arguments : t.arguments = s.arguments) (loans : t.loans = s.loans)
  | drop {name : String} {r : RecordId} (bound : call.recordName? = some name)
      (named : s.records.get? name = some r) (store : t.store = s.store.release [.record r])
      (records : t.records = s.records.erase name)
      (arguments : t.arguments = s.arguments) (loans : t.loans = s.loans)
  | makeArguments {name : String} {values : List Value}
      (live : ∀ ref ∈ valueRefs values, s.store.Live ref)
      (store : t.store =
        (s.store.createArguments values).2.release (s.displacedArguments name))
      (records : t.records = s.records)
      (arguments : t.arguments = s.arguments.insert name (s.store.createArguments values).1)
      (loans : t.loans = s.loans)
  | dropArguments {name : String} {a : ArgumentsId} (named : s.arguments.get? name = some a)
      (store : t.store = s.store.release [.arguments a]) (records : t.records = s.records)
      (arguments : t.arguments = s.arguments.erase name) (loans : t.loans = s.loans)
  | lend {r : RecordId} {mode : LoanMode} (store : s.store.lend r mode = .ok t.store)
      (records : t.records = s.records) (arguments : t.arguments = s.arguments)
      (loans : t.loans = ⟨r, mode⟩ :: s.loans)
  | endLoan {loan : Loan} (opened : s.loans = loan :: t.loans)
      (store : t.store = s.store.giveBack loan.record) (records : t.records = s.records)
      (arguments : t.arguments = s.arguments)

theorem KeepsHolds.refl (s : Session) : s.KeepsHolds s := ⟨rfl, rfl, rfl⟩

theorem Effect.of_eq (h : t = s) : s.Effect call t := by
  subst h
  exact .none rfl (.refl t)

/-! ## Queries -/

@[simp] theorem snd_query (s : Session) (record : String) (ask : RecordId → Answer) :
    (s.query record ask).2 = s := by
  unfold query
  split <;> rfl

@[simp] theorem snd_queryPair (s : Session) (a b : String) (ask : Record → Record → Answer) :
    (s.queryPair a b ask).2 = s := by
  unfold queryPair
  split
  · split <;> rfl
  · rfl

@[simp] theorem snd_queryOperator (s : Session) (operator : String) (ask : Operator → Answer) :
    (s.queryOperator operator ask).2 = s := by
  unfold queryOperator
  split <;> rfl

@[simp] theorem snd_sameRecordCall (s : Session) (a b : String) : (s.sameRecordCall a b).2 = s := by
  unfold sameRecordCall
  split <;> rfl

@[simp] theorem snd_conformsCall (s : Session) (record schema : String) :
    (s.conformsCall record schema).2 = s := by
  unfold conformsCall
  split <;> rfl

@[simp] theorem snd_equalCall (s : Session) (a b : Operand) : (s.equalCall a b).2 = s := by
  unfold equalCall
  split <;> rfl

@[simp] theorem snd_accessorsCall (s : Session) (schema : String) :
    (s.accessorsCall schema).2 = s := by
  unfold accessorsCall
  split <;> rfl

@[simp] theorem snd_operatorInfoCall (s : Session) (operator : String) (other : Option String) :
    (s.operatorInfoCall operator other).2 = s := by
  unfold operatorInfoCall
  split
  · simp
  · split
    · rfl
    · simp

/-- A call that only asks changes nothing. -/
theorem snd_stepBy_of_asks (s : Session) (h : call.asks = true) :
    (s.stepBy digest call).2 = s := by
  cases call with
  | get record binding => exact snd_query s record _
  | parent record => exact snd_query s record _
  | slot record index => exact snd_query s record _
  | snapshot record => exact snd_query s record _
  | info record => exact snd_query s record _
  | holders record => exact snd_query s record _
  | sameRecord a b => exact snd_sameRecordCall s a b
  | sameArguments a b => exact snd_queryPair s a b _
  | sameSchema a b => exact snd_queryPair s a b _
  | conforms record schema => exact snd_conformsCall s record schema
  | equal a b => exact snd_equalCall s a b
  | render value =>
    simp only [stepBy]
    split <;> rfl
  | accessors schema => exact snd_accessorsCall s schema
  | events operator => exact snd_queryOperator s operator _
  | lines operator => exact snd_queryOperator s operator _
  | profiles operator => exact snd_queryOperator s operator _
  | operatorInfo operator other => exact snd_operatorInfoCall s operator other
  | _ => cases h

/-! ## Records and argument lists -/

theorem effect_schemaCall (s : Session) (name : String) (slots : List Slot) :
    s.Effect call (s.schemaCall digest name slots).2 := by
  unfold schemaCall
  split
  · exact .of_eq rfl
  · exact .none rfl ⟨rfl, rfl, rfl⟩

theorem effect_argumentsCall (h : s.Sound digest) (name : String) (values : List Operand) :
    s.Effect call (s.argumentsCall name values).2 := by
  unfold argumentsCall
  split
  · exact .of_eq rfl
  · rename_i given hgiven
    exact .makeArguments (h.live_of_operands hgiven) rfl rfl rfl rfl

theorem effect_dropArgumentsCall (s : Session) (name : String) :
    s.Effect call (s.dropArgumentsCall name).2 := by
  unfold dropArgumentsCall
  split
  · exact .of_eq rfl
  · rename_i a ha
    exact .dropArguments ha rfl rfl rfl rfl

theorem effect_recordOverCall (h : s.Sound digest) (name schema : String) (parent : Operand)
    (arguments : String) :
    s.Effect (.record name schema parent (some arguments))
      (s.recordOverCall name schema parent arguments).2 := by
  unfold recordOverCall
  split
  · rename_i shared value a hs hv ha
    refine .make rfl (.given hs hv ha) ?_ rfl ?_ rfl rfl
    · intro ref hm
      rw [Store.refs_new] at hm
      rcases List.mem_append.mp hm with hm | hm
      · exact h.live_of_operand hv ref hm
      · rw [List.mem_singleton.mp hm]
        exact h.live_of_arguments ha
    · exact congrArg (s.records.insert name) (Store.create_fst _ _)
  · exact .of_eq rfl

theorem effect_recordCall (h : s.Sound digest) {name schema : String} {parent : Operand}
    (hbound : call.recordName? = some name)
    (hmakes : ∀ {shared value}, s.schemas.get? schema = some shared →
      s.operand? parent = some value →
        s.Makes call (.new shared value ⟨s.store.arguments.next⟩)) :
    s.Effect call (s.recordCall name schema parent).2 := by
  unfold recordCall
  split
  · rename_i shared value hs hv
    refine .makeAlone hbound (hmakes hs hv) (h.live_of_operand hv) rfl ?_ rfl rfl
    exact congrArg (s.records.insert name) (Store.createAlone_fst _ _ _)
  · exact .of_eq rfl

theorem effect_cloneRecordCall (h : s.Sound digest) (name record : String) :
    s.Effect (.cloneRecord name record) (s.cloneRecordCall name record).2 := by
  unfold cloneRecordCall
  split
  · exact .of_eq rfl
  · rename_i r hr
    split
    · exact .of_eq rfl
    · rename_i q store hclone
      obtain ⟨content, guard, hc, rfl, rfl⟩ := Store.clone_eq_ok hclone
      exact .make rfl (.clone hr hc) (fun ref hm => h.balanced.live_of_content? hc hm) rfl rfl rfl
        rfl

theorem effect_aliasCall (s : Session) (name record : String) :
    s.Effect (.alias name record) (s.aliasCall name record).2 := by
  unfold aliasCall
  split
  · exact .of_eq rfl
  · rename_i r hr
    exact .share rfl (hasHandle_of_name hr) rfl rfl rfl rfl

theorem effect_dropCall (s : Session) (record : String) :
    s.Effect (.drop record) (s.dropCall record).2 := by
  unfold dropCall
  split
  · exact .of_eq rfl
  · rename_i r hr
    exact .drop rfl hr rfl rfl rfl rfl

theorem effect_lendCall (s : Session) (record : String) (mode : LoanMode) :
    s.Effect call (s.lendCall record mode).2 := by
  unfold lendCall
  split
  · exact .of_eq rfl
  · split
    · exact .of_eq rfl
    · rename_i store hlend
      exact .lend hlend rfl rfl rfl

theorem effect_endLoanCall (s : Session) : s.Effect call s.endLoanCall.2 := by
  unfold endLoanCall
  split
  · exact .of_eq rfl
  · rename_i loan loans hloans
    exact .endLoan hloans rfl rfl rfl

/-! ## Assignments -/

/-- One slot of a record assigned. -/
theorem effect_putSlots (h : s.Sound digest) {r : RecordId} {old : Record} {index : Nat}
    {operand : Operand} {value : Value} (htarget : s.written? call = some r)
    (hold : s.store.content? r = some (old, .free)) (hv : s.operand? operand = some value)
    (hparent : ¬ s.AssignsParent call → index ≠ parentSlot)
    (hstore : t.store = s.store.putSlots r (old.slots.set index value)) (hkeeps : t.KeepsHolds s) :
    s.Effect call t := by
  refine .assign htarget hold List.length_set ?_ ?_ hstore hkeeps
  · rw [live_valueRefs_iff]
    intro other hm
    rcases List.mem_or_eq_of_mem_set hm with hm | rfl
    · exact h.live_of_slots hold hm
    · exact h.live_of_operand hv
  · intro hnot
    exact List.getElem?_set_ne (hparent hnot)

theorem effect_setCall (h : s.Sound digest) (record binding : String) (value : Operand) :
    s.Effect (.set record binding value) (s.setCall record binding value).2 := by
  unfold setCall
  split
  · rename_i r given hr hv
    split
    · exact .of_eq rfl
    · rename_i store hset
      obtain ⟨old, index, hold, hindex, rfl⟩ := Store.set_eq_ok hset
      refine effect_putSlots h hr hold hv ?_ rfl ⟨rfl, rfl, rfl⟩
      intro _
      exact Nat.ne_of_gt (Schema.indexOf?_bounds hindex).1
  · exact .of_eq rfl

theorem effect_putCall (h : s.Sound digest) (record : String) (index : Nat) (value : Operand) :
    s.Effect (.put record index value) (s.putCall record index value).2 := by
  unfold putCall
  split
  · rename_i r given hr hv
    split
    · exact .of_eq rfl
    · rename_i found store hassign
      rcases Store.assign_eq_ok hassign with rfl | ⟨old, hold, -, rfl⟩
      · exact .none rfl ⟨rfl, rfl, rfl⟩
      · exact effect_putSlots h hr hold hv (fun hnot => hnot) rfl ⟨rfl, rfl, rfl⟩
  · exact .of_eq rfl

@[simp] theorem store_putWriteAccessor (s : Session) (a : Accessor) (name : AccessorName) :
    (s.putWriteAccessor a name).store = s.store := by
  unfold putWriteAccessor
  split
  · rfl
  · split <;> rfl

theorem keepsHolds_putWriteAccessor (s : Session) (a : Accessor) (name : AccessorName) :
    (s.putWriteAccessor a name).KeepsHolds s := by
  unfold putWriteAccessor
  split
  · exact ⟨rfl, rfl, rfl⟩
  · split <;> exact ⟨rfl, rfl, rfl⟩

theorem effect_readCall (s : Session) (record : String) (name : AccessorName) :
    s.Effect call (s.readCall record name).2 := by
  unfold readCall
  split
  · split
    · exact .of_eq rfl
    · unfold putReadAccessor
      split
      · exact .none rfl ⟨rfl, rfl, rfl⟩
      · split <;> exact .none rfl ⟨rfl, rfl, rfl⟩
  · exact .of_eq rfl

theorem effect_writeCall (h : s.Sound digest) (record : String) (name : AccessorName)
    (value : Operand) :
    s.Effect (.write record name value) (s.writeCall record name value).2 := by
  unfold writeCall
  split
  · rename_i r a given hr ha hv
    split
    · exact .of_eq rfl
    · rename_i outcome used store hwrite
      obtain ⟨hrecords, harguments, hloans⟩ :=
        keepsHolds_putWriteAccessor { s with store := store } used name
      rcases Store.writeThrough_eq_ok hwrite with
        ⟨old, hold, -, -, -, rfl⟩ | ⟨e, -, -, rfl⟩
      · refine effect_putSlots h hr hold hv ?_ (store_putWriteAccessor _ used name)
          ⟨hrecords, harguments, hloans⟩
        intro hnot hparent
        exact hnot ⟨a, ha, hparent⟩
      · exact .none (store_putWriteAccessor _ used name) ⟨hrecords, harguments, hloans⟩
  · exact .of_eq rfl

/-! ## Copies -/

/-- What comes of materializing: a name is unbound, the operator refuses the record and logs it, or
there is a new record. -/
theorem materializeCall_cases (h : s.Sound digest) (name operator source : String) :
    ((s.operators.get? operator = none ∨ s.records.get? source = none) ∧
      s.materializeCall name operator source = (.unbound, s)) ∨
    (∃ op r record guard e, s.operators.get? operator = some op ∧
      s.records.get? source = some r ∧ s.store.content? r = some (record, guard) ∧
      (guard = .exclusive ∨ ¬ record.conformsTo op.schema) ∧
      (op.materialize s.store r).1 = .error e ∧
      s.materializeCall name operator source =
        (.failed e, { s with
          operators := s.operators.insert operator (op.logOutcome "materialize" (.error e)) })) ∨
    ∃ op r record guard snapshot, s.operators.get? operator = some op ∧
      s.records.get? source = some r ∧ s.store.content? r = some (record, guard) ∧
      record.conformsTo op.schema ∧
      s.materializeCall name operator source =
        (.materialized ⟨s.store.records.next⟩ snapshot,
          { s with
            store := (s.store.create ⟨op.schema, record.slots, record.arguments⟩).2
            operators := s.operators.insert operator
              ((op.observing 0 record.slots).logOutcome "materialize" (.ok ())) }.bindRecord name
            ⟨s.store.records.next⟩) := by
  cases hop : s.operators.get? operator with
  | none =>
    exact .inl ⟨.inl rfl, by simp only [materializeCall, hop]⟩
  | some op =>
    cases hr : s.records.get? source with
    | none =>
      exact .inl ⟨.inr rfl, by simp only [materializeCall, hop, hr]⟩
    | some r =>
      obtain ⟨record, guard, hc⟩ := h.exists_content (hasHandle_of_name hr)
      have hmaterialize := Operator.materialize_eq (h.operators hop) hc
      simp only [materializeCall, hop, hr]
      by_cases hg : guard = .exclusive
      · rw [if_pos hg] at hmaterialize
        rw [hmaterialize]
        exact .inr (.inl ⟨op, r, record, guard, _, rfl, rfl, hc, .inl hg,
          congrArg Prod.fst hmaterialize, rfl⟩)
      · rw [if_neg hg] at hmaterialize
        by_cases hconforms : record.conformsTo op.schema
        · have hread := Store.toRead_of_content?
            (Store.content?_create_self s.store ⟨op.schema, record.slots, record.arguments⟩)
          simp only [reduceCtorEq, if_false] at hread
          rw [if_pos hconforms] at hmaterialize
          simp only [hmaterialize, Store.snapshot, hread, answerOr]
          exact .inr (.inr ⟨op, r, record, guard, _, rfl, rfl, hc, hconforms, rfl⟩)
        · rw [if_neg hconforms] at hmaterialize
          rw [hmaterialize]
          exact .inr (.inl ⟨op, r, record, guard, _, rfl, rfl, hc, .inr hconforms,
            congrArg Prod.fst hmaterialize, rfl⟩)

theorem effect_materializeCall (h : s.Sound digest) (name operator source : String) :
    s.Effect (.materialize name operator source) (s.materializeCall name operator source).2 := by
  rcases materializeCall_cases h name operator source with
    ⟨-, hcall⟩ | ⟨op, r, record, guard, e, -, -, -, -, -, hcall⟩ |
    ⟨op, r, record, guard, snapshot, hop, hr, hc, hconforms, hcall⟩
  · rw [hcall]
    exact .of_eq rfl
  · rw [hcall]
    exact .none rfl ⟨rfl, rfl, rfl⟩
  · rw [hcall]
    exact .make rfl (.materialize hop hr hc hconforms)
      (fun ref hm => h.balanced.live_of_content? hc hm) rfl rfl rfl rfl

/-- A refresh writes slots of both records, and the parent link of the one that it changes. -/
theorem effect_refresh (h : s.Sound digest) {into r : RecordId} {old record : Record}
    {guard : Guard} (htarget : s.written? call = some into)
    (hold : s.store.content? into = some (old, .free))
    (hc : s.store.content? r = some (record, guard))
    (hlength : record.slots.length = old.slots.length)
    (hstore : t.store = s.store.putSlots into (old.slots.take 1 ++ record.slots.drop 1))
    (hkeeps : t.KeepsHolds s) : s.Effect call t := by
  have hpos := h.slots_pos hold
  refine .assign htarget hold (Operator.length_refreshed hpos hlength)
    (h.live_of_refreshed hold hc) ?_ hstore hkeeps
  intro _
  rw [Operator.getElem?_refreshed hpos, if_pos rfl]

/-- A record that was refreshed can be looked into. -/
private theorem exists_snapshot_refreshed (h : s.Sound digest) {into r : RecordId}
    {old record : Record} {guard : Guard} (hinto : s.HasHandle into)
    (hold : s.store.content? into = some (old, .free))
    (hc : s.store.content? r = some (record, guard)) :
    ∃ snapshot, (s.store.putSlots into
      (old.slots.take 1 ++ record.slots.drop 1)).snapshot into = .ok snapshot := by
  have hbalanced := h.balanced.putSlots into (h.live_of_refreshed hold hc)
  obtain ⟨changed, after, hchanged⟩ := hbalanced.exists_content hinto
  rcases Store.content?_of_putSlots hold hchanged with ⟨-, -, rfl⟩ | ⟨hne, -⟩
  · have hread := Store.toRead_of_content? hchanged
    simp only [reduceCtorEq, if_false] at hread
    simp only [Store.snapshot, hread]
    exact ⟨_, rfl⟩
  · exact (hne rfl).elim

/-- What comes of a refresh: a name is unbound, the operator refuses and logs it, or the operator
agrees. It then leaves a record that is both source and destination as it is, and lets any other
destination take over the slots of the source. -/
theorem copyIntoCall_cases (h : s.Sound digest) (operator destination source : String) :
    s.copyIntoCall operator destination source = (.unbound, s) ∨
    (∃ op into r e, s.operators.get? operator = some op ∧
      s.records.get? destination = some into ∧ s.records.get? source = some r ∧
      (op.copyInto s.debugChecks s.store into r).1 = .error e ∧
      s.copyIntoCall operator destination source =
        (.failed e, { s with
          operators := s.operators.insert operator (op.logOutcome "copy_into" (.error e)) })) ∨
    (∃ op r snapshot, s.operators.get? operator = some op ∧
      s.records.get? destination = some r ∧ s.records.get? source = some r ∧
      s.copyIntoCall operator destination source =
        (.snapshot snapshot, { s with
          operators := s.operators.insert operator (op.logOutcome "copy_into" (.ok ())) })) ∨
    ∃ op into r old record guard snapshot, s.operators.get? operator = some op ∧
      s.records.get? destination = some into ∧ s.records.get? source = some r ∧ into ≠ r ∧
      s.store.content? into = some (old, .free) ∧ s.store.content? r = some (record, guard) ∧
      old.conformsTo op.schema ∧ record.conformsTo op.schema ∧
      s.copyIntoCall operator destination source =
        (.snapshot snapshot, { s with
          store := s.store.putSlots into (old.slots.take 1 ++ record.slots.drop 1)
          operators := s.operators.insert operator
            ((op.observing 1 record.slots).logOutcome "copy_into" (.ok ())) }) := by
  unfold copyIntoCall
  split
  · rename_i op into r hop hinto hr
    obtain ⟨record, guard, hc⟩ := h.exists_content (hasHandle_of_name hr)
    obtain ⟨old, intoGuard, hold⟩ := h.exists_content (hasHandle_of_name hinto)
    by_cases hne : into = r
    · subst hne
      have hself := Operator.copyInto_self_eq op s.debugChecks hc
      by_cases hg : guard = .exclusive
      · rw [if_pos hg] at hself
        rw [hself]
        exact .inr (.inl ⟨op, into, into, _, hop, hinto, hr, congrArg Prod.fst hself, rfl⟩)
      · rw [if_neg hg] at hself
        by_cases hconforms : record.conformsTo op.schema
        · have hread := Store.toRead_of_content? hc
          rw [if_neg hg] at hread
          rw [if_pos hconforms] at hself
          simp only [hself, Store.snapshot, hread, answerOr]
          exact .inr (.inr (.inl ⟨op, into, _, hop, hinto, hr, rfl⟩))
        · rw [if_neg hconforms] at hself
          rw [hself]
          exact .inr (.inl ⟨op, into, into, _, hop, hinto, hr, congrArg Prod.fst hself, rfl⟩)
    · have hcopy := Operator.copyInto_eq (h.operators hop) s.debugChecks hne hold hc
      by_cases hbusy : guard = .exclusive ∨ intoGuard ≠ .free
      · rw [if_pos hbusy] at hcopy
        rw [hcopy]
        exact .inr (.inl ⟨op, into, r, _, hop, hinto, hr, congrArg Prod.fst hcopy, rfl⟩)
      · rw [if_neg hbusy] at hcopy
        cases hcheck : op.checkRefresh s.debugChecks record old with
        | error e =>
          rw [hcheck] at hcopy
          rw [hcopy]
          exact .inr (.inl ⟨op, into, r, _, hop, hinto, hr, congrArg Prod.fst hcopy, rfl⟩)
        | ok checked =>
          obtain ⟨hsource, hdestination⟩ := Operator.conforming_of_checkRefresh hcheck
          have hfree : intoGuard = .free := Decidable.not_not.mp fun hf => hbusy (.inr hf)
          subst hfree
          obtain ⟨snapshot, hsnapshot⟩ :=
            exists_snapshot_refreshed h (hasHandle_of_name hinto) hold hc
          rw [hcheck] at hcopy
          rw [hcopy]
          simp only [hsnapshot, answerOr]
          exact .inr (.inr (.inr ⟨op, into, r, old, record, guard, snapshot, hop, hinto, hr, hne,
            hold, hc, hdestination, hsource, rfl⟩))
  · exact .inl rfl

theorem effect_copyIntoCall (h : s.Sound digest) (operator destination source : String) :
    s.Effect (.copyInto operator destination source)
      (s.copyIntoCall operator destination source).2 := by
  rcases copyIntoCall_cases h operator destination source with
    hcall | ⟨op, into, r, e, -, -, -, -, hcall⟩ | ⟨op, r, snapshot, -, -, -, hcall⟩ |
    ⟨op, into, r, old, record, guard, snapshot, -, hinto, -, -, hold, hc, hinto', hsource, hcall⟩
  · rw [hcall]
    exact .of_eq rfl
  · rw [hcall]
    exact .none rfl ⟨rfl, rfl, rfl⟩
  · rw [hcall]
    exact .none rfl ⟨rfl, rfl, rfl⟩
  · have hlength := (Record.length_of_conformsTo hsource).trans
      (Record.length_of_conformsTo hinto').symm
    rw [hcall]
    exact effect_refresh h hinto hold hc hlength rfl ⟨rfl, rfl, rfl⟩

/-! ## All calls -/

theorem effect_cloneReaderCall (s : Session) (name : String) (accessor : AccessorName) :
    s.Effect call (s.cloneReaderCall name accessor).2 := by
  unfold cloneReaderCall
  split
  · exact .of_eq rfl
  · exact .none rfl ⟨rfl, rfl, rfl⟩

theorem effect_cloneWriterCall (s : Session) (name : String) (accessor : AccessorName) :
    s.Effect call (s.cloneWriterCall name accessor).2 := by
  unfold cloneWriterCall
  split
  · exact .of_eq rfl
  · exact .none rfl ⟨rfl, rfl, rfl⟩

theorem effect_bindOperator (s : Session) (name : String) (op : Except ScopeError Operator) :
    s.Effect call (s.bindOperator name op).2 := by
  cases op with
  | error e => exact .of_eq rfl
  | ok op => exact .none rfl ⟨rfl, rfl, rfl⟩

theorem effect_operatorCall (s : Session) (name : String) (config : ConfigSource)
    (context : Context) (source : OperatorSource) :
    s.Effect call (s.operatorCall digest name config context source).2 := by
  unfold operatorCall
  split
  · exact .of_eq rfl
  · split
    · unfold bindOperator
      split <;> exact .none rfl ⟨rfl, rfl, rfl⟩
    · split
      · exact .of_eq rfl
      · exact effect_bindOperator s name _
    · split
      · exact .of_eq rfl
      · exact effect_bindOperator s name _

theorem effect_cloneOperatorCall (s : Session) (name operator : String) :
    s.Effect call (s.cloneOperatorCall name operator).2 := by
  unfold cloneOperatorCall
  split
  · exact .of_eq rfl
  · exact .none rfl ⟨rfl, rfl, rfl⟩

theorem effect_drainCall (s : Session) (operator : String) :
    s.Effect call (s.drainCall operator).2 := by
  unfold drainCall
  split
  · exact .of_eq rfl
  · exact .none rfl ⟨rfl, rfl, rfl⟩

/-- Every call has one of the effects. -/
theorem effect_stepBy (h : s.Sound digest) (call : Call) :
    s.Effect call (s.stepBy digest call).2 := by
  by_cases hasks : call.asks = true
  · exact .of_eq (snd_stepBy_of_asks s hasks)
  cases call with
  | schema name slots => exact effect_schemaCall s name slots
  | arguments name values => exact effect_argumentsCall h name values
  | dropArguments name => exact effect_dropArgumentsCall s name
  | record name schema parent arguments =>
    cases arguments with
    | none => exact effect_recordCall h rfl .alone
    | some arguments => exact effect_recordOverCall h name schema parent arguments
  | root name schema =>
    refine effect_recordCall h rfl fun hs hv => ?_
    cases hv
    exact .root hs
  | cloneRecord name record => exact effect_cloneRecordCall h name record
  | «alias» name record => exact effect_aliasCall s name record
  | drop record => exact effect_dropCall s record
  | set record binding value => exact effect_setCall h record binding value
  | put record index value => exact effect_putCall h record index value
  | lend record mode => exact effect_lendCall s record mode
  | endLoan => exact effect_endLoanCall s
  | reader name index => exact .none rfl ⟨rfl, rfl, rfl⟩
  | writer name index => exact .none rfl ⟨rfl, rfl, rfl⟩
  | read record accessor => exact effect_readCall s record accessor
  | write record accessor value => exact effect_writeCall h record accessor value
  | cloneReader name accessor => exact effect_cloneReaderCall s name accessor
  | cloneWriter name accessor => exact effect_cloneWriterCall s name accessor
  | operator name config context source => exact effect_operatorCall s name config context source
  | cloneOperator name operator => exact effect_cloneOperatorCall s name operator
  | materialize name operator source => exact effect_materializeCall h name operator source
  | copyInto operator destination source => exact effect_copyIntoCall h operator destination source
  | drain operator => exact effect_drainCall s operator
  | _ => exact absurd rfl hasks

end Session

end LoopScope
