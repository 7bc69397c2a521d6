import LoopScope.Proofs.Session.Profiles
/-!
# Accessors of their own

An accessor that is not part of an operator is executed on one record after the other. It keeps its
slot, and its profile sums up the kinds of the values that it has moved. An execution on a record
that does not have the slot moves nothing and leaves everything as it was.
-/
namespace LoopScope

/-! ## Executions on any records -/

namespace Accessor

/-- One execution of an accessor: it reads its slot of a record, or writes a value there. -/
inductive Execution
  | read (record : Record)
  | write (record : Record) (value : Value)

namespace Execution

/-- The record before. -/
def record : Execution → Record
  | read record | write record _ => record

/-- The value that is moved at a slot, if the record has the slot. -/
def moved? (index : Nat) : Execution → Option Value
  | read record => record.slot? index
  | write record value => if index < record.length then some value else none

/-- The record afterwards, if it has the slot. -/
def after (index : Nat) : Execution → Record
  | read record => record
  | write record value => { record with slots := record.slots.set index value }

end Execution

variable {a : Accessor} {e : Execution} {value : Value}

/-- The value that is moved or the failure, the record afterwards, and the accessor afterwards. -/
def execute (a : Accessor) : Execution → Except ScopeError Value × Record × Accessor
  | .read record =>
    match a.read record with
    | .ok (value, a) => (.ok value, record, a)
    | .error e => (.error e, record, a)
  | .write record value =>
    match a.write record value with
    | .ok (changed, a) => (.ok value, changed, a)
    | .error e => (.error e, record, a)

/-- The accessor after executions in order. -/
def executeAll (a : Accessor) (executions : List Execution) : Accessor :=
  executions.foldl (fun a e => (a.execute e).2.2) a

theorem read_of_slot {record : Record} (h : record.slot? a.index = some value) :
    a.read record = .ok (value, a.observe value) := by
  rw [read, h]

theorem read_of_short {record : Record} (h : record.slot? a.index = none) :
    a.read record = .error (.missingSlot a.index) := by
  rw [read, h]

theorem write_of_lt {record : Record} (h : a.index < record.length) (value : Value) :
    a.write record value =
      .ok ({ record with slots := record.slots.set a.index value }, a.observe value) := by
  rw [write, Record.assign?, if_pos h]

theorem write_of_short {record : Record} (h : ¬ a.index < record.length) (value : Value) :
    a.write record value = .error (.missingSlot a.index) := by
  rw [write, Record.assign?, if_neg h]

theorem execute_of_moved (h : e.moved? a.index = some value) :
    a.execute e = (.ok value, e.after a.index, a.observe value) := by
  cases e with
  | read record =>
    rw [execute, read_of_slot h]
    rfl
  | write record given =>
    obtain ⟨hlt, hgiven⟩ := Option.ite_none_right_eq_some.mp h
    cases hgiven
    rw [execute, write_of_lt hlt]
    rfl

theorem execute_of_missing (h : e.moved? a.index = none) :
    a.execute e = (.error (.missingSlot a.index), e.record, a) := by
  cases e with
  | read record =>
    rw [execute, read_of_short h]
    rfl
  | write record given =>
    have hshort : ¬ a.index < record.length := by simpa [Execution.moved?] using h
    rw [execute, write_of_short hshort]
    rfl

/-- After any executions the accessor has moved just what was there to be moved. -/
theorem executeAll_eq (a : Accessor) (executions : List Execution) :
    a.executeAll executions =
      a.observeAll ((executions.filterMap (Execution.moved? a.index)).map Value.kind) := by
  induction executions generalizing a with
  | nil => rfl
  | cons e executions ih =>
    have hstep : a.executeAll (e :: executions) = (a.execute e).2.2.executeAll executions := rfl
    cases hmoved : e.moved? a.index with
    | none => rw [hstep, execute_of_missing hmoved, ih, List.filterMap_cons_none hmoved]
    | some value =>
      rw [hstep, execute_of_moved hmoved, ih, List.filterMap_cons_some hmoved]
      rfl

end Accessor

/-! ## Accessors with names of their own -/

/-- Which way an accessor moves values. -/
inductive Direction
  | reading
  | writing
deriving DecidableEq

namespace Direction

/-- The accessors that have names of their own. -/
def accessors : Direction → Session → Table Accessor
  | reading, s => s.readers
  | writing, s => s.writers

/-- The session with an accessor under a name. -/
def put : Direction → Session → String → Accessor → Session
  | reading, s, name, a => { s with readers := s.readers.insert name a }
  | writing, s, name, a => { s with writers := s.writers.insert name a }

/-- The name that a call gives to a new accessor. -/
def named? : Direction → Call → Option String
  | reading, .reader name _ | reading, .cloneReader name _ => some name
  | writing, .writer name _ | writing, .cloneWriter name _ => some name
  | _, _ => none

/-- The name of the accessor that a call executes. -/
def executed? : Direction → Call → Option String
  | reading, .read _ (.standalone name) => some name
  | writing, .write _ (.standalone name) _ => some name
  | _, _ => none

/-- A record that is lent like this lets the accessor in. -/
def Admits : Direction → Guard → Prop
  | reading, guard => guard ≠ .exclusive
  | writing, guard => guard = .free

variable (d other : Direction) (s : Session) (name : String) (a : Accessor)

theorem get?_put_self : (d.accessors (d.put s name a)).get? name = some a := by
  cases d <;> exact Table.get?_insert_self _ _ _

/-- An accessor that is put back as it was found changes no name. -/
theorem get?_put_of_get? {a : Accessor} {name : String} (h : (d.accessors s).get? name = some a)
    (found : String) :
    (other.accessors (d.put s name a)).get? found = (other.accessors s).get? found := by
  have hsame (t : Table Accessor) (ht : t.get? name = some a) :
      (t.insert name a).get? found = t.get? found := by
    by_cases he : found = name
    · rw [he, Table.get?_insert_self, ht]
    · exact Table.get?_insert_of_ne t a he
  cases d with
  | reading =>
    cases other with
    | reading => exact hsame _ h
    | writing => rfl
  | writing =>
    cases other with
    | reading => rfl
    | writing => exact hsame _ h

end Direction

namespace Session

variable {digest : Layout.DigestFunction} {s t : Session} {call : Call} {calls : List Call}
  {answer : Answer} {d : Direction} {name : String} {a : Accessor}

/-- The record that a call executes an accessor on, and the execution. -/
def execution? (s : Session) : Call → Option (RecordId × Accessor.Execution)
  | .read record _ =>
    (s.records.get? record).bind fun r =>
      (s.store.content? r).map fun content => (r, .read content.1)
  | .write record _ operand =>
    (s.records.get? record).bind fun r => (s.store.content? r).bind fun content =>
      (s.operand? operand).map fun value => (r, .write content.1 value)
  | _ => none

/-- The value that an accessor has moved, by the answer. -/
def moved? (s : Session) : Call → Answer → Option Value
  | .read _ _, .moved _ (.ok value) => value
  | .write _ _ operand, .moved _ (.ok _) => s.operand? operand
  | _, _ => none

/-- The kind of the value that a call has moved through the accessor of a name. -/
def movedKinds (d : Direction) (name : String) (s : Session) (call : Call) (answer : Answer) :
    List ValueKind :=
  if d.executed? call = some name then (s.moved? call answer).toList.map Value.kind else []

/-- How a call is answered that executes the accessor `a` of a name, and the session afterwards. -/
inductive Executes (s : Session) (d : Direction) (name : String) (a : Accessor) :
    Call → Answer → Session → Prop
  | unbound {call : Call} (missing : s.execution? call = none) :
      Executes s d name a call .unbound s
  | busy {call : Call} {r : RecordId} {e : Accessor.Execution} {guard : Guard}
      (on : s.execution? call = some (r, e)) (content : s.store.content? r = some (e.record, guard))
      (lent : ¬ d.Admits guard) : Executes s d name a call (.failed .recordBusy) s
  | missed {call : Call} {r : RecordId} {e : Accessor.Execution} {guard : Guard}
      (on : s.execution? call = some (r, e)) (content : s.store.content? r = some (e.record, guard))
      (admitted : d.Admits guard) (short : e.moved? a.index = none) :
      Executes s d name a call (.moved a (.error (.missingSlot a.index))) (d.put s name a)
  | read {named : String} {accessor : AccessorName} {r : RecordId} {record : Record} {guard : Guard}
      {value : Value} (on : s.execution? (.read named accessor) = some (r, .read record))
      (content : s.store.content? r = some (record, guard)) (admitted : d.Admits guard)
      (slot : record.slot? a.index = some value) :
      Executes s d name a (.read named accessor) (.moved (a.observe value) (.ok (some value)))
        (d.put s name (a.observe value))
  | written {named : String} {accessor : AccessorName} {operand : Operand} {r : RecordId}
      {record : Record} {guard : Guard} {value : Value} (given : s.operand? operand = some value)
      (on : s.execution? (.write named accessor operand) = some (r, .write record value))
      (content : s.store.content? r = some (record, guard)) (admitted : d.Admits guard)
      (slot : a.index < record.length) :
      Executes s d name a (.write named accessor operand) (.moved (a.observe value) (.ok none))
        (d.put { s with store := s.store.putSlots r (record.slots.set a.index value) } name
          (a.observe value))

/-- All is as it was, and all names of accessors stand for what they stood for. -/
structure Untouched (t s : Session) : Prop where
  rest : t = { s with readers := t.readers, writers := t.writers }
  accessors : ∀ (d : Direction) (name : String),
    (d.accessors t).get? name = (d.accessors s).get? name

/-! ## Calls that execute the accessor -/

/-! The record is looked up before the accessor is asked, so a busy record hides a missing slot. -/

theorem executes_readCall (h : s.Sound digest) (ha : s.readers.get? name = some a)
    (record : String) :
    s.Executes .reading name a (.read record (.standalone name))
      (s.readCall record (.standalone name)).1 (s.readCall record (.standalone name)).2 := by
  have haccessor : s.readAccessor? (.standalone name) = some a := ha
  cases hr : s.records.get? record with
  | none =>
    simp only [readCall, hr]
    exact .unbound (by simp only [execution?, hr, Option.bind_none])
  | some r =>
    obtain ⟨content, guard, hc⟩ := h.exists_content (hasHandle_of_name hr)
    have hon : s.execution? (.read record (.standalone name)) = some (r, .read content) := by
      simp only [execution?, hr, hc, Option.bind_some, Option.map_some]
    by_cases hguard : guard = .exclusive
    · have hread : s.store.toRead r = .error .recordBusy := by
        rw [Store.toRead_of_content? hc, if_pos hguard]
      simp only [readCall, hr, haccessor, Store.readThrough, hread]
      exact .busy hon hc fun hadmits => hadmits hguard
    · have hread : s.store.toRead r = .ok content := by
        rw [Store.toRead_of_content? hc, if_neg hguard]
      cases hslot : content.slot? a.index with
      | none =>
        simp only [readCall, hr, haccessor, Store.readThrough, hread, Accessor.read_of_short hslot]
        exact .missed hon hc hguard hslot
      | some value =>
        simp only [readCall, hr, haccessor, Store.readThrough, hread, Accessor.read_of_slot hslot]
        exact .read hon hc hguard hslot

theorem executes_writeCall (h : s.Sound digest) (ha : s.writers.get? name = some a)
    (record : String) (operand : Operand) :
    s.Executes .writing name a (.write record (.standalone name) operand)
      (s.writeCall record (.standalone name) operand).1
      (s.writeCall record (.standalone name) operand).2 := by
  have haccessor : s.writeAccessor? (.standalone name) = some a := ha
  cases hr : s.records.get? record with
  | none =>
    simp only [writeCall, hr]
    exact .unbound (by simp only [execution?, hr, Option.bind_none])
  | some r =>
    obtain ⟨content, guard, hc⟩ := h.exists_content (hasHandle_of_name hr)
    cases hv : s.operand? operand with
    | none =>
      simp only [writeCall, hr, haccessor, hv]
      exact .unbound (by simp only [execution?, hr, hc, hv, Option.bind_some, Option.map_none])
    | some value =>
      have hon : s.execution? (.write record (.standalone name) operand) =
          some (r, .write content value) := by
        simp only [execution?, hr, hc, hv, Option.bind_some, Option.map_some]
      by_cases hguard : guard = .free
      · have hwrite : s.store.toWrite r = .ok content := by
          rw [Store.toWrite_of_content? hc, if_pos hguard]
        by_cases hslot : a.index < content.length
        · simp only [writeCall, hr, haccessor, hv, Store.writeThrough, hwrite,
            Accessor.write_of_lt hslot]
          exact .written hv hon hc hguard hslot
        · simp only [writeCall, hr, haccessor, hv, Store.writeThrough, hwrite,
            Accessor.write_of_short hslot]
          exact .missed hon hc hguard (if_neg hslot)
      · have hwrite : s.store.toWrite r = .error .recordBusy := by
          rw [Store.toWrite_of_content? hc, if_neg hguard]
        simp only [writeCall, hr, haccessor, hv, Store.writeThrough, hwrite]
        exact .busy hon hc hguard

theorem executes_stepBy (h : s.Sound digest) (ha : (d.accessors s).get? name = some a)
    (hcall : d.executed? call = some name) :
    s.Executes d name a call (s.stepBy digest call).1 (s.stepBy digest call).2 := by
  cases d with
  | reading =>
    cases call with
    | read record accessor =>
      cases accessor with
      | standalone found =>
        cases hcall
        exact executes_readCall h ha record
      | ofOperator operator position => cases hcall
    | _ => cases hcall
  | writing =>
    cases call with
    | write record accessor operand =>
      cases accessor with
      | standalone found =>
        cases hcall
        exact executes_writeCall h ha record operand
      | ofOperator operator position => cases hcall
    | _ => cases hcall

theorem moved?_unbound (s : Session) (call : Call) : s.moved? call .unbound = none := by
  cases call <;> rfl

theorem moved?_failed (s : Session) (call : Call) (e : ScopeError) :
    s.moved? call (.failed e) = none := by
  cases call <;> rfl

theorem moved?_missed (s : Session) (call : Call) (a : Accessor) (e : ScopeError) :
    s.moved? call (.moved a (.error e)) = none := by
  cases call <;> rfl

/-- What an execution leaves of the accessor. -/
theorem Executes.get?_self (h : s.Executes d name a call answer t)
    (ha : (d.accessors s).get? name = some a) (hcall : d.executed? call = some name) :
    (d.accessors t).get? name = some (a.observeAll (movedKinds d name s call answer)) := by
  rw [movedKinds, if_pos hcall]
  cases h with
  | unbound missing =>
    rw [moved?_unbound]
    exact ha
  | busy on content lent =>
    rw [moved?_failed]
    exact ha
  | missed on content admitted short =>
    rw [Direction.get?_put_self, moved?_missed]
    rfl
  | read on content admitted slot =>
    rw [Direction.get?_put_self]
    rfl
  | written given on content admitted slot =>
    rw [Direction.get?_put_self, moved?, given]
    rfl

/-- An execution that finds no slot changes nothing. -/
theorem Executes.untouched_of_missed {used : Accessor} {e : ScopeError}
    (h : s.Executes d name a call (.moved used (.error e)) t)
    (ha : (d.accessors s).get? name = some a) :
    e = .missingSlot a.index ∧ used = a ∧ t.Untouched s := by
  cases h with
  | missed on content admitted short =>
    refine ⟨rfl, rfl, ?_, fun other found => d.get?_put_of_get? other s ha found⟩
    cases d <;> rfl

/-! ## Other calls -/

theorem KeepsAccessors.accessors_eq (h : t.KeepsAccessors s) (d : Direction) :
    d.accessors t = d.accessors s := by
  cases d with
  | reading => exact h.readers
  | writing => exact h.writers

theorem keepsAccessors_bindOperator (s : Session) (name : String)
    (op : Except ScopeError Operator) : (s.bindOperator name op).2.KeepsAccessors s := by
  cases op <;> exact ⟨rfl, rfl⟩

theorem keepsAccessors_operatorCall (s : Session) (name : String) (config : ConfigSource)
    (context : Context) (source : OperatorSource) :
    (s.operatorCall digest name config context source).2.KeepsAccessors s := by
  unfold operatorCall
  split
  · exact .refl s
  · split
    · obtain ⟨hreaders, hwriters⟩ := keepsAccessors_bindOperator
        { s with nextSchema := s.nextSchema + 1 } name (Operator.ofSlotsBy digest s.nextSchema _ _ _)
      exact ⟨hreaders, hwriters⟩
    · split
      · exact .refl s
      · exact keepsAccessors_bindOperator s name _
    · split
      · exact .refl s
      · exact keepsAccessors_bindOperator s name _

/-- A call that neither makes nor executes an accessor with a name of its own. -/
theorem keepsAccessors_stepBy (s : Session) (huses : call.usesAccessors = false) :
    (s.stepBy digest call).2.KeepsAccessors s := by
  by_cases htools : call.layout? = none ∧ call.operatorName? = none ∧ call.operated? = none
  · obtain ⟨hlayout, hbound, hoperated⟩ := htools
    exact (keepsTools_stepBy s hlayout hbound hoperated huses).toKeepsAccessors
  cases call with
  | schema name slots =>
    simp only [stepBy, schemaCall]
    split <;> exact ⟨rfl, rfl⟩
  | read record accessor =>
    cases accessor with
    | standalone found => cases huses
    | ofOperator operator position =>
      simp only [stepBy, readCall, putReadAccessor]
      split
      · split
        · exact .refl s
        · split <;> exact ⟨rfl, rfl⟩
      · exact .refl s
  | write record accessor value =>
    cases accessor with
    | standalone found => cases huses
    | ofOperator operator position =>
      simp only [stepBy, writeCall, putWriteAccessor]
      split
      · split
        · exact .refl s
        · split <;> exact ⟨rfl, rfl⟩
      · exact .refl s
  | operator name config context source =>
    exact keepsAccessors_operatorCall s name config context source
  | cloneOperator name operator =>
    simp only [stepBy, cloneOperatorCall]
    split <;> exact ⟨rfl, rfl⟩
  | materialize name operator source =>
    simp only [stepBy, materializeCall]
    split
    · split <;> exact ⟨rfl, rfl⟩
    · exact .refl s
  | copyInto operator destination source =>
    simp only [stepBy, copyIntoCall]
    split
    · split <;> exact ⟨rfl, rfl⟩
    · exact .refl s
  | drain operator =>
    simp only [stepBy, drainCall]
    split <;> exact ⟨rfl, rfl⟩
  | _ => exact absurd ⟨rfl, rfl, rfl⟩ htools

/-- A call leaves the accessors of a direction alone, or puts one under the name that it is about. -/
theorem accessors_stepBy (s : Session) (call : Call) (d : Direction) :
    d.accessors (s.stepBy digest call).2 = d.accessors s ∨
      ∃ found a, (d.named? call = some found ∨ d.executed? call = some found) ∧
        d.accessors (s.stepBy digest call).2 = (d.accessors s).insert found a := by
  by_cases huses : call.usesAccessors = false
  · exact .inl ((keepsAccessors_stepBy s huses).accessors_eq d)
  cases call with
  | reader found index =>
    cases d with
    | reading => exact .inr ⟨found, _, .inl rfl, rfl⟩
    | writing => exact .inl rfl
  | writer found index =>
    cases d with
    | reading => exact .inl rfl
    | writing => exact .inr ⟨found, _, .inl rfl, rfl⟩
  | cloneReader found accessor =>
    simp only [stepBy, cloneReaderCall]
    split
    · exact .inl rfl
    · cases d with
      | reading => exact .inr ⟨found, _, .inl rfl, rfl⟩
      | writing => exact .inl rfl
  | cloneWriter found accessor =>
    simp only [stepBy, cloneWriterCall]
    split
    · exact .inl rfl
    · cases d with
      | reading => exact .inl rfl
      | writing => exact .inr ⟨found, _, .inl rfl, rfl⟩
  | read record accessor =>
    cases accessor with
    | standalone found =>
      simp only [stepBy, readCall, putReadAccessor]
      split
      · split
        · exact .inl rfl
        · cases d with
          | reading => exact .inr ⟨found, _, .inr rfl, rfl⟩
          | writing => exact .inl rfl
      · exact .inl rfl
    | ofOperator operator position => exact absurd rfl huses
  | write record accessor operand =>
    cases accessor with
    | standalone found =>
      simp only [stepBy, writeCall, putWriteAccessor]
      split
      · split
        · exact .inl rfl
        · cases d with
          | reading => exact .inl rfl
          | writing => exact .inr ⟨found, _, .inr rfl, rfl⟩
      · exact .inl rfl
    | ofOperator operator position => exact absurd rfl huses
  | _ => exact absurd rfl huses

theorem get?_of_elsewhere (s : Session) (hnamed : d.named? call ≠ some name)
    (hexecuted : d.executed? call ≠ some name) :
    (d.accessors (s.stepBy digest call).2).get? name = (d.accessors s).get? name := by
  rcases s.accessors_stepBy call d with hkept | ⟨found, a, hcall, hput⟩
  · rw [hkept]
  · rw [hput]
    refine Table.get?_insert_of_ne _ a ?_
    rintro rfl
    rcases hcall with hcall | hcall
    · exact hnamed hcall
    · exact hexecuted hcall

/-! ## Runs -/

/-- A call changes the accessor of a name by what it moves through it, and in no other way. -/
theorem get?_stepBy (h : s.Sound digest) (ha : (d.accessors s).get? name = some a)
    (hnamed : d.named? call ≠ some name) :
    (d.accessors (s.stepBy digest call).2).get? name =
      some (a.observeAll (movedKinds d name s call (s.stepBy digest call).1)) := by
  by_cases hcall : d.executed? call = some name
  · exact (executes_stepBy h ha hcall).get?_self ha hcall
  · rw [get?_of_elsewhere s hnamed hcall, ha, movedKinds, if_neg hcall]
    rfl

theorem get?_runBy (h : s.Sound digest) (ha : (d.accessors s).get? name = some a)
    (hnamed : ∀ call ∈ calls, d.named? call ≠ some name) :
    (d.accessors (s.runBy digest calls)).get? name =
      some (a.observeAll (s.collect digest (movedKinds d name) calls)) := by
  induction calls generalizing s a with
  | nil => exact ha
  | cons call calls ih =>
    have hfirst := get?_stepBy h ha (hnamed call List.mem_cons_self)
    have hrest := ih (h.stepBy call) hfirst fun later hm => hnamed later (List.mem_cons_of_mem _ hm)
    rw [runBy_cons, hrest, collect, Accessor.observeAll_append]

/-- A new accessor has moved nothing. -/
theorem fresh_of_named (s : Session) (hcall : d.named? call = some name)
    (hbound : (s.stepBy digest call).1 ≠ .unbound) :
    ∃ index, (d.accessors (s.stepBy digest call).2).get? name = some (.fresh index) := by
  cases d with
  | reading =>
    cases call with
    | reader found index =>
      cases hcall
      exact ⟨index, Table.get?_insert_self _ _ _⟩
    | cloneReader found accessor =>
      cases hcall
      simp only [stepBy, cloneReaderCall] at hbound ⊢
      split at hbound
      · exact (hbound rfl).elim
      · exact ⟨_, Table.get?_insert_self _ _ _⟩
    | _ => cases hcall
  | writing =>
    cases call with
    | writer found index =>
      cases hcall
      exact ⟨index, Table.get?_insert_self _ _ _⟩
    | cloneWriter found accessor =>
      cases hcall
      simp only [stepBy, cloneWriterCall] at hbound ⊢
      split at hbound
      · exact (hbound rfl).elim
      · exact ⟨_, Table.get?_insert_self _ _ _⟩
    | _ => cases hcall

/-! ## The law of summaries -/

/-- What a sequence of kinds amounts to is told by the set of its kinds: nothing for none, the kind
for one, and all else for several. A profile never goes back. An accessor keeps its slot, whatever
records it is executed on, and observes just what it moves: the executions that are answered with a
missing slot change neither it nor the record. So the profile of an accessor with a name of its own
is, at any time, the summary of the kinds of the values that calls have moved through it. -/
theorem profile_sums_up_moves (hs : s.Reachable digest) :
    (∀ kinds, Profile.uninitialized.observeAll kinds = Profile.summary kinds ∧
      (Profile.summary kinds = .uninitialized ↔ kinds = []) ∧
      (∀ k, Profile.summary kinds = .monomorphic k ↔ kinds ≠ [] ∧ ∀ kind ∈ kinds, kind = k) ∧
      (Profile.summary kinds = .generic ↔ ∃ a ∈ kinds, ∃ b ∈ kinds, a ≠ b)) ∧
    (∀ (p : Profile) (kinds others : List ValueKind), (∀ kind, kind ∈ kinds ↔ kind ∈ others) →
      p.observeAll kinds = p.observeAll others) ∧
    (∀ (p : Profile) kinds, p ≤ p.observeAll kinds ∧ (p.trail kinds).Pairwise (· ≤ ·)) ∧
    (∀ k, Profile.uninitialized < .monomorphic k ∧ Profile.monomorphic k < .generic) ∧
    (∀ kinds, Profile.generic.observeAll kinds = .generic) ∧
    (∀ (a : Accessor) (e : Accessor.Execution), a.execute e = match e.moved? a.index with
      | some value => (.ok value, e.after a.index, a.observe value)
      | none => (.error (.missingSlot a.index), e.record, a)) ∧
    (∀ (a : Accessor) (executions : List Accessor.Execution),
      (a.executeAll executions).index = a.index ∧
      (a.executeAll executions).profile = a.profile.observeAll
        ((executions.filterMap (Accessor.Execution.moved? a.index)).map Value.kind)) ∧
    ∀ (d : Direction) (name : String),
      (∀ call, d.named? call = some name → (s.stepBy digest call).1 ≠ .unbound →
        ∃ index, (d.accessors (s.stepBy digest call).2).get? name = some (.fresh index) ∧
          ∀ calls, (∀ later ∈ calls, d.named? later ≠ some name) →
            (d.accessors ((s.stepBy digest call).2.runBy digest calls)).get? name =
              some ⟨index, .summary
                ((s.stepBy digest call).2.collect digest (movedKinds d name) calls)⟩) ∧
      ∀ a, (d.accessors s).get? name = some a →
        (∀ calls, (∀ call ∈ calls, d.named? call ≠ some name) →
          (d.accessors (s.runBy digest calls)).get? name =
            some (a.observeAll (s.collect digest (movedKinds d name) calls))) ∧
        ∀ call, d.executed? call = some name →
          s.Executes d name a call (s.stepBy digest call).1 (s.stepBy digest call).2 ∧
          ∀ used failure, (s.stepBy digest call).1 = .moved used (.error failure) →
            failure = .missingSlot a.index ∧ used = a ∧ (s.stepBy digest call).2.Untouched s := by
  have hsound := sound_of_reachable hs
  refine ⟨?_, fun p kinds others => p.observeAll_congr, ?_, ?_, ?_, ?_, ?_, ?_⟩
  · intro kinds
    rw [← Profile.observeAll_eq_summary]
    exact ⟨rfl, Profile.observeAll_eq_uninitialized_iff,
      fun k => Profile.observeAll_eq_monomorphic_iff, Profile.observeAll_eq_generic_iff⟩
  · exact fun p kinds => ⟨p.le_observeAll kinds, p.pairwise_trail kinds⟩
  · exact fun k => ⟨Profile.uninitialized_lt_monomorphic k, Profile.monomorphic_lt_generic k⟩
  · exact fun kinds => Profile.generic_le_iff.mp (Profile.generic.le_observeAll kinds)
  · intro a e
    cases hmoved : e.moved? a.index with
    | none => exact Accessor.execute_of_missing hmoved
    | some value => exact Accessor.execute_of_moved hmoved
  · intro a executions
    rw [a.executeAll_eq executions]
    exact ⟨rfl, rfl⟩
  · intro d name
    constructor
    · intro call hcall hbound
      obtain ⟨index, hfresh⟩ := fresh_of_named s hcall hbound
      refine ⟨index, hfresh, fun calls hnamed => ?_⟩
      rw [get?_runBy (hsound.stepBy call) hfresh hnamed, ← Profile.observeAll_eq_summary]
      rfl
    · intro a ha
      refine ⟨fun calls hnamed => get?_runBy hsound ha hnamed, fun call hcall => ?_⟩
      have hexecutes := executes_stepBy hsound ha hcall
      refine ⟨hexecutes, fun used failure hanswer => ?_⟩
      rw [hanswer] at hexecutes
      exact hexecutes.untouched_of_missed ha

/-- Two records of two slots, and an accessor of a third slot. -/
def outsideSample : Session :=
  runBy (fun _ => []) (empty true) (sampleCalls ++ [.writer "outside" 2])

/-- The client executes one accessor on both records, and the other one as well. -/
def executingCalls : List Call :=
  [.write "second" (.standalone "inside") (.value (.bool true)),
    .write "second" (.standalone "outside") (.value .null),
    .write "first" (.standalone "inside") (.value (.bool false))]

theorem profile_sums_up_moves_sample :
    (∃ failed : Session, outsideSample.stepBy (fun _ => [])
        (.write "second" (.standalone "outside") (.value .null)) =
          (.moved (.fresh 2) (.error (.missingSlot 2)), failed) ∧
      failed.Untouched outsideSample) ∧
    ((outsideSample.stepBy (fun _ => []) (.writer "inside" 1)).2.runBy (fun _ => [])
      executingCalls).writers.get? "inside" = some ⟨1, .monomorphic .boolean⟩ := by
  have hreachable : outsideSample.Reachable fun _ => [] := ⟨_, _, rfl⟩
  obtain ⟨-, -, -, -, -, -, -, hnames⟩ := profile_sums_up_moves hreachable
  constructor
  · have houtside : outsideSample.writers.get? "outside" = some (.fresh 2) := by cbv
    have hanswer : (outsideSample.stepBy (fun _ => [])
        (.write "second" (.standalone "outside") (.value .null))).1 =
          .moved (.fresh 2) (.error (.missingSlot 2)) := by cbv
    obtain ⟨-, hcalls⟩ := (hnames .writing "outside").2 _ houtside
    obtain ⟨-, hmissed⟩ := hcalls (.write "second" (.standalone "outside") (.value .null)) rfl
    exact ⟨_, Prod.ext hanswer rfl, (hmissed _ _ hanswer).2.2⟩
  · have hbound : (outsideSample.stepBy (fun _ => []) (.writer "inside" 1)).1 ≠ .unbound := by
      intro h
      cases h
    obtain ⟨index, hfresh, hruns⟩ := (hnames .writing "inside").1 (.writer "inside" 1) rfl hbound
    have hmade : (outsideSample.stepBy (fun _ => []) (.writer "inside" 1)).2.writers.get?
        "inside" = some (.fresh 1) := by cbv
    cases hmade.symm.trans hfresh
    have hkinds : (outsideSample.stepBy (fun _ => []) (.writer "inside" 1)).2.collect
        (fun _ => []) (movedKinds .writing "inside") executingCalls = [.boolean, .boolean] := by cbv
    have hrun := hruns executingCalls (by decide)
    rw [hkinds] at hrun
    exact hrun

end Session

end LoopScope
