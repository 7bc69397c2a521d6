import LoopScope.Proofs.Session.Invariant
/-!
# Runs

What a whole sequence of calls leaves of one record, one name or one operator, as long as no call
of the sequence touches it. Records are numbered in the order in which they are made, so a record
that was there before a run is not one that the run makes.
-/
namespace LoopScope.Session

variable {digest : Layout.DigestFunction} {s t : Session} {call : Call} {calls : List Call}
  {r : RecordId} {record : Record} {guard : Guard} {name : String}

/-- Something holds of every call of a run and the session that the call is made in. -/
def Along (digest : Layout.DigestFunction) (P : Session → Call → Prop) (s : Session) :
    List Call → Prop
  | [] => True
  | call :: calls => P s call ∧ Along digest P (s.stepBy digest call).2 calls

/-- What the calls of a run and their answers give, one after the other. -/
def collect {α : Type} (digest : Layout.DigestFunction) (f : Session → Call → Answer → List α)
    (s : Session) : List Call → List α
  | [] => []
  | call :: calls =>
    f s call (s.stepBy digest call).1 ++ collect digest f (s.stepBy digest call).2 calls

theorem collect_congr {α : Type} {f g : Session → Call → Answer → List α}
    (h : ∀ call ∈ calls, ∀ u answer, f u call answer = g u call answer) :
    collect digest f s calls = collect digest g s calls := by
  induction calls generalizing s with
  | nil => rfl
  | cons call calls ih =>
    have hrest := fun later hm => h later (List.mem_cons_of_mem _ hm)
    rw [collect, collect, h call List.mem_cons_self, ih hrest]

theorem mem_collect {α : Type} {f : Session → Call → Answer → List α} {a : α}
    (h : a ∈ collect digest f s calls) : ∃ u call answer, call ∈ calls ∧ a ∈ f u call answer := by
  induction calls generalizing s with
  | nil => cases h
  | cons call calls ih =>
    rcases List.mem_append.mp h with h | h
    · exact ⟨s, call, _, List.mem_cons_self, h⟩
    · obtain ⟨u, later, answer, hm, ha⟩ := ih h
      exact ⟨u, later, answer, List.mem_cons_of_mem _ hm, ha⟩

/-! ## Numbers of records -/

/-- No number of a record is given back. -/
theorem Effect.next_le (he : s.Effect call t) :
    s.store.records.next ≤ t.store.records.next := by
  cases he with
  | none store keeps => exact Nat.le_of_eq (by rw [store])
  | assign target content length live parent store keeps =>
    exact Nat.le_of_eq (by rw [store, Store.nextRecord_putSlots])
  | make bound made live store records arguments loans =>
    rw [store, Store.nextRecord_release, Store.nextRecord_create]
    exact Nat.le_succ _
  | makeAlone bound made live store records arguments loans =>
    rw [store, Store.nextRecord_release, Store.nextRecord_createAlone]
    exact Nat.le_succ _
  | share bound handle store records arguments loans =>
    exact Nat.le_of_eq (by rw [store, Store.nextRecord_release, Store.nextRecord_retain])
  | drop bound named store records arguments loans =>
    exact Nat.le_of_eq (by rw [store, Store.nextRecord_release])
  | makeArguments live store records arguments loans =>
    exact Nat.le_of_eq (by rw [store, Store.nextRecord_release, Store.nextRecord_createArguments])
  | dropArguments named store records arguments loans =>
    exact Nat.le_of_eq (by rw [store, Store.nextRecord_release])
  | lend store records arguments loans => exact Nat.le_of_eq (Store.nextRecord_lend store).symm
  | endLoan opened store records arguments =>
    exact Nat.le_of_eq (by rw [store, Store.nextRecord_giveBack])

theorem next_le_runBy (h : s.Sound digest) (calls : List Call) :
    s.store.records.next ≤ (s.runBy digest calls).store.records.next := by
  induction calls generalizing s with
  | nil => exact Nat.le_refl _
  | cons call calls ih =>
    exact Nat.le_trans (effect_stepBy h call).next_le (ih (h.stepBy call))

/-- The record that a name stands for was made. -/
theorem Sound.lt_next (h : s.Sound digest) (hr : s.HasHandle r) :
    r.number < s.store.records.next := by
  obtain ⟨record, guard, hc⟩ := h.exists_content hr
  exact Store.lt_next_of_content? hc

/-! ## One record -/

/-- A record that was made before keeps its schema, its argument list and its number of slots. -/
structure SameShape (record old : Record) : Prop where
  schema : record.schema = old.schema
  arguments : record.arguments = old.arguments
  length : record.slots.length = old.slots.length

theorem SameShape.refl (record : Record) : SameShape record record := ⟨rfl, rfl, rfl⟩

theorem SameShape.trans {a b c : Record} (h : SameShape a b) (h' : SameShape b c) :
    SameShape a c :=
  ⟨h.schema.trans h'.schema, h.arguments.trans h'.arguments, h.length.trans h'.length⟩

theorem SameShape.conformsTo {record old : Record} (h : SameShape record old)
    (schema : SharedSchema) : record.conformsTo schema = old.conformsTo schema := by
  rw [Record.conformsTo, Record.conformsTo, Record.length, Record.length, h.schema, h.length]

theorem Provenance.sameShape (hp : s.Provenance call r record)
    (hr : r.number < s.store.records.next) :
    ∃ old guard, s.store.content? r = some (old, guard) ∧ SameShape record old := by
  cases hp with
  | kept content => exact ⟨record, _, content, .refl record⟩
  | @assigned old slots target content record_eq length parent =>
    refine ⟨old, _, content, ?_⟩
    rw [record_eq]
    exact ⟨rfl, rfl, length⟩
  | made fresh made =>
    rw [fresh] at hr
    exact (Nat.lt_irrefl _ hr).elim

theorem Provenance.unwritten (hp : s.Provenance call r record)
    (hr : r.number < s.store.records.next) (hcall : s.written? call ≠ some r) :
    ∃ guard, s.store.content? r = some (record, guard) := by
  cases hp with
  | kept content => exact ⟨_, content⟩
  | assigned target content record_eq length parent => exact (hcall target).elim
  | made fresh made =>
    rw [fresh] at hr
    exact (Nat.lt_irrefl _ hr).elim

theorem sameShape_runBy (h : s.Sound digest) (calls : List Call)
    (hr : r.number < s.store.records.next)
    (hc : (s.runBy digest calls).store.content? r = some (record, guard)) :
    ∃ old before, s.store.content? r = some (old, before) ∧ SameShape record old := by
  induction calls generalizing s with
  | nil => exact ⟨record, guard, hc, .refl record⟩
  | cons call calls ih =>
    have he := effect_stepBy h call
    obtain ⟨middle, between, hmiddle, hlater⟩ :=
      ih (h.stepBy call) (Nat.lt_of_lt_of_le hr he.next_le) hc
    obtain ⟨old, before, hold, hsame⟩ := (he.provenance hmiddle).sameShape hr
    exact ⟨old, before, hold, hlater.trans hsame⟩

/-- A record that no call of a run writes to is as it was. -/
theorem unwritten_runBy (h : s.Sound digest) (hr : r.number < s.store.records.next)
    (hspared : Along digest (fun u call => u.written? call ≠ some r) s calls)
    (hc : (s.runBy digest calls).store.content? r = some (record, guard)) :
    ∃ before, s.store.content? r = some (record, before) := by
  induction calls generalizing s with
  | nil => exact ⟨guard, hc⟩
  | cons call calls ih =>
    have he := effect_stepBy h call
    obtain ⟨between, hmiddle⟩ :=
      ih (h.stepBy call) (Nat.lt_of_lt_of_le hr he.next_le) hspared.2 hc
    exact (he.provenance hmiddle).unwritten hr hspared.1

/-! ## One name -/

theorem get?_records_runBy (h : s.Sound digest)
    (hkept : ∀ call ∈ calls, call.recordName? ≠ some name) :
    (s.runBy digest calls).records.get? name = s.records.get? name := by
  induction calls generalizing s with
  | nil => rfl
  | cons call calls ih =>
    have hrest := ih (h.stepBy call) fun other hm => hkept other (List.mem_cons_of_mem _ hm)
    rw [runBy_cons, hrest]
    exact (effect_stepBy h call).get?_records (hkept call List.mem_cons_self)

/-! ## One operator -/

/-- A run takes the operator of a name from one state to another, by one use after the other. -/
inductive UseRun (digest : Layout.DigestFunction) (name : String) :
    Session → List Call → Operator → Operator → Prop
  | nil {s : Session} {op : Operator} : UseRun digest name s [] op op
  | cons {s : Session} {call : Call} {calls : List Call} {op first used : Operator}
      (use : s.Use name op call (s.stepBy digest call).1 first)
      (rest : UseRun digest name (s.stepBy digest call).2 calls first used) :
      UseRun digest name s (call :: calls) op used

/-- An operator whose name is not given to another one is used, and nothing else. -/
theorem exists_useRun (h : s.Sound digest)
    (hkept : ∀ call ∈ calls, call.operatorName? ≠ some name) {op : Operator}
    (hop : s.operators.get? name = some op) :
    ∃ used, (s.runBy digest calls).operators.get? name = some used ∧
      UseRun digest name s calls op used := by
  induction calls generalizing s op with
  | nil => exact ⟨op, hop, .nil⟩
  | cons call calls ih =>
    obtain ⟨first, hfirst, huse⟩ := use_of_stepBy h hop (hkept call List.mem_cons_self)
    obtain ⟨used, hused, hrest⟩ :=
      ih (h.stepBy call) (fun other hm => hkept other (List.mem_cons_of_mem _ hm)) hfirst
    exact ⟨used, hused, .cons huse hrest⟩

theorem UseRun.usedFrom {op used : Operator} (h : UseRun digest name s calls op used) :
    used.UsedFrom op := by
  induction h with
  | nil => exact .refl _
  | cons use rest ih => exact ih.trans use.usedFrom

theorem debugChecks_stepBy (h : s.Sound digest) (call : Call) :
    (s.stepBy digest call).2.debugChecks = s.debugChecks :=
  (setupEffect_stepBy h call).debugChecks

/-- Debug checks stay on, or off, along a run. -/
theorem debugChecks_runBy (h : s.Sound digest) (calls : List Call) :
    (s.runBy digest calls).debugChecks = s.debugChecks := by
  induction calls generalizing s with
  | nil => rfl
  | cons call calls ih =>
    rw [runBy_cons, ih (h.stepBy call)]
    exact debugChecks_stepBy h call

theorem operator_runBy (h : s.Sound digest)
    (hkept : ∀ call ∈ calls, call.operatorName? ≠ some name) {op : Operator}
    (hop : s.operators.get? name = some op) :
    ∃ used, (s.runBy digest calls).operators.get? name = some used ∧ used.UsedFrom op := by
  obtain ⟨used, hused, hrun⟩ := exists_useRun h hkept hop
  exact ⟨used, hused, hrun.usedFrom⟩

/-! ## Making a record -/

/-- Materializing a conforming record that is not exclusively borrowed answers with the record it
made, and gives it its name. -/
theorem materialize_stepBy (h : s.Sound digest) {operator source : String} {op : Operator}
    (hop : s.operators.get? operator = some op) (hr : s.records.get? source = some r)
    (hc : s.store.content? r = some (record, guard)) (hguard : guard ≠ .exclusive)
    (hconforms : record.conformsTo op.schema) (name : String) :
    (∃ snapshot, (s.stepBy digest (.materialize name operator source)).1 =
      .materialized ⟨s.store.records.next⟩ snapshot) ∧
    (s.stepBy digest (.materialize name operator source)).2.records.get? name =
      some ⟨s.store.records.next⟩ ∧
    (s.stepBy digest (.materialize name operator source)).2.store.content?
      ⟨s.store.records.next⟩ = some (⟨op.schema, record.slots, record.arguments⟩, .free) := by
  have hsound := h.stepBy (.materialize name operator source)
  simp only [stepBy] at hsound ⊢
  rcases materializeCall_cases h name operator source with
    ⟨hnone, -⟩ | ⟨op', r', record', guard', e, hop', hr', hc', hwhy, -⟩ |
    ⟨op', r', record', guard', snapshot, hop', hr', hc', -, hcall⟩
  · rw [hop, hr] at hnone
    rcases hnone with hnone | hnone <;> cases hnone
  · rw [hop] at hop'
    rw [hr] at hr'
    cases hop'
    cases hr'
    rw [hc] at hc'
    cases hc'
    rcases hwhy with hwhy | hwhy
    · exact (hguard hwhy).elim
    · exact (hwhy hconforms).elim
  · rw [hop] at hop'
    rw [hr] at hr'
    cases hop'
    cases hr'
    rw [hc] at hc'
    cases hc'
    rw [hcall] at hsound ⊢
    have hname : (s.records.insert name ⟨s.store.records.next⟩).get? name =
        some ⟨s.store.records.next⟩ := Table.get?_insert_self _ _ _
    refine ⟨⟨snapshot, rfl⟩, hname, ?_⟩
    -- The new record has a name, so it is not among what the name gave up.
    obtain ⟨made, newGuard, hmade⟩ := hsound.exists_content (hasHandle_of_name hname)
    have hcreated := (Store.within_release _ _).content hmade
    rw [Store.content?_create_self] at hcreated
    rw [hmade, hcreated]

end LoopScope.Session
