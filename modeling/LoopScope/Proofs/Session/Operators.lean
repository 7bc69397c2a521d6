import LoopScope.Proofs.Session.Effect
/-!
# What a call does to schemas and operators

`Session.Effect` is about the store and what the client holds of it. `Session.SetupEffect` is about
the rest of what a loop needs: which schema instances a call makes, and what becomes of the operator
of each name. An operator that a call works on is used in one of the ways that `Session.Use` lists;
each comes with the answer that the client gets. Calls that are about records and argument lists only
leave all of this as it was, and the accessors with names of their own as well.
-/
namespace LoopScope

/-- The name of the operator that a call works on. -/
def Call.operated? : Call → Option String
  | .read _ (.ofOperator name _) | .write _ (.ofOperator name _) _ | .cloneOperator _ name
  | .materialize _ name _ | .copyInto name _ _ | .drain name => some name
  | _ => none

/-- The name of the operator whose accessors a call uses directly. -/
def Call.accessed? : Call → Option String
  | .read _ (.ofOperator name _) | .write _ (.ofOperator name _) _ => some name
  | _ => none

/-- The call has given a name to an operator that it made. -/
def Call.Binds (call : Call) (answer : Answer) (name : String) : Prop :=
  call.operatorName? = some name ∧ answer = .done

theorem Call.not_binds {call : Call} {answer : Answer} {name : String}
    (h : call.operatorName? = none) : ¬ call.Binds answer name := by
  intro hbinds
  have hname := h.symm.trans hbinds.1
  cases hname

/-- The slots that a call makes a schema instance of. -/
def Call.layout? : Call → Option (List Slot)
  | .schema _ slots | .operator _ _ _ (.slots slots) => some slots
  | _ => none

/-- The call makes or executes an accessor that has a name of its own. -/
def Call.usesAccessors : Call → Bool
  | .reader _ _ | .writer _ _ | .cloneReader _ _ | .cloneWriter _ _ | .read _ (.standalone _)
  | .write _ (.standalone _) _ => true
  | _ => false

namespace Session

variable {digest : Layout.DigestFunction} {s t : Session} {call : Call} {answer : Answer}
  {name : String} {op used : Operator}

/-- How a call is answered that finds the operator `op` under a name, and what it leaves of it. -/
inductive Use (s : Session) (name : String) (op : Operator) : Call → Answer → Operator → Prop
  | elsewhere {call : Call} {answer : Answer} (other : call.operated? ≠ some name) :
      Use s name op call answer op
  | unbound {call : Call} : Use s name op call .unbound op
  | busy {call : Call} {e : ScopeError} (accessed : call.accessed? = some name) :
      Use s name op call (.failed e) op
  | missed {call : Call} {a : Accessor} {e : ScopeError} (accessed : call.accessed? = some name) :
      Use s name op call (.moved a (.error e)) op
  | read {record : String} {position : Nat} {a : Accessor} {value : Value}
      (found : op.reads[position]? = some a) :
      Use s name op (.read record (.ofOperator name position))
        (.moved (a.observe value) (.ok (some value))) (op.replaceRead position (a.observe value))
  | write {record : String} {position : Nat} {operand : Operand} {a : Accessor} {value : Value}
      (found : op.writes[position]? = some a) (given : s.operand? operand = some value) :
      Use s name op (.write record (.ofOperator name position) operand)
        (.moved (a.observe value) (.ok none)) (op.replaceWrite position (a.observe value))
  | refusedMaterialize {bound source : String} {e : ScopeError} :
      Use s name op (.materialize bound name source) (.failed e)
        (op.logOutcome "materialize" (.error e))
  | materialize {bound source : String} {r : RecordId} {record : Record} {guard : Guard}
      {snapshot : RecordSnapshot} (named : s.records.get? source = some r)
      (content : s.store.content? r = some (record, guard))
      (conforms : record.conformsTo op.schema) :
      Use s name op (.materialize bound name source)
        (.materialized ⟨s.store.records.next⟩ snapshot)
        ((op.observing 0 record.slots).logOutcome "materialize" (.ok ()))
  | refusedCopy {destination source : String} {e : ScopeError} :
      Use s name op (.copyInto name destination source) (.failed e)
        (op.logOutcome "copy_into" (.error e))
  | selfCopy {destination source : String} {r : RecordId} {snapshot : RecordSnapshot}
      (destinationNamed : s.records.get? destination = some r)
      (sourceNamed : s.records.get? source = some r) :
      Use s name op (.copyInto name destination source) (.snapshot snapshot)
        (op.logOutcome "copy_into" (.ok ()))
  | copy {destination source : String} {into r : RecordId} {record : Record} {guard : Guard}
      {snapshot : RecordSnapshot} (destinationNamed : s.records.get? destination = some into)
      (sourceNamed : s.records.get? source = some r) (distinct : into ≠ r)
      (content : s.store.content? r = some (record, guard))
      (conforms : record.conformsTo op.schema) :
      Use s name op (.copyInto name destination source) (.snapshot snapshot)
        ((op.observing 1 record.slots).logOutcome "copy_into" (.ok ()))
  | duplicate {bound : String} :
      Use s name op (.cloneOperator bound name) .done (op.logEvent "iteration_scope_cloned" none)
  | drain : Use s name op (.drain name) (.events op.log) op.drain.2

/-- A schema instance that a call makes of the slots that it is given. -/
structure Shares (digest : Layout.DigestFunction) (s : Session) (call : Call) (t : Session)
    (shared : SharedSchema) : Prop where
  number : shared.number = s.nextSchema
  next : t.nextSchema = s.nextSchema + 1
  made : ∃ slots, call.layout? = some slots ∧ Schema.ofSlotsBy digest slots = .ok shared.schema

/-- What becomes of the operator of a name. -/
inductive OperatorEffect (digest : Layout.DigestFunction) (s : Session) (call : Call)
    (answer : Answer) (t : Session) (name : String) : Prop
  | absent (kept : ¬ call.Binds answer name) (before : s.operators.get? name = none)
      (after : t.operators.get? name = none)
  | used {op used : Operator} (kept : ¬ call.Binds answer name)
      (before : s.operators.get? name = some op) (after : t.operators.get? name = some used)
      (use : s.Use name op call answer used)
  | built {given : ConfigSource} {source : OperatorSource} {op : Operator}
      {reads writes : List Accessor} {config : Config} {context : Context}
      (builds : call = .operator name given context source) (resolved : given.resolve = .ok config)
      (after : t.operators.get? name = some op)
      (fresh : ∀ a ∈ reads ++ writes, a.profile = .uninitialized)
      (built : Operator.build op.schema reads writes config context = .ok op)
      (schema : (∃ other, s.schemas.get? other = some op.schema) ∨
        s.Shares digest call t op.schema)
  | duplicated {source : String} {op : Operator} (duplicates : call = .cloneOperator name source)
      (before : s.operators.get? source = some op)
      (after : t.operators.get? name = some op.cloneUninitialized.1)

/-- What a call does to the schemas and the operators. Debug checks stay on, or off. -/
structure SetupEffect (digest : Layout.DigestFunction) (s : Session) (call : Call)
    (answer : Answer) (t : Session) : Prop where
  debugChecks : t.debugChecks = s.debugChecks
  next : s.nextSchema ≤ t.nextSchema
  schemas : ∀ {name shared}, t.schemas.get? name = some shared →
    s.schemas.get? name = some shared ∨ s.Shares digest call t shared
  operators : ∀ name, s.OperatorEffect digest call answer t name

/-- The schemas and the operators are what they were, and so are the debug checks. -/
structure KeepsSetup (t s : Session) : Prop where
  debugChecks : t.debugChecks = s.debugChecks
  nextSchema : t.nextSchema = s.nextSchema
  schemas : t.schemas = s.schemas
  operators : t.operators = s.operators

theorem KeepsSetup.refl (s : Session) : s.KeepsSetup s := ⟨rfl, rfl, rfl, rfl⟩

/-- The accessors with names of their own are what they were. -/
structure KeepsAccessors (t s : Session) : Prop where
  readers : t.readers = s.readers
  writers : t.writers = s.writers

theorem KeepsAccessors.refl (s : Session) : s.KeepsAccessors s := ⟨rfl, rfl⟩

/-- All that records are worked on with is what it was. -/
structure KeepsTools (t s : Session) : Prop extends t.KeepsSetup s, t.KeepsAccessors s

theorem KeepsTools.refl (s : Session) : s.KeepsTools s := ⟨.refl s, .refl s⟩

/-! ## Effects on one name -/

theorem OperatorEffect.of_eq (hkept : ¬ call.Binds answer name)
    (h : t.operators.get? name = s.operators.get? name)
    (huse : ∀ {op}, s.operators.get? name = some op → s.Use name op call answer op) :
    s.OperatorEffect digest call answer t name := by
  cases hop : s.operators.get? name with
  | none => exact .absent hkept hop (h.trans hop)
  | some op => exact .used hkept hop (h.trans hop) (huse hop)

theorem SetupEffect.of_keeps (h : t.KeepsSetup s)
    (hkept : ∀ {name}, ¬ call.Binds answer name)
    (huse : ∀ {name op}, s.operators.get? name = some op → s.Use name op call answer op) :
    s.SetupEffect digest call answer t where
  debugChecks := h.debugChecks
  next := Nat.le_of_eq h.nextSchema.symm
  schemas hs := by
    rw [h.schemas] at hs
    exact .inl hs
  operators name := by
    refine .of_eq hkept ?_ huse
    rw [h.operators]

theorem SetupEffect.of_unbound (s : Session) : s.SetupEffect digest call .unbound s :=
  .of_keeps (.refl s) nofun fun _ => .unbound

/-- A call that has nothing to do with operators. -/
theorem SetupEffect.of_elsewhere (h : t.KeepsSetup s) (hbound : call.operatorName? = none)
    (hoperated : call.operated? = none) : s.SetupEffect digest call answer t := by
  refine .of_keeps h (call.not_binds hbound) ?_
  intro name op hop
  refine .elsewhere ?_
  rw [hoperated]
  exact nofun

/-- An operator put back after use. -/
theorem SetupEffect.of_use (hop : s.operators.get? name = some op)
    (hbound : call.operatorName? = none) (hcall : call.operated? = some name)
    (huse : s.Use name op call answer used) (hchecks : t.debugChecks = s.debugChecks)
    (hnext : t.nextSchema = s.nextSchema) (hschemas : t.schemas = s.schemas)
    (ht : t.operators = s.operators.insert name used) :
    s.SetupEffect digest call answer t where
  debugChecks := hchecks
  next := Nat.le_of_eq hnext.symm
  schemas hs := by
    rw [hschemas] at hs
    exact .inl hs
  operators other := by
    have hkept : ¬ call.Binds answer other := call.not_binds hbound
    by_cases he : other = name
    · subst he
      refine .used hkept hop ?_ huse
      rw [ht, Table.get?_insert_self]
    · refine .of_eq hkept ?_ fun _ => .elsewhere ?_
      · rw [ht, Table.get?_insert_of_ne _ _ he]
      · rw [hcall]
        exact fun h => he (Option.some.inj h).symm

/-! ## Accessors -/

/-- An accessor that is put back as it was found changes nothing. -/
theorem replaceRead_self {position : Nat} {a : Accessor} (h : op.reads[position]? = some a) :
    op.replaceRead position a = op := by
  obtain ⟨hlt, rfl⟩ := List.getElem?_eq_some_iff.mp h
  rw [Operator.replaceRead, List.set_getElem_self]

theorem replaceWrite_self {position : Nat} {a : Accessor} (h : op.writes[position]? = some a) :
    op.replaceWrite position a = op := by
  obtain ⟨hlt, rfl⟩ := List.getElem?_eq_some_iff.mp h
  rw [Operator.replaceWrite, List.set_getElem_self]

theorem setupEffect_readCall (s : Session) (record operator : String) (position : Nat) :
    s.SetupEffect digest (.read record (.ofOperator operator position))
      (s.readCall record (.ofOperator operator position)).1
      (s.readCall record (.ofOperator operator position)).2 := by
  unfold readCall
  split
  · rename_i r a hr ha
    obtain ⟨op, hop, hposition⟩ := Option.bind_eq_some_iff.mp ha
    split
    · refine .of_keeps (.refl s) nofun fun {name _} _ => ?_
      by_cases hname : operator = name
      · exact .busy (congrArg some hname)
      · exact .elsewhere fun h => hname (Option.some.inj h)
    · rename_i outcome used hread
      simp only [putReadAccessor, hop]
      rcases Store.readThrough_eq_ok hread with
        ⟨content, guard, value, -, -, rfl, rfl⟩ | ⟨e, rfl, rfl⟩
      · exact .of_use hop rfl rfl (.read hposition) rfl rfl rfl rfl
      · rw [replaceRead_self hposition]
        exact .of_use hop rfl rfl (.missed rfl) rfl rfl rfl rfl
  · exact .of_unbound s

theorem setupEffect_writeCall (s : Session) (record operator : String) (position : Nat)
    (operand : Operand) :
    s.SetupEffect digest (.write record (.ofOperator operator position) operand)
      (s.writeCall record (.ofOperator operator position) operand).1
      (s.writeCall record (.ofOperator operator position) operand).2 := by
  unfold writeCall
  split
  · rename_i r a value hr ha hv
    obtain ⟨op, hop, hposition⟩ := Option.bind_eq_some_iff.mp ha
    split
    · refine .of_keeps (.refl s) nofun fun {name _} _ => ?_
      by_cases hname : operator = name
      · exact .busy (congrArg some hname)
      · exact .elsewhere fun h => hname (Option.some.inj h)
    · rename_i outcome used store hwrite
      simp only [putWriteAccessor, hop]
      rcases Store.writeThrough_eq_ok hwrite with ⟨old, -, -, rfl, rfl, -⟩ | ⟨e, rfl, rfl, -⟩
      · exact .of_use hop rfl rfl (.write hposition hv) rfl rfl rfl rfl
      · rw [replaceWrite_self hposition]
        exact .of_use hop rfl rfl (.missed rfl) rfl rfl rfl rfl
  · exact .of_unbound s

/-! ## Copies, duplicates and logs -/

theorem setupEffect_materializeCall (h : s.Sound digest) (bound operator source : String) :
    s.SetupEffect digest (.materialize bound operator source)
      (s.materializeCall bound operator source).1
      (s.materializeCall bound operator source).2 := by
  rcases materializeCall_cases h bound operator source with
    ⟨-, hcall⟩ | ⟨op, r, record, guard, e, hop, -, -, -, -, hcall⟩ |
    ⟨op, r, record, guard, snapshot, hop, hr, hc, hconforms, hcall⟩
  · rw [hcall]
    exact .of_unbound s
  · rw [hcall]
    exact .of_use hop rfl rfl .refusedMaterialize rfl rfl rfl rfl
  · rw [hcall]
    exact .of_use hop rfl rfl (.materialize hr hc hconforms) rfl rfl rfl rfl

theorem setupEffect_copyIntoCall (h : s.Sound digest) (operator destination source : String) :
    s.SetupEffect digest (.copyInto operator destination source)
      (s.copyIntoCall operator destination source).1
      (s.copyIntoCall operator destination source).2 := by
  rcases copyIntoCall_cases h operator destination source with
    hcall | ⟨op, into, r, e, hop, -, -, -, hcall⟩ | ⟨op, r, snapshot, hop, hinto, hr, hcall⟩ |
    ⟨op, into, r, old, record, guard, snapshot, hop, hinto, hr, hne, -, hc, -, hsource, hcall⟩
  · rw [hcall]
    exact .of_unbound s
  · rw [hcall]
    exact .of_use hop rfl rfl .refusedCopy rfl rfl rfl rfl
  · rw [hcall]
    exact .of_use hop rfl rfl (.selfCopy hinto hr) rfl rfl rfl rfl
  · rw [hcall]
    exact .of_use hop rfl rfl (.copy hinto hr hne hc hsource) rfl rfl rfl rfl

theorem setupEffect_drainCall (s : Session) (operator : String) :
    s.SetupEffect digest (.drain operator) (s.drainCall operator).1 (s.drainCall operator).2 := by
  unfold drainCall
  split
  · exact .of_unbound s
  · rename_i op hop
    exact .of_use hop rfl rfl .drain rfl rfl rfl rfl

theorem setupEffect_cloneOperatorCall (s : Session) (bound operator : String) :
    s.SetupEffect digest (.cloneOperator bound operator) (s.cloneOperatorCall bound operator).1
      (s.cloneOperatorCall bound operator).2 := by
  unfold cloneOperatorCall
  split
  · exact .of_unbound s
  · rename_i op hop
    refine ⟨rfl, Nat.le_refl _, .inl, ?_⟩
    intro name
    by_cases hbound : name = bound
    · subst hbound
      exact .duplicated rfl hop (Table.get?_insert_self _ _ _)
    · -- The duplicate has a name of its own, so what is left is the operator that logs it.
      have hafter := Table.get?_insert_of_ne (s.operators.insert operator op.cloneUninitialized.2)
        op.cloneUninitialized.1 hbound
      have hkept : ¬ (Call.cloneOperator bound operator).Binds .done name :=
        fun hbinds => hbound (Option.some.inj hbinds.1).symm
      by_cases hoperator : name = operator
      · subst hoperator
        rw [Table.get?_insert_self] at hafter
        exact .used hkept hop hafter .duplicate
      · rw [Table.get?_insert_of_ne _ _ hoperator] at hafter
        exact .of_eq hkept hafter fun _ => .elsewhere fun h => hoperator (Option.some.inj h).symm

/-! ## New schemas and operators -/

theorem setupEffect_schemaCall (s : Session) (bound : String) (slots : List Slot) :
    s.SetupEffect digest (.schema bound slots) (s.schemaCall digest bound slots).1
      (s.schemaCall digest bound slots).2 := by
  unfold schemaCall
  split
  · exact .of_elsewhere (.refl s) rfl rfl
  · rename_i schema hschema
    refine ⟨rfl, Nat.le_succ _, ?_, fun name => .of_eq nofun rfl fun _ => .elsewhere nofun⟩
    intro name shared hs
    by_cases he : name = bound
    · subst he
      simp only [share, Table.get?_insert_self, Option.some.injEq] at hs
      subst hs
      exact .inr ⟨rfl, rfl, slots, rfl, hschema⟩
    · simp only [share, Table.get?_insert_of_ne _ _ he] at hs
      exact .inl hs

/-- An operator that was built, or not, from a schema of the session or from a new one. -/
private theorem setupEffect_bindOperator {u : Session} {bound : String} {given : ConfigSource}
    {source : OperatorSource} {config : Config} {context : Context} {reads writes : List Nat}
    {shared : SharedSchema} (hcall : call = .operator bound given context source)
    (hresolved : given.resolve = .ok config) (hchecks : u.debugChecks = s.debugChecks)
    (hnext : s.nextSchema ≤ u.nextSchema) (hschemas : u.schemas = s.schemas)
    (hoperators : u.operators = s.operators)
    (hshared : (∃ other, s.schemas.get? other = some shared) ∨ s.Shares digest call u shared) :
    s.SetupEffect digest call
      (u.bindOperator bound
        (Operator.build shared (reads.map .fresh) (writes.map .fresh) config context)).1
      (u.bindOperator bound
        (Operator.build shared (reads.map .fresh) (writes.map .fresh) config context)).2 := by
  have helse {answer : Answer} {name : String} {op : Operator} : s.Use name op call answer op := by
    rw [hcall]
    exact .elsewhere nofun
  cases hbuild : Operator.build shared (reads.map .fresh) (writes.map .fresh) config context with
  | error e =>
    refine ⟨hchecks, hnext, fun hs => .inl (hschemas ▸ hs),
      fun name => .of_eq nofun ?_ fun _ => helse⟩
    rw [← hoperators]
    rfl
  | ok op =>
    have hinsert : (u.bindOperator bound (.ok op)).2.operators = s.operators.insert bound op := by
      rw [← hoperators]
      rfl
    refine ⟨hchecks, hnext, fun hs => .inl (hschemas ▸ hs), ?_⟩
    intro name
    by_cases hbound : name = bound
    · subst hbound
      obtain ⟨hop, -⟩ := Operator.build_eq_ok hbuild
      have hschema : op.schema = shared := by
        rw [hop]
        rfl
      rw [← hschema] at hbuild hshared
      have hmadeThere : Shares digest s call u op.schema →
          Shares digest s call (u.bindOperator name (.ok op)).2 op.schema :=
        fun hnew => ⟨hnew.number, hnew.next, hnew.made⟩
      refine .built hcall hresolved (Table.get?_insert_self _ _ _) ?_ hbuild
        (hshared.imp_right hmadeThere)
      intro a ha
      rw [← List.map_append] at ha
      exact Accessor.profile_of_mem_fresh ha
    · refine .of_eq ?_ ?_ fun _ => helse
      · rw [hcall]
        exact fun hbinds => hbound (Option.some.inj hbinds.1).symm
      · rw [hinsert, Table.get?_insert_of_ne _ _ hbound]

theorem setupEffect_operatorCall (s : Session) (bound : String) (config : ConfigSource)
    (context : Context) (source : OperatorSource) :
    s.SetupEffect digest (.operator bound config context source)
      (s.operatorCall digest bound config context source).1
      (s.operatorCall digest bound config context source).2 := by
  unfold operatorCall
  split
  · exact .of_keeps (.refl s) nofun fun _ => .elsewhere nofun
  · rename_i given hgiven
    split
    · rename_i slots
      cases hschema : Schema.ofSlotsBy digest slots with
      | error defect =>
        simp only [Operator.ofSlotsBy, hschema]
        exact ⟨rfl, Nat.le_succ _, .inl, fun name => .of_eq nofun rfl fun _ => .elsewhere nofun⟩
      | ok schema =>
        simp only [Operator.ofSlotsBy, hschema]
        exact setupEffect_bindOperator rfl hgiven rfl (Nat.le_succ _) rfl rfl
          (.inr ⟨rfl, rfl, slots, rfl, hschema⟩)
    · split
      · exact .of_unbound s
      · rename_i shared hshared
        exact setupEffect_bindOperator rfl hgiven rfl (Nat.le_refl _) rfl rfl (.inl ⟨_, hshared⟩)
    · split
      · exact .of_unbound s
      · rename_i shared hshared
        exact setupEffect_bindOperator rfl hgiven rfl (Nat.le_refl _) rfl rfl (.inl ⟨_, hshared⟩)

/-! ## All calls -/

private theorem keepsTools_recordCall (s : Session) (name schema : String) (parent : Operand) :
    (s.recordCall name schema parent).2.KeepsTools s := by
  unfold recordCall
  split <;> exact ⟨⟨rfl, rfl, rfl, rfl⟩, rfl, rfl⟩

/-- A call that is about records and argument lists only. -/
theorem keepsTools_stepBy (s : Session) (hlayout : call.layout? = none)
    (hbound : call.operatorName? = none) (hoperated : call.operated? = none)
    (huses : call.usesAccessors = false) : (s.stepBy digest call).2.KeepsTools s := by
  by_cases hasks : call.asks = true
  · rw [snd_stepBy_of_asks s hasks]
    exact .refl s
  cases call with
  | schema name slots => cases hlayout
  | arguments name values =>
    simp only [stepBy, argumentsCall]
    split <;> exact ⟨⟨rfl, rfl, rfl, rfl⟩, rfl, rfl⟩
  | dropArguments name =>
    simp only [stepBy, dropArgumentsCall]
    split <;> exact ⟨⟨rfl, rfl, rfl, rfl⟩, rfl, rfl⟩
  | record name schema parent arguments =>
    cases arguments with
    | none => exact keepsTools_recordCall s name schema parent
    | some arguments =>
      simp only [stepBy, recordOverCall]
      split <;> exact ⟨⟨rfl, rfl, rfl, rfl⟩, rfl, rfl⟩
  | root name schema => exact keepsTools_recordCall s name schema (.value .null)
  | cloneRecord name record =>
    simp only [stepBy, cloneRecordCall]
    split
    · exact .refl s
    · split <;> exact ⟨⟨rfl, rfl, rfl, rfl⟩, rfl, rfl⟩
  | «alias» name record =>
    simp only [stepBy, aliasCall]
    split <;> exact ⟨⟨rfl, rfl, rfl, rfl⟩, rfl, rfl⟩
  | drop record =>
    simp only [stepBy, dropCall]
    split <;> exact ⟨⟨rfl, rfl, rfl, rfl⟩, rfl, rfl⟩
  | set record binding value =>
    simp only [stepBy, setCall]
    split
    · split <;> exact ⟨⟨rfl, rfl, rfl, rfl⟩, rfl, rfl⟩
    · exact .refl s
  | put record index value =>
    simp only [stepBy, putCall]
    split
    · split <;> exact ⟨⟨rfl, rfl, rfl, rfl⟩, rfl, rfl⟩
    · exact .refl s
  | lend record mode =>
    simp only [stepBy, lendCall]
    split
    · exact .refl s
    · split <;> exact ⟨⟨rfl, rfl, rfl, rfl⟩, rfl, rfl⟩
  | endLoan =>
    simp only [stepBy, endLoanCall]
    split <;> exact ⟨⟨rfl, rfl, rfl, rfl⟩, rfl, rfl⟩
  | reader name index => cases huses
  | writer name index => cases huses
  | cloneReader name accessor => cases huses
  | cloneWriter name accessor => cases huses
  | read record accessor =>
    cases accessor with
    | standalone name => cases huses
    | ofOperator operator position => cases hoperated
  | write record accessor value =>
    cases accessor with
    | standalone name => cases huses
    | ofOperator operator position => cases hoperated
  | operator name config context source => cases hbound
  | cloneOperator name operator => cases hbound
  | materialize name operator source => cases hoperated
  | copyInto operator destination source => cases hoperated
  | drain operator => cases hoperated
  | _ => exact absurd rfl hasks

/-- A call that neither works on an operator nor makes one, and that makes no schema. -/
theorem keepsSetup_stepBy (s : Session) (hlayout : call.layout? = none)
    (hbound : call.operatorName? = none) (hoperated : call.operated? = none) :
    (s.stepBy digest call).2.KeepsSetup s := by
  by_cases huses : call.usesAccessors = false
  · exact (keepsTools_stepBy s hlayout hbound hoperated huses).toKeepsSetup
  cases call with
  | reader name index => exact ⟨rfl, rfl, rfl, rfl⟩
  | writer name index => exact ⟨rfl, rfl, rfl, rfl⟩
  | cloneReader name accessor =>
    simp only [stepBy, cloneReaderCall]
    split <;> exact ⟨rfl, rfl, rfl, rfl⟩
  | cloneWriter name accessor =>
    simp only [stepBy, cloneWriterCall]
    split <;> exact ⟨rfl, rfl, rfl, rfl⟩
  | read record accessor =>
    cases accessor with
    | standalone name =>
      simp only [stepBy, readCall]
      split
      · split <;> exact ⟨rfl, rfl, rfl, rfl⟩
      · exact .refl s
    | ofOperator operator position => cases hoperated
  | write record accessor value =>
    cases accessor with
    | standalone name =>
      simp only [stepBy, writeCall]
      split
      · split <;> exact ⟨rfl, rfl, rfl, rfl⟩
      · exact .refl s
    | ofOperator operator position => cases hoperated
  | _ => exact absurd rfl huses

/-- Every call leaves the schemas and the operators in one of the ways that are listed. -/
theorem setupEffect_stepBy (h : s.Sound digest) (call : Call) :
    s.SetupEffect digest call (s.stepBy digest call).1 (s.stepBy digest call).2 := by
  cases call with
  | schema name slots => exact setupEffect_schemaCall s name slots
  | operator name config context source =>
    exact setupEffect_operatorCall s name config context source
  | read record accessor =>
    cases accessor with
    | standalone name => exact .of_elsewhere (keepsSetup_stepBy s rfl rfl rfl) rfl rfl
    | ofOperator operator position => exact setupEffect_readCall s record operator position
  | write record accessor value =>
    cases accessor with
    | standalone name => exact .of_elsewhere (keepsSetup_stepBy s rfl rfl rfl) rfl rfl
    | ofOperator operator position => exact setupEffect_writeCall s record operator position value
  | cloneOperator name operator => exact setupEffect_cloneOperatorCall s name operator
  | materialize name operator source => exact setupEffect_materializeCall h name operator source
  | copyInto operator destination source =>
    exact setupEffect_copyIntoCall h operator destination source
  | drain operator => exact setupEffect_drainCall s operator
  | _ => exact .of_elsewhere (keepsSetup_stepBy s rfl rfl rfl) rfl rfl

/-- An operator whose name is not given to another one is there afterwards, as some use left it. -/
theorem use_of_stepBy (h : s.Sound digest) (hop : s.operators.get? name = some op)
    (hname : call.operatorName? ≠ some name) :
    ∃ used, (s.stepBy digest call).2.operators.get? name = some used ∧
      s.Use name op call (s.stepBy digest call).1 used := by
  cases (setupEffect_stepBy h call).operators name with
  | absent kept before after =>
    rw [hop] at before
    cases before
  | used kept before after use =>
    rw [hop] at before
    cases before
    exact ⟨_, after, use⟩
  | built builds resolved after fresh built schema =>
    rw [builds] at hname
    exact (hname rfl).elim
  | duplicated duplicates before after =>
    rw [duplicates] at hname
    exact (hname rfl).elim

/-- Where an operator that is there after a call comes from. -/
theorem origin_of_operator (h : s.Sound digest)
    (hop : (s.stepBy digest call).2.operators.get? name = some op) :
    (∃ before, s.operators.get? name = some before ∧
      s.Use name before call (s.stepBy digest call).1 op) ∨
    (∃ reads writes config context,
      Operator.build op.schema reads writes config context = .ok op ∧
        ((∃ other, s.schemas.get? other = some op.schema) ∨
          s.Shares digest call (s.stepBy digest call).2 op.schema)) ∨
    ∃ source before, s.operators.get? source = some before ∧ op = before.cloneUninitialized.1 := by
  cases (setupEffect_stepBy h call).operators name with
  | absent kept before after =>
    rw [hop] at after
    cases after
  | used kept before after use =>
    rw [hop] at after
    cases after
    exact .inl ⟨_, before, use⟩
  | built builds resolved after fresh built schema =>
    rw [hop] at after
    cases after
    exact .inr (.inl ⟨_, _, _, _, built, schema⟩)
  | duplicated duplicates before after =>
    rw [hop] at after
    cases after
    exact .inr (.inr ⟨_, _, before, rfl⟩)

end Session

end LoopScope
