import LoopScope.Proofs.Session.Duplicates
/-!
# Runs without their drains

To drain the log of an operator changes nothing but this log, and the order in which operators are
listed, which no call looks at. So a run goes the same way if its drains are left out, and what it
drained is then in the log.
-/
namespace LoopScope

/-- Each name stands for the same in two tables. -/
def Table.SameNames {α : Type} (a b : Table α) : Prop := ∀ name, a.get? name = b.get? name

theorem Table.SameNames.insert {α : Type} {a b : Table α} (h : a.SameNames b) (name : String)
    (x : α) : (a.insert name x).SameNames (b.insert name x) := by
  intro other
  by_cases he : other = name
  · subst he
    rw [get?_insert_self, get?_insert_self]
  · rw [get?_insert_of_ne _ x he, get?_insert_of_ne _ x he]
    exact h other

theorem Table.SameNames.map {α β : Type} {a b : Table α} (h : a.SameNames b) (f : α → β) :
    (a.map f).SameNames (b.map f) := by
  intro name
  rw [get?_map, get?_map, h name]

namespace Session

variable {digest : Layout.DigestFunction} {s t : Session} {operators : Table Operator}
  {call : Call} {calls : List Call} {name : String}

/-! ## The order of the operators -/

/-- A session with its operators listed in another order. -/
structure Reorders (t s : Session) : Prop where
  operators : t.operators.SameNames s.operators
  rest : { t with operators := s.operators } = s

theorem Reorders.refl (s : Session) : s.Reorders s := ⟨fun _ => rfl, rfl⟩

theorem reorders_withOperators (h : operators.SameNames s.operators) :
    ({ s with operators := operators } : Session).Reorders s := ⟨h, rfl⟩

theorem Reorders.symm (h : t.Reorders s) : s.Reorders t where
  operators name := (h.operators name).symm
  rest := by rw [← h.rest]

theorem Reorders.trans {u : Session} (h : u.Reorders t) (h' : t.Reorders s) : u.Reorders s where
  operators name := (h.operators name).trans (h'.operators name)
  rest := by rw [← h'.rest, ← h.rest]

theorem Reorders.exists_operators (h : t.Reorders s) :
    ∃ operators : Table Operator, operators.SameNames s.operators ∧
      t = { s with operators := operators } := by
  refine ⟨t.operators, h.operators, ?_⟩
  rw [← h.rest]

theorem Reorders.unlogged (h : t.Reorders s) : t.unlogged.Reorders s.unlogged := by
  obtain ⟨operators, hnames, rfl⟩ := h.exists_operators
  exact ⟨hnames.map _, rfl⟩

/-- Two answers that are the same, with the session after each in two orders. -/
structure SameButOrder (a b : Answer × Session) : Prop where
  answer : a.1 = b.1
  session : a.2.Reorders b.2

theorem sameButOrder_self (h : operators.SameNames s.operators) (answer : Answer) :
    SameButOrder (answer, { s with operators := operators }) (answer, s) :=
  ⟨rfl, reorders_withOperators h⟩

theorem readAccessor?_withOperators (h : operators.SameNames s.operators) (name : AccessorName) :
    ({ s with operators := operators } : Session).readAccessor? name = s.readAccessor? name := by
  cases name with
  | standalone name => rfl
  | ofOperator operator position => rw [readAccessor?, readAccessor?, h operator]

theorem writeAccessor?_withOperators (h : operators.SameNames s.operators) (name : AccessorName) :
    ({ s with operators := operators } : Session).writeAccessor? name = s.writeAccessor? name := by
  cases name with
  | standalone name => rfl
  | ofOperator operator position => rw [writeAccessor?, writeAccessor?, h operator]

theorem sameButOrder_readCall (h : operators.SameNames s.operators) (record : String)
    (name : AccessorName) :
    SameButOrder (({ s with operators := operators } : Session).readCall record name)
      (s.readCall record name) := by
  simp only [readCall, readAccessor?_withOperators h]
  split
  · split
    · exact sameButOrder_self h _
    · refine ⟨rfl, ?_⟩
      cases name with
      | standalone name => exact ⟨h, rfl⟩
      | ofOperator operator position =>
        simp only [putReadAccessor, h operator]
        split
        · exact ⟨h.insert _ _, rfl⟩
        · exact ⟨h, rfl⟩
  · exact sameButOrder_self h _

theorem sameButOrder_writeCall (h : operators.SameNames s.operators) (record : String)
    (name : AccessorName) (operand : Operand) :
    SameButOrder (({ s with operators := operators } : Session).writeCall record name operand)
      (s.writeCall record name operand) := by
  simp only [writeCall, writeAccessor?_withOperators h, operand?_withOperators]
  split
  · split
    · exact sameButOrder_self h _
    · refine ⟨rfl, ?_⟩
      cases name with
      | standalone name => exact ⟨h, rfl⟩
      | ofOperator operator position =>
        simp only [putWriteAccessor, h operator]
        split
        · exact ⟨h.insert _ _, rfl⟩
        · exact ⟨h, rfl⟩
  · exact sameButOrder_self h _

theorem sameButOrder_cloneReaderCall (h : operators.SameNames s.operators) (bound : String)
    (name : AccessorName) :
    SameButOrder (({ s with operators := operators } : Session).cloneReaderCall bound name)
      (s.cloneReaderCall bound name) := by
  simp only [cloneReaderCall, readAccessor?_withOperators h]
  split <;> exact ⟨rfl, h, rfl⟩

theorem sameButOrder_cloneWriterCall (h : operators.SameNames s.operators) (bound : String)
    (name : AccessorName) :
    SameButOrder (({ s with operators := operators } : Session).cloneWriterCall bound name)
      (s.cloneWriterCall bound name) := by
  simp only [cloneWriterCall, writeAccessor?_withOperators h]
  split <;> exact ⟨rfl, h, rfl⟩

theorem sameButOrder_bindOperator (h : operators.SameNames s.operators) (name : String)
    (built : Except ScopeError Operator) :
    SameButOrder (({ s with operators := operators } : Session).bindOperator name built)
      (s.bindOperator name built) := by
  cases built with
  | error e => exact sameButOrder_self h _
  | ok op => exact ⟨rfl, h.insert _ _, rfl⟩

theorem sameButOrder_operatorCall (h : operators.SameNames s.operators) (name : String)
    (config : ConfigSource) (context : Context) (source : OperatorSource) :
    SameButOrder
      (({ s with operators := operators } : Session).operatorCall digest name config context source)
      (s.operatorCall digest name config context source) := by
  simp only [operatorCall]
  split
  · exact sameButOrder_self h _
  · split
    · exact sameButOrder_bindOperator (s := { s with nextSchema := s.nextSchema + 1 }) h name _
    · split
      · exact sameButOrder_self h _
      · exact sameButOrder_bindOperator h name _
    · split
      · exact sameButOrder_self h _
      · exact sameButOrder_bindOperator h name _

theorem sameButOrder_cloneOperatorCall (h : operators.SameNames s.operators)
    (bound operator : String) :
    SameButOrder (({ s with operators := operators } : Session).cloneOperatorCall bound operator)
      (s.cloneOperatorCall bound operator) := by
  simp only [cloneOperatorCall, h operator]
  split
  · exact sameButOrder_self h _
  · exact ⟨rfl, (h.insert _ _).insert _ _, rfl⟩

theorem sameButOrder_materializeCall (h : operators.SameNames s.operators)
    (bound operator source : String) :
    SameButOrder
      (({ s with operators := operators } : Session).materializeCall bound operator source)
      (s.materializeCall bound operator source) := by
  simp only [materializeCall, h operator]
  split
  · split <;> exact ⟨rfl, h.insert _ _, rfl⟩
  · exact sameButOrder_self h _

theorem sameButOrder_copyIntoCall (h : operators.SameNames s.operators)
    (operator destination source : String) :
    SameButOrder
      (({ s with operators := operators } : Session).copyIntoCall operator destination source)
      (s.copyIntoCall operator destination source) := by
  simp only [copyIntoCall, h operator]
  split
  · split <;> exact ⟨rfl, h.insert _ _, rfl⟩
  · exact sameButOrder_self h _

theorem sameButOrder_queryOperator (h : operators.SameNames s.operators) (operator : String)
    (ask : Operator → Answer) :
    SameButOrder (({ s with operators := operators } : Session).queryOperator operator ask)
      (s.queryOperator operator ask) := by
  simp only [queryOperator, h operator]
  split <;> exact sameButOrder_self h _

theorem sameButOrder_operatorInfoCall (h : operators.SameNames s.operators) (operator : String)
    (other : Option String) :
    SameButOrder (({ s with operators := operators } : Session).operatorInfoCall operator other)
      (s.operatorInfoCall operator other) := by
  cases other with
  | none => exact sameButOrder_queryOperator h operator _
  | some other =>
    simp only [operatorInfoCall, h other]
    split
    · exact sameButOrder_self h _
    · exact sameButOrder_queryOperator h operator _

theorem sameButOrder_drainCall (h : operators.SameNames s.operators) (operator : String) :
    SameButOrder (({ s with operators := operators } : Session).drainCall operator)
      (s.drainCall operator) := by
  simp only [drainCall, h operator]
  split
  · exact sameButOrder_self h _
  · exact ⟨rfl, h.insert _ _, rfl⟩

/-- No call looks at the order of the operators. -/
theorem Reorders.sameButOrder_stepBy (h : t.Reorders s) (digest : Layout.DigestFunction)
    (call : Call) :
    SameButOrder (t.stepBy digest call) (s.stepBy digest call) := by
  obtain ⟨operators, hnames, rfl⟩ := h.exists_operators
  cases huses : call.usesOperators with
  | false =>
    have hkept : (s.stepBy digest call).2.operators = s.operators :=
      congrArg (fun done : Answer × Session => done.2.operators)
        (s.stepBy_withOperators digest huses s.operators)
    rw [s.stepBy_withOperators digest huses operators]
    refine ⟨rfl, reorders_withOperators ?_⟩
    rw [hkept]
    exact hnames
  | true =>
    cases call with
    | read record accessor => exact sameButOrder_readCall hnames record accessor
    | write record accessor value => exact sameButOrder_writeCall hnames record accessor value
    | cloneReader name accessor => exact sameButOrder_cloneReaderCall hnames name accessor
    | cloneWriter name accessor => exact sameButOrder_cloneWriterCall hnames name accessor
    | operator name config context source =>
      exact sameButOrder_operatorCall hnames name config context source
    | cloneOperator name operator => exact sameButOrder_cloneOperatorCall hnames name operator
    | materialize name operator source =>
      exact sameButOrder_materializeCall hnames name operator source
    | copyInto operator destination source =>
      exact sameButOrder_copyIntoCall hnames operator destination source
    | profiles operator => exact sameButOrder_queryOperator hnames operator _
    | operatorInfo operator other => exact sameButOrder_operatorInfoCall hnames operator other
    | drain operator => exact sameButOrder_drainCall hnames operator
    | events operator => exact sameButOrder_queryOperator hnames operator _
    | lines operator => exact sameButOrder_queryOperator hnames operator _
    | _ => cases huses

/-! ## Leaving drains out -/

/-- Two sessions that differ in their logs and in the order of their operators at most. -/
def SameButHistory (t s : Session) : Prop := t.unlogged.Reorders s.unlogged

theorem SameButHistory.stepBy (h : t.SameButHistory s) (digest : Layout.DigestFunction)
    (call : Call) :
    (t.stepBy digest call).2.SameButHistory (s.stepBy digest call).2 ∧
      (call.readsLog = false → (t.stepBy digest call).1 = (s.stepBy digest call).1) := by
  obtain ⟨ht, htAnswer⟩ := logsApart_stepBy digest t call
  obtain ⟨hs, hsAnswer⟩ := logsApart_stepBy digest s call
  obtain ⟨hanswer, hsession⟩ := h.sameButOrder_stepBy digest call
  constructor
  · rw [SameButHistory, ← ht, ← hs]
    exact hsession.unlogged
  · intro hcall
    rw [← htAnswer hcall, ← hsAnswer hcall, hanswer]

/-- A drain takes the log of an operator and nothing else. -/
theorem sameButHistory_drain (digest : Layout.DigestFunction) (s : Session) (name : String) :
    (s.stepBy digest (.drain name)).2.SameButHistory s := by
  rw [stepBy, drainCall]
  cases hop : s.operators.get? name with
  | none => exact .refl _
  | some op =>
    refine ⟨?_, rfl⟩
    intro other
    rw [get?_unlogged, get?_unlogged]
    by_cases he : other = name
    · subst he
      rw [Table.get?_insert_self, hop]
      rfl
    · rw [Table.get?_insert_of_ne _ _ he]

theorem SameButHistory.trans {u : Session} (h : u.SameButHistory t) (h' : t.SameButHistory s) :
    u.SameButHistory s :=
  Reorders.trans h h'

/-- The calls of a run that do not drain the operator of a name. -/
def undrained (name : String) (calls : List Call) : List Call :=
  calls.filter fun call => call != .drain name

theorem undrained_cons_drain (name : String) (calls : List Call) :
    undrained name (.drain name :: calls) = undrained name calls :=
  List.filter_cons_of_neg (by simp)

theorem undrained_cons_of_ne (hcall : call ≠ .drain name) (calls : List Call) :
    undrained name (call :: calls) = call :: undrained name calls :=
  List.filter_cons_of_pos (by simpa using hcall)

/-- What depends on nothing but the answers of calls that do not read logs comes out the same
without the drains. -/
theorem collect_undrained {α : Type} {f : Call → Answer → List α}
    (hf : ∀ call answer, call.readsLog = true → f call answer = []) (h : t.SameButHistory s)
    (calls : List Call) :
    t.collect digest (fun _ => f) (undrained name calls) =
      s.collect digest (fun _ => f) calls := by
  induction calls generalizing s t with
  | nil => rfl
  | cons call calls ih =>
    by_cases hcall : call = .drain name
    · subst hcall
      have hdrained := sameButHistory_drain digest s name
      rw [undrained_cons_drain, collect, hf _ _ rfl, List.nil_append]
      exact ih (h.trans hdrained.symm)
    · obtain ⟨hsession, hanswer⟩ := h.stepBy digest call
      rw [undrained_cons_of_ne hcall, collect, collect, ih hsession]
      cases hreads : call.readsLog with
      | true => rw [hf _ _ hreads, hf _ _ hreads]
      | false => rw [hanswer hreads]

/-- Without the drains of a run, the log of the operator holds what they took and what they left. -/
theorem log_undrained (h : s.Sound digest) (hkept : ∀ call ∈ calls, call.operatorName? ≠ some name)
    {op : Operator} (hop : s.operators.get? name = some op) :
    ∃ used whole, (s.runBy digest calls).operators.get? name = some used ∧
      (s.runBy digest (undrained name calls)).operators.get? name = some whole ∧
      whole.log = s.collect digest (fun _ => drained name) calls ++ used.log := by
  have hkept' : ∀ call ∈ undrained name calls, call.operatorName? ≠ some name :=
    fun call hm => hkept call (List.mem_filter.mp hm).1
  obtain ⟨used, hused, hrun⟩ := exists_useRun h hkept hop
  obtain ⟨whole, hwhole, hrun'⟩ := exists_useRun h hkept' hop
  have hnone : s.collect digest (fun _ => drained name) (undrained name calls) = [] := by
    rw [List.eq_nil_iff_forall_not_mem]
    intro event hm
    obtain ⟨u, call, answer, hcall, hevent⟩ := mem_collect hm
    have hne : call ≠ .drain name := bne_iff_ne.mp (List.mem_filter.mp hcall).2
    unfold drained at hevent
    split at hevent
    · rw [if_neg hne] at hevent
      cases hevent
    · cases hevent
  refine ⟨used, whole, hused, hwhole, ?_⟩
  calc whole.log
    _ = s.collect digest (fun _ => drained name) (undrained name calls) ++ whole.log := by
      rw [hnone, List.nil_append]
    _ = op.log ++ s.collect digest (fun _ => op.entries name) calls := by
      rw [hrun'.log_eq, collect_undrained (op.entries_of_readsLog name) (.refl _)]
    _ = s.collect digest (fun _ => drained name) calls ++ used.log := hrun.log_eq.symm

end Session

end LoopScope
