import LoopScope.Proofs.Session.Copies
/-!
# How calls can fail

Most calls fail on a busy record only. A few have failures of their own, which `Call.CanFail` lists.
No call of a reachable session finds a slot missing: records have the slots of their schemas, and
operators have the accessors of theirs.
-/
namespace LoopScope

variable {digest : Layout.DigestFunction} {e : ScopeError}

/-- The failures that a call can be answered with. -/
def Call.CanFail : Call → ScopeError → Prop
  | .get _ binding, e | .set _ binding _, e => e = .recordBusy ∨ e = .unknownBinding binding
  | .operator _ _ _ _, e => e.isConstructionFailure = true
  | .materialize _ _ _, e =>
    e = .recordBusy ∨ ∃ hash slots, e = .nonConformantRecord .source hash slots
  | .copyInto _ _ _, e =>
    e = .recordBusy ∨ (∃ role hash slots, e = .nonConformantRecord role hash slots) ∨
      ∃ a b : Value, e = .parentLinkDiverged a.render b.render
  | _, e => e = .recordBusy

theorem Call.not_canFail_missingSlot (call : Call) (index : Nat) :
    ¬ call.CanFail (.missingSlot index) := by
  cases call <;> simp [CanFail, ScopeError.isConstructionFailure]

/-! ## Failures in the store -/

namespace Store

variable {s : Store} {r : RecordId}

theorem toRead_eq_error (h : s.toRead r = .error e) : e = .recordBusy := by
  unfold toRead at h
  split at h
  · split at h
    · cases h
    · cases h
      rfl
  · cases h
    rfl

theorem toWrite_eq_error (h : s.toWrite r = .error e) : e = .recordBusy := by
  unfold toWrite at h
  split at h
  · split at h
    · cases h
    · cases h
      rfl
  · cases h
    rfl

theorem get_eq_error {name : String} (h : s.get r name = .error e) :
    e = .recordBusy ∨ e = .unknownBinding name := by
  unfold get at h
  split at h
  · rename_i hread
    cases h
    exact .inl (toRead_eq_error hread)
  · split at h
    · cases h
    · cases h
      exact .inr rfl

theorem set_eq_error {name : String} {value : Value} (h : s.set r name value = .error e) :
    e = .recordBusy ∨ e = .unknownBinding name := by
  unfold set at h
  split at h
  · rename_i hwrite
    cases h
    exact .inl (toWrite_eq_error hwrite)
  · split at h
    · cases h
    · cases h
      exact .inr rfl

theorem assign_eq_error {index : Nat} {value : Value} (h : s.assign r index value = .error e) :
    e = .recordBusy := by
  unfold assign at h
  split at h
  · rename_i hwrite
    cases h
    exact toWrite_eq_error hwrite
  · split at h <;> cases h

theorem snapshot_eq_error (h : s.snapshot r = .error e) : e = .recordBusy := by
  unfold snapshot at h
  split at h
  · rename_i hread
    cases h
    exact toRead_eq_error hread
  · cases h

theorem readThrough_eq_error {a : Accessor} (h : s.readThrough r a = .error e) :
    e = .recordBusy := by
  unfold readThrough at h
  split at h
  · rename_i hread
    cases h
    exact toRead_eq_error hread
  · split at h <;> cases h

theorem writeThrough_eq_error {a : Accessor} {value : Value}
    (h : s.writeThrough r a value = .error e) : e = .recordBusy := by
  unfold writeThrough at h
  split at h
  · rename_i hwrite
    cases h
    exact toWrite_eq_error hwrite
  · split at h <;> cases h

theorem clone_eq_error (h : s.clone r = .error e) : e = .recordBusy := by
  unfold clone at h
  split at h
  · rename_i hread
    cases h
    exact toRead_eq_error hread
  · cases h

theorem lend_eq_error {mode : LoanMode} (h : s.lend r mode = .error e) : e = .recordBusy := by
  unfold lend at h
  split at h
  · cases h
    rfl
  · split at h
    · cases h
      rfl
    · cases h

/-- The parent link of a record that has slots. -/
theorem parent_of_content? {record : Record} {guard : Guard} {parent : Value}
    (hc : s.content? r = some (record, guard)) (hparent : record.slots[parentSlot]? = some parent) :
    s.parent r = if guard = .exclusive then .error .recordBusy else .ok parent := by
  rw [Store.parent, toRead_of_content? hc]
  by_cases hg : guard = .exclusive
  · simp only [hg, if_true]
  · simp only [hg, if_false, Record.parent?, Record.slot?, hparent]

end Store

/-! ## Failures of operators -/

namespace Operator

variable {op : Operator}

theorem isConstructionFailure_of_misaligned {position : Nat} {reads writes : List Accessor}
    (h : firstMisaligned? position reads writes = some e) : e.isConstructionFailure = true := by
  induction reads generalizing position writes with
  | nil => simp [firstMisaligned?] at h
  | cons read reads ih =>
    cases writes with
    | nil => simp [firstMisaligned?] at h
    | cons write writes =>
      rw [firstMisaligned?] at h
      split at h
      · cases h
        rfl
      · exact ih h

theorem isConstructionFailure_of_build {schema : SharedSchema} {reads writes : List Accessor}
    {config : Config} {context : Context}
    (h : build schema reads writes config context = .error e) : e.isConstructionFailure = true := by
  unfold build at h
  split at h
  · cases h
    rfl
  split at h
  · cases h
    rfl
  split at h
  · cases h
    rfl
  split at h
  · rename_i hmisaligned
    cases h
    exact isConstructionFailure_of_misaligned hmisaligned
  · cases h

theorem isConstructionFailure_of_ofSlotsBy {number : Nat} {slots : List Slot} {config : Config}
    {context : Context} (h : ofSlotsBy digest number slots config context = .error e) :
    e.isConstructionFailure = true := by
  unfold ofSlotsBy at h
  split at h
  · cases h
    rfl
  · exact isConstructionFailure_of_build h

/-- A well-formed operator makes the next record unless the source is busy or of another layout. -/
theorem WellFormed.materialize_eq_error (hop : op.WellFormed digest) {s : Store}
    {source : RecordId} {record : Record} {guard : Guard}
    (hc : s.content? source = some (record, guard)) (h : (op.materialize s source).1 = .error e) :
    e = .recordBusy ∨ ∃ hash slots, e = .nonConformantRecord .source hash slots := by
  rw [materialize_eq hop hc] at h
  split at h
  · cases h
    exact .inl rfl
  · split at h
    · cases h
    · cases h
      exact .inr ⟨_, _, rfl⟩

/-- A well-formed operator refreshes a record unless one is busy or of another layout, or their
parent links differ. The report of the latter prints both links. -/
theorem WellFormed.copyInto_eq_error (hop : op.WellFormed digest) {s : Store}
    {destination source : RecordId} {into record : Record} {intoGuard guard : Guard}
    {intoParent parent : Value} {debugChecks : Bool}
    (hd : s.content? destination = some (into, intoGuard))
    (hc : s.content? source = some (record, guard))
    (hintoParent : into.slots[parentSlot]? = some intoParent)
    (hparent : record.slots[parentSlot]? = some parent)
    (h : (op.copyInto debugChecks s destination source).1 = .error e) :
    e = .recordBusy ∨ (∃ role hash slots, e = .nonConformantRecord role hash slots) ∨
      intoParent ≠ parent ∧ e = .parentLinkDiverged intoParent.render parent.render := by
  by_cases hne : destination = source
  · subst hne
    rw [copyInto_self_eq op debugChecks hc] at h
    split at h
    · cases h
      exact .inl rfl
    · split at h
      · cases h
      · cases h
        exact .inr (.inl ⟨_, _, _, rfl⟩)
  · rw [copyInto_eq hop debugChecks hne hd hc,
      checkRefresh_of_parents op debugChecks hparent hintoParent] at h
    split at h
    · cases h
      exact .inl rfl
    · split at h
      · rename_i hcheck
        cases h
        split at hcheck
        · cases hcheck
          exact .inr (.inl ⟨_, _, _, rfl⟩)
        · split at hcheck
          · cases hcheck
            exact .inr (.inl ⟨_, _, _, rfl⟩)
          · split at hcheck
            · rename_i hdiverged
              cases hcheck
              exact .inr (.inr ⟨hdiverged.2, rfl⟩)
            · cases hcheck
      · cases h

end Operator

/-! ## Failures of calls -/

namespace Session

variable {s : Session} {call : Call}

theorem eq_error_of_answerOr {α : Type} {answer : α → Answer} {outcome : Except ScopeError α}
    (h : answerOr answer outcome = .failed e) (hanswer : ∀ a, answer a ≠ .failed e) :
    outcome = .error e := by
  cases outcome with
  | ok a => exact (hanswer a h).elim
  | error other =>
    cases h
    rfl

theorem exists_of_query {name : String} {ask : RecordId → Answer}
    (h : (s.query name ask).1 = .failed e) :
    ∃ r, s.records.get? name = some r ∧ ask r = .failed e := by
  unfold query at h
  split at h
  · cases h
  · exact ⟨_, ‹_›, h⟩

/-- A pair of records is looked into unless one of them is busy. -/
theorem queryPair_eq_failed {a b : String} {ask : Record → Record → Answer}
    (h : (s.queryPair a b ask).1 = .failed e) (hanswer : ∀ x y, ask x y ≠ .failed e) :
    e = .recordBusy := by
  unfold queryPair at h
  split at h
  · split at h
    · exact (hanswer _ _ h).elim
    · rename_i hread
      cases h
      exact Store.toRead_eq_error hread
    · rename_i hread
      cases h
      exact Store.toRead_eq_error hread
  · cases h

theorem exists_of_queryOperator {name : String} {ask : Operator → Answer}
    (h : (s.queryOperator name ask).1 = .failed e) : ∃ op, ask op = .failed e := by
  unfold queryOperator at h
  split at h
  · cases h
  · exact ⟨_, h⟩

theorem bindOperator_eq_failed {name : String} {built : Except ScopeError Operator}
    (h : (s.bindOperator name built).1 = .failed e) : built = .error e := by
  cases built with
  | error other =>
    cases h
    rfl
  | ok op => cases h

theorem infoOf_eq_failed (h : s.Sound digest) {r : RecordId} (hr : s.HasHandle r)
    (hf : s.infoOf r = .failed e) : e = .recordBusy := by
  obtain ⟨record, guard, hc⟩ := h.exists_content hr
  obtain ⟨parent, hparent⟩ := (h.records hc).exists_parent
  have hread := Store.toRead_of_content? hc
  unfold infoOf at hf
  split at hf
  · rename_i herror
    cases hf
    exact Store.toRead_eq_error herror
  · rename_i found hok
    rw [hread] at hok
    split at hok
    · cases hok
    · cases hok
      simp only [Record.parent?, hparent] at hf
      cases hf

theorem operatorCall_eq_failed {name : String} {config : ConfigSource} {context : Context}
    {source : OperatorSource}
    (h : (s.operatorCall digest name config context source).1 = .failed e) :
    e.isConstructionFailure = true := by
  unfold operatorCall at h
  split at h
  · cases h
  · split at h
    · exact Operator.isConstructionFailure_of_ofSlotsBy (bindOperator_eq_failed h)
    · split at h
      · cases h
      · exact Operator.isConstructionFailure_of_build (bindOperator_eq_failed h)
    · split at h
      · cases h
      · exact Operator.isConstructionFailure_of_build (bindOperator_eq_failed h)

theorem materializeCall_eq_failed (h : s.Sound digest) {name operator source : String}
    (hf : (s.materializeCall name operator source).1 = .failed e) :
    e = .recordBusy ∨ ∃ hash slots, e = .nonConformantRecord .source hash slots := by
  rcases materializeCall_cases h name operator source with
    ⟨-, hcall⟩ | ⟨op, r, record, guard, other, hop, hr, hc, -, hrefused, hcall⟩ |
    ⟨op, r, record, guard, snapshot, hop, hr, hc, -, hcall⟩
  · rw [hcall] at hf
    cases hf
  · rw [hcall] at hf
    cases hf
    exact (h.operators hop).materialize_eq_error hc hrefused
  · rw [hcall] at hf
    cases hf

/-- A refresh that is answered with a failure is one of two named records by a named operator. -/
theorem exists_of_copyIntoCall_failed (h : s.Sound digest) {operator destination source : String}
    (hf : (s.copyIntoCall operator destination source).1 = .failed e) :
    ∃ op into r, s.operators.get? operator = some op ∧
      s.records.get? destination = some into ∧ s.records.get? source = some r ∧
      (op.copyInto s.debugChecks s.store into r).1 = .error e := by
  rcases copyIntoCall_cases h operator destination source with
    hcall | ⟨op, into, r, other, hop, hinto, hr, hrefused, hcall⟩ |
    ⟨op, r, snapshot, hop, hinto, hr, hcall⟩ |
    ⟨op, into, r, old, record, guard, snapshot, hop, hinto, hr, -, -, -, -, -, hcall⟩
  · rw [hcall] at hf
    cases hf
  · rw [hcall] at hf
    cases hf
    exact ⟨op, into, r, hop, hinto, hr, hrefused⟩
  · rw [hcall] at hf
    cases hf
  · rw [hcall] at hf
    cases hf

theorem copyIntoCall_eq_failed (h : s.Sound digest) {operator destination source : String}
    (hf : (s.copyIntoCall operator destination source).1 = .failed e) :
    e = .recordBusy ∨ (∃ role hash slots, e = .nonConformantRecord role hash slots) ∨
      ∃ a b : Value, e = .parentLinkDiverged a.render b.render := by
  obtain ⟨op, into, r, hop, hinto, hr, hrefused⟩ := exists_of_copyIntoCall_failed h hf
  obtain ⟨old, oldGuard, hold⟩ := h.exists_content (hasHandle_of_name hinto)
  obtain ⟨record, guard, hc⟩ := h.exists_content (hasHandle_of_name hr)
  obtain ⟨oldParent, holdParent⟩ := (h.records hold).exists_parent
  obtain ⟨parent, hparent⟩ := (h.records hc).exists_parent
  rcases (h.operators hop).copyInto_eq_error hold hc holdParent hparent hrefused with
    he | he | ⟨-, he⟩
  · exact .inl he
  · exact .inr (.inl he)
  · exact .inr (.inr ⟨_, _, he⟩)

/-- A call fails in one of the ways that it can. -/
theorem canFail_of_stepBy (h : s.Sound digest) (call : Call)
    (hf : (s.stepBy digest call).1 = .failed e) : call.CanFail e := by
  cases call with
  | schema name slots =>
    simp only [stepBy, schemaCall] at hf
    split at hf <;> cases hf
  | arguments name values =>
    simp only [stepBy, argumentsCall] at hf
    split at hf <;> cases hf
  | dropArguments name =>
    simp only [stepBy, dropArgumentsCall] at hf
    split at hf <;> cases hf
  | record name schema parent arguments =>
    cases arguments with
    | none =>
      simp only [stepBy, recordCall] at hf
      split at hf <;> cases hf
    | some arguments =>
      simp only [stepBy, recordOverCall] at hf
      split at hf <;> cases hf
  | root name schema =>
    simp only [stepBy, recordCall] at hf
    split at hf <;> cases hf
  | cloneRecord name record =>
    simp only [stepBy, cloneRecordCall] at hf
    split at hf
    · cases hf
    · split at hf
      · rename_i hclone
        cases hf
        exact Store.clone_eq_error hclone
      · cases hf
  | «alias» name record =>
    simp only [stepBy, aliasCall] at hf
    split at hf <;> cases hf
  | drop record =>
    simp only [stepBy, dropCall] at hf
    split at hf <;> cases hf
  | get record binding =>
    obtain ⟨r, -, hask⟩ := exists_of_query hf
    exact Store.get_eq_error (eq_error_of_answerOr hask fun _ h => by cases h)
  | set record binding value =>
    simp only [stepBy, setCall] at hf
    split at hf
    · split at hf
      · rename_i hset
        cases hf
        exact Store.set_eq_error hset
      · cases hf
    · cases hf
  | parent record =>
    obtain ⟨r, hr, hask⟩ := exists_of_query hf
    obtain ⟨content, guard, hc⟩ := h.exists_content (hasHandle_of_name hr)
    obtain ⟨parent, hparent⟩ := (h.records hc).exists_parent
    have herror := eq_error_of_answerOr hask fun _ h => by cases h
    rw [Store.parent_of_content? hc hparent] at herror
    split at herror <;> cases herror
    rfl
  | slot record index =>
    obtain ⟨r, -, hask⟩ := exists_of_query hf
    exact Store.toRead_eq_error (eq_error_of_answerOr hask fun _ h => by cases h)
  | put record index value =>
    simp only [stepBy, putCall] at hf
    split at hf
    · split at hf
      · rename_i hassign
        cases hf
        exact Store.assign_eq_error hassign
      · cases hf
    · cases hf
  | snapshot record =>
    obtain ⟨r, -, hask⟩ := exists_of_query hf
    exact Store.snapshot_eq_error (eq_error_of_answerOr hask fun _ h => by cases h)
  | info record =>
    obtain ⟨r, hr, hask⟩ := exists_of_query hf
    exact infoOf_eq_failed h (hasHandle_of_name hr) hask
  | holders record =>
    obtain ⟨r, -, hask⟩ := exists_of_query hf
    cases hask
  | sameRecord a b =>
    simp only [stepBy, sameRecordCall] at hf
    split at hf <;> cases hf
  | sameArguments a b => exact queryPair_eq_failed hf fun _ _ h => by cases h
  | sameSchema a b => exact queryPair_eq_failed hf fun _ _ h => by cases h
  | conforms record schema =>
    simp only [stepBy, conformsCall] at hf
    split at hf
    · exact Store.toRead_eq_error (eq_error_of_answerOr hf fun _ h => by cases h)
    · cases hf
  | equal a b =>
    simp only [stepBy, equalCall] at hf
    split at hf <;> cases hf
  | render value =>
    simp only [stepBy] at hf
    split at hf <;> cases hf
  | lend record mode =>
    simp only [stepBy, lendCall] at hf
    split at hf
    · cases hf
    · split at hf
      · rename_i hlend
        cases hf
        exact Store.lend_eq_error hlend
      · cases hf
  | endLoan =>
    simp only [stepBy, endLoanCall] at hf
    split at hf <;> cases hf
  | reader name index => cases hf
  | writer name index => cases hf
  | read record accessor =>
    simp only [stepBy, readCall] at hf
    split at hf
    · split at hf
      · rename_i hread
        cases hf
        exact Store.readThrough_eq_error hread
      · cases hf
    · cases hf
  | write record accessor value =>
    simp only [stepBy, writeCall] at hf
    split at hf
    · split at hf
      · rename_i hwrite
        cases hf
        exact Store.writeThrough_eq_error hwrite
      · cases hf
    · cases hf
  | cloneReader name accessor =>
    simp only [stepBy, cloneReaderCall] at hf
    split at hf <;> cases hf
  | cloneWriter name accessor =>
    simp only [stepBy, cloneWriterCall] at hf
    split at hf <;> cases hf
  | accessors schema =>
    simp only [stepBy, accessorsCall] at hf
    split at hf <;> cases hf
  | operator name config context source => exact operatorCall_eq_failed hf
  | cloneOperator name operator =>
    simp only [stepBy, cloneOperatorCall] at hf
    split at hf <;> cases hf
  | materialize name operator source => exact materializeCall_eq_failed h hf
  | copyInto operator destination source => exact copyIntoCall_eq_failed h hf
  | events operator =>
    obtain ⟨op, hask⟩ := exists_of_queryOperator hf
    cases hask
  | drain operator =>
    simp only [stepBy, drainCall] at hf
    split at hf <;> cases hf
  | lines operator =>
    obtain ⟨op, hask⟩ := exists_of_queryOperator hf
    cases hask
  | profiles operator =>
    obtain ⟨op, hask⟩ := exists_of_queryOperator hf
    cases hask
  | operatorInfo operator other =>
    simp only [stepBy, operatorInfoCall] at hf
    split at hf
    · obtain ⟨op, hask⟩ := exists_of_queryOperator hf
      cases hask
    · split at hf
      · cases hf
      · obtain ⟨op, hask⟩ := exists_of_queryOperator hf
        cases hask

end Session

end LoopScope
