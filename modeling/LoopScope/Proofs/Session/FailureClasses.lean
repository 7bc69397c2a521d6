import LoopScope.Proofs.Session.Failures
import LoopScope.Proofs.Session.Log
/-!
# Two classes of failures

A failure belongs to the construction of operators or to their use. Whatever builds an operator
fails in the first way only, whatever works on records in the second only, and the codes of the two
classes are apart. So the log of an operator, which tells of copies, has no code of a construction
failure.
-/
namespace LoopScope

variable {digest : Layout.DigestFunction} {e : ScopeError}

/-- The call builds an operator. -/
def Call.builds : Call → Bool
  | .operator _ _ _ _ => true
  | _ => false

/-- The codes of construction failures. -/
def ScopeError.constructionCodes : List String :=
  ["FE-ITER-0001", "FE-ITER-0002", "FE-ITER-0003", "FE-ITER-0004", "FE-ITER-0101", "FE-ITER-0102",
    "FE-ITER-0103", "FE-ITER-0104"]

theorem ScopeError.isConstructionFailure_iff_code (e : ScopeError) :
    e.isConstructionFailure = true ↔ e.code ∈ constructionCodes := by
  cases e with
  | schema defect =>
    cases defect <;>
      simp [isConstructionFailure, code, SchemaError.code, constructionCodes]
  | _ => simp [isConstructionFailure, code, constructionCodes]

/-- A code tells which class a failure is of. -/
theorem ScopeError.isConstructionFailure_eq_of_code {e' : ScopeError} (h : e.code = e'.code) :
    e.isConstructionFailure = e'.isConstructionFailure := by
  rw [Bool.eq_iff_iff, isConstructionFailure_iff_code, isConstructionFailure_iff_code, h]

/-- The calls that build operators have construction failures, and no other call has one. -/
theorem Call.CanFail.isConstructionFailure_eq {call : Call} (h : call.CanFail e) :
    e.isConstructionFailure = call.builds := by
  cases call with
  | get record binding => rcases h with rfl | rfl <;> rfl
  | set record binding value => rcases h with rfl | rfl <;> rfl
  | operator name config context source => exact h
  | materialize name operator source => rcases h with rfl | ⟨hash, slots, rfl⟩ <;> rfl
  | copyInto operator destination source =>
    rcases h with rfl | ⟨role, hash, slots, rfl⟩ | ⟨a, b, rfl⟩ <;> rfl
  | _ =>
    cases h
    rfl

/-! ## Construction -/

namespace Operator

/-- What the constructions of operators fail with. -/
inductive ConstructionFails (digest : Layout.DigestFunction) : ScopeError → Prop
  | build {schema : SharedSchema} {reads writes : List Accessor} {config : Config}
      {context : Context} {e : ScopeError}
      (refused : Operator.build schema reads writes config context = .error e) :
      ConstructionFails digest e
  | forSchema {schema : SharedSchema} {config : Config} {context : Context} {e : ScopeError}
      (refused : Operator.forSchema schema config context = .error e) : ConstructionFails digest e
  | ofSlots {number : Nat} {slots : List Slot} {config : Config} {context : Context}
      {e : ScopeError} (refused : ofSlotsBy digest number slots config context = .error e) :
      ConstructionFails digest e

theorem ConstructionFails.isConstructionFailure (h : ConstructionFails digest e) :
    e.isConstructionFailure = true := by
  cases h with
  | build refused => exact isConstructionFailure_of_build refused
  | forSchema refused => exact isConstructionFailure_of_build refused
  | ofSlots refused => exact isConstructionFailure_of_ofSlotsBy refused

/-- A schema is refused for its size only. -/
theorem forSchema_eq_error {schema : SharedSchema} {config : Config} {context : Context}
    (h : forSchema schema config context = .error e) :
    e = .schemaTooLarge schema.schema.length config.maxSlots := by
  rw [forSchema_eq] at h
  split at h
  · cases h
    rfl
  · cases h

/-- A list of slots is refused for its first defect, and for its size if it has none. -/
theorem ofSlotsBy_eq_error {number : Nat} {slots : List Slot} {config : Config} {context : Context}
    (h : ofSlotsBy digest number slots config context = .error e) :
    e = .schemaTooLarge slots.length config.maxSlots ∨
      ∃ defect, Schema.ofSlotsBy digest slots = .error defect ∧ e = .schema defect := by
  unfold ofSlotsBy at h
  split at h
  · rename_i defect hdefect
    cases h
    exact .inr ⟨defect, hdefect, rfl⟩
  · rename_i schema hschema
    have hlarge := forSchema_eq_error h
    rw [Schema.length, (Schema.wellFormed_of_ofSlotsBy hschema).1] at hlarge
    exact .inl hlarge

end Operator

/-! ## Use -/

theorem Accessor.read_eq_error {a : Accessor} {record : Record} (h : a.read record = .error e) :
    e = .missingSlot a.index := by
  unfold read at h
  split at h
  · cases h
  · cases h
    rfl

theorem Accessor.write_eq_error {a : Accessor} {record : Record} {value : Value}
    (h : a.write record value = .error e) : e = .missingSlot a.index := by
  unfold write at h
  split at h
  · cases h
  · cases h
    rfl

theorem Store.parent_eq_error {s : Store} {r : RecordId} (h : s.parent r = .error e) :
    e = .recordBusy ∨ e = .missingSlot parentSlot := by
  unfold parent at h
  split at h
  · rename_i hread
    cases h
    exact .inl (toRead_eq_error hread)
  · split at h
    · cases h
    · cases h
      exact .inr rfl

namespace Session

variable {s t : Session} {call : Call} {name : String} {op used : Operator} {event : Event}

/-- What operations on the records of a session fail with, with or without debug checks. -/
inductive RunFails (s : Session) : ScopeError → Prop
  | materialize {name : String} {op : Operator} {source : RecordId} {e : ScopeError}
      (found : s.operators.get? name = some op) (sourceHeld : s.HasHandle source)
      (refused : (op.materialize s.store source).1 = .error e) : RunFails s e
  | copyInto {name : String} {op : Operator} {debugChecks : Bool} {destination source : RecordId}
      {e : ScopeError}
      (found : s.operators.get? name = some op) (destinationHeld : s.HasHandle destination)
      (sourceHeld : s.HasHandle source)
      (refused : (op.copyInto debugChecks s.store destination source).1 = .error e) : RunFails s e
  | get {r : RecordId} {binding : String} {e : ScopeError}
      (refused : s.store.get r binding = .error e) : RunFails s e
  | set {r : RecordId} {binding : String} {value : Value} {e : ScopeError}
      (refused : s.store.set r binding value = .error e) : RunFails s e
  | parent {r : RecordId} {e : ScopeError} (refused : s.store.parent r = .error e) : RunFails s e
  | snapshot {r : RecordId} {e : ScopeError} (refused : s.store.snapshot r = .error e) :
      RunFails s e
  | lend {r : RecordId} {mode : LoanMode} {e : ScopeError}
      (refused : s.store.lend r mode = .error e) : RunFails s e
  | read {a : Accessor} {record : Record} {e : ScopeError} (refused : a.read record = .error e) :
      RunFails s e
  | write {a : Accessor} {record : Record} {value : Value} {e : ScopeError}
      (refused : a.write record value = .error e) : RunFails s e

theorem Sound.materialize_eq_error (h : s.Sound digest) (hop : s.operators.get? name = some op)
    {source : RecordId} (hsource : s.HasHandle source)
    (hrefused : (op.materialize s.store source).1 = .error e) :
    e = .recordBusy ∨ ∃ hash slots, e = .nonConformantRecord .source hash slots := by
  obtain ⟨record, guard, hc⟩ := h.exists_content hsource
  exact (h.operators hop).materialize_eq_error hc hrefused

theorem Sound.copyInto_eq_error (h : s.Sound digest) (hop : s.operators.get? name = some op)
    {debugChecks : Bool} {destination source : RecordId} (hinto : s.HasHandle destination)
    (hsource : s.HasHandle source)
    (hrefused : (op.copyInto debugChecks s.store destination source).1 = .error e) :
    e = .recordBusy ∨ (∃ role hash slots, e = .nonConformantRecord role hash slots) ∨
      ∃ a b : Value, e = .parentLinkDiverged a.render b.render := by
  obtain ⟨into, intoGuard, hd⟩ := h.exists_content hinto
  obtain ⟨record, guard, hc⟩ := h.exists_content hsource
  obtain ⟨intoParent, hintoParent⟩ := (h.records hd).exists_parent
  obtain ⟨parent, hparent⟩ := (h.records hc).exists_parent
  rcases (h.operators hop).copyInto_eq_error hd hc hintoParent hparent hrefused with
    he | he | ⟨-, he⟩
  · exact .inl he
  · exact .inr (.inl he)
  · exact .inr (.inr ⟨_, _, he⟩)

theorem RunFails.isConstructionFailure (h : s.Sound digest) (hf : s.RunFails e) :
    e.isConstructionFailure = false := by
  cases hf with
  | materialize found sourceHeld refused =>
    rcases h.materialize_eq_error found sourceHeld refused with rfl | ⟨hash, slots, rfl⟩ <;> rfl
  | copyInto found destinationHeld sourceHeld refused =>
    rcases h.copyInto_eq_error found destinationHeld sourceHeld refused with
      rfl | ⟨role, hash, slots, rfl⟩ | ⟨a, b, rfl⟩ <;> rfl
  | get refused => rcases Store.get_eq_error refused with rfl | rfl <;> rfl
  | set refused => rcases Store.set_eq_error refused with rfl | rfl <;> rfl
  | parent refused => rcases Store.parent_eq_error refused with rfl | rfl <;> rfl
  | snapshot refused =>
    rw [Store.snapshot_eq_error refused]
    rfl
  | lend refused =>
    rw [Store.lend_eq_error refused]
    rfl
  | read refused =>
    rw [Accessor.read_eq_error refused]
    rfl
  | write refused =>
    rw [Accessor.write_eq_error refused]
    rfl

/-! ## Logs -/

/-- The event tells of no failure, or of one that is found in use. -/
def TellsOfUse (event : Event) : Prop :=
  event.errorCode = none ∨
    ∃ e : ScopeError, e.isConstructionFailure = false ∧ event.errorCode = some e.code

theorem TellsOfUse.ne_code (h : TellsOfUse event) (he : e.isConstructionFailure = true) :
    event.errorCode ≠ some e.code := by
  intro hcode
  rcases h with hnone | ⟨other, hother, hsome⟩
  · rw [hcode] at hnone
    cases hnone
  · rw [hcode, Option.some.injEq] at hsome
    rw [ScopeError.isConstructionFailure_eq_of_code hsome, hother] at he
    cases he

/-- No operator has logged a construction failure. -/
def LogsTellOfUse (s : Session) : Prop :=
  ∀ name op, s.operators.get? name = some op → ∀ event ∈ op.log, TellsOfUse event

theorem tellsOfUse_of_passEntries {what : String} (hm : event ∈ op.passEntries what) :
    TellsOfUse event := by
  unfold Operator.passEntries at hm
  split at hm
  · rw [List.mem_singleton.mp hm]
    exact .inl rfl
  · cases hm

/-- What an operator logs of a call tells of the failure that the call is answered with. -/
theorem tellsOfUse_of_entries {answer : Answer}
    (hanswer : ∀ e, answer = .failed e → call.CanFail e)
    (hm : event ∈ op.entries name call answer) : TellsOfUse event := by
  unfold Operator.entries at hm
  split at hm
  · split at hm
    · rw [List.mem_singleton.mp hm]
      exact .inr ⟨_, (hanswer _ rfl).isConstructionFailure_eq, rfl⟩
    · exact tellsOfUse_of_passEntries hm
    · rw [List.mem_singleton.mp hm]
      exact .inr ⟨_, (hanswer _ rfl).isConstructionFailure_eq, rfl⟩
    · exact tellsOfUse_of_passEntries hm
    · rw [List.mem_singleton.mp hm]
      exact .inl rfl
    · cases hm
  · cases hm

theorem LogsTellOfUse.stepBy (hl : s.LogsTellOfUse) (h : s.Sound digest) (call : Call) :
    (s.stepBy digest call).2.LogsTellOfUse := by
  intro name op hop event hm
  rcases origin_of_operator h hop with
    ⟨before, hbefore, huse⟩ | ⟨reads, writes, config, context, hbuilt, -⟩ |
    ⟨source, before, -, rfl⟩
  · have hlogged : event ∈ before.log ++ before.entries name call (s.stepBy digest call).1 := by
      rw [← huse.log_eq]
      exact List.mem_append_right _ hm
    rcases List.mem_append.mp hlogged with hold | hnew
    · exact hl name before hbefore event hold
    · exact tellsOfUse_of_entries (fun e he => canFail_of_stepBy h call he) hnew
  · obtain ⟨hop, -⟩ := Operator.build_eq_ok hbuilt
    rw [hop] at hm
    rw [List.mem_singleton.mp hm]
    exact .inl rfl
  · cases hm

theorem LogsTellOfUse.runBy (hl : s.LogsTellOfUse) (h : s.Sound digest) (calls : List Call) :
    (s.runBy digest calls).LogsTellOfUse := by
  induction calls generalizing s with
  | nil => exact hl
  | cons call calls ih => exact ih (hl.stepBy h call) (h.stepBy call)

theorem logsTellOfUse_of_reachable (hs : s.Reachable digest) : s.LogsTellOfUse := by
  obtain ⟨debugChecks, calls, rfl⟩ := hs
  have hempty : (empty debugChecks).LogsTellOfUse := nofun
  exact hempty.runBy (sound_empty digest debugChecks) calls

/-- Building an operator fails in one class of ways and working on records in the other. A schema is
refused for its size only, a list of slots for its size or its first defect, and copies for borrows,
layouts and, in a refresh, parent links. Calls that build operators, and no others, are answered
with construction failures, and no operator ever logs the code of one. -/
theorem failure_classes_apart (digest : Layout.DigestFunction) :
    (∀ e, Operator.ConstructionFails digest e → e.isConstructionFailure = true) ∧
    (∀ schema config context e, Operator.forSchema schema config context = .error e →
      e = .schemaTooLarge schema.schema.length config.maxSlots) ∧
    (∀ number slots config context e,
      Operator.ofSlotsBy digest number slots config context = .error e →
        e = .schemaTooLarge slots.length config.maxSlots ∨
          ∃ defect, Schema.ofSlotsBy digest slots = .error defect ∧ e = .schema defect) ∧
    ∀ s : Session, s.Reachable digest →
      (∀ e, s.RunFails e → e.isConstructionFailure = false) ∧
      (∀ call e, (s.stepBy digest call).1 = .failed e → e.isConstructionFailure = call.builds) ∧
      ∀ name op, s.operators.get? name = some op →
        (∀ source e, s.HasHandle source → (op.materialize s.store source).1 = .error e →
          e = .recordBusy ∨ ∃ hash slots, e = .nonConformantRecord .source hash slots) ∧
        (∀ debugChecks destination source e, s.HasHandle destination → s.HasHandle source →
          (op.copyInto debugChecks s.store destination source).1 = .error e →
            e = .recordBusy ∨ (∃ role hash slots, e = .nonConformantRecord role hash slots) ∨
              ∃ a b : Value, e = .parentLinkDiverged a.render b.render) ∧
        ∀ event ∈ op.log, ∀ e : ScopeError, e.isConstructionFailure = true →
          event.errorCode ≠ some e.code := by
  refine ⟨?construction, ?forSchema, ?ofSlots, ?use⟩
  case construction =>
    intro e h
    exact h.isConstructionFailure
  case forSchema =>
    intro schema config context e h
    exact Operator.forSchema_eq_error h
  case ofSlots =>
    intro number slots config context e h
    exact Operator.ofSlotsBy_eq_error h
  case use =>
    intro s hs
    have hsound := sound_of_reachable hs
    refine ⟨?records, ?answers, ?operators⟩
    case records =>
      intro e h
      exact h.isConstructionFailure hsound
    case answers =>
      intro call e h
      exact (canFail_of_stepBy hsound call h).isConstructionFailure_eq
    case operators =>
      intro name op hop
      refine ⟨?materialize, ?copyInto, ?log⟩
      case materialize =>
        intro source e hsource h
        exact hsound.materialize_eq_error hop hsource h
      case copyInto =>
        intro debugChecks destination source e hinto hsource h
        exact hsound.copyInto_eq_error hop hinto hsource h
      case log =>
        intro event hm e he
        exact (logsTellOfUse_of_reachable hs name op hop event hm).ne_code he

/-- A client refreshes a record that it has borrowed. -/
def refusedCalls : List Call :=
  [.lend "second" .exclusive, .copyInto "next" "second" "first"]

/-- The sample after these calls. -/
def refusedSample : Session := sample.runBy (fun _ => []) refusedCalls

theorem reachable_refusedSample : refusedSample.Reachable fun _ => [] :=
  reachable_sample.runBy refusedCalls

theorem failure_classes_apart_sample :
    ∃ op, refusedSample.operators.get? "next" = some op ∧
      .make .blank "copy_into" (some "FE-ITER-0009") "sha256:" 2 ∈ op.log ∧
      ∀ event ∈ op.log, event.errorCode ≠ some "FE-ITER-0004" := by
  have hop : refusedSample.operators.get? "next" =
      some { sampleOperator with
        log := sampleOperator.log ++
          [.make .blank "copy_into" (some "FE-ITER-0009") "sha256:" 2] } := by cbv
  obtain ⟨-, -, -, hsessions⟩ := failure_classes_apart fun _ => []
  obtain ⟨-, -, hoperators⟩ := hsessions refusedSample reachable_refusedSample
  obtain ⟨-, -, hlog⟩ := hoperators "next" _ hop
  refine ⟨_, hop, List.mem_append_right _ List.mem_cons_self, ?_⟩
  intro event hm
  exact hlog event hm (.schemaTooLarge 2 1) rfl

end Session

end LoopScope
