import LoopScope.Proofs.Session.Copies
import LoopScope.Proofs.Session.Runs
import LoopScope.Proofs.Store.Guards
/-!
# Loans

At any time the guard of a record is what the open loans of this record amount to. So a record is
refused as busy to those that its loans keep out and to nobody else, no call leaves a guard behind,
and nobody writes to a record while a reader has borrowed it.
-/
namespace LoopScope.Session

variable {digest : Layout.DigestFunction} {s t : Session} {call : Call} {calls : List Call}
  {r : RecordId} {record : Record} {guard : Guard} {mode : LoanMode}

/-- The modes of the open loans of a record, the latest loan first. -/
def modes (s : Session) (r : RecordId) : List LoanMode :=
  (s.loans.filter fun loan => loan.record = r).map Loan.mode

def Lent (s : Session) (r : RecordId) : Prop := ∃ mode, ⟨r, mode⟩ ∈ s.loans

def LentExclusively (s : Session) (r : RecordId) : Prop := ⟨r, .exclusive⟩ ∈ s.loans

/-- The loans that are open after a call. -/
def loansAfter (s : Session) (call : Call) (answer : Answer) : List Loan :=
  match call, answer with
  | .lend name mode, .done => (s.records.get? name).toList.map (⟨·, mode⟩) ++ s.loans
  | .endLoan, _ => s.loans.tail
  | _, _ => s.loans

/-- The guards are what the open loans amount to. -/
def Guarded (s : Session) : Prop :=
  ∀ r record guard, s.store.content? r = some (record, guard) →
    Guard.lentAs? (s.modes r) = some guard

theorem mem_modes : mode ∈ s.modes r ↔ ⟨r, mode⟩ ∈ s.loans := by
  simp only [modes, List.mem_map, List.mem_filter, decide_eq_true_eq]
  constructor
  · rintro ⟨loan, ⟨hm, rfl⟩, rfl⟩
    exact hm
  · intro hm
    exact ⟨_, ⟨hm, rfl⟩, rfl⟩

theorem modes_eq_nil_iff : s.modes r = [] ↔ ¬ s.Lent r := by
  rw [List.eq_nil_iff_forall_not_mem, Lent, not_exists]
  exact forall_congr' fun mode => not_congr mem_modes

theorem modes_congr (h : t.loans = s.loans) (r : RecordId) : t.modes r = s.modes r := by
  rw [modes, modes, h]

theorem modes_cons {loan : Loan} (h : t.loans = loan :: s.loans) (r : RecordId) :
    t.modes r = if loan.record = r then loan.mode :: s.modes r else s.modes r := by
  rw [modes, modes, h, List.filter_cons]
  split <;> simp_all

theorem hasHandle_of_loan {loan : Loan} (h : loan ∈ s.loans) : s.HasHandle loan.record :=
  List.mem_append_right _ (List.mem_map_of_mem h)

/-- A record that is not made yet is not lent. -/
theorem Sound.not_lent_next (h : s.Sound digest) : ¬ s.Lent ⟨s.store.records.next⟩ := by
  rintro ⟨mode, hm⟩
  exact Nat.lt_irrefl _ (h.lt_next (hasHandle_of_loan hm))

/-! ## Guards and loans in step -/

theorem Guarded.exclusive_iff (hg : s.Guarded) (hc : s.store.content? r = some (record, guard)) :
    guard = .exclusive ↔ s.LentExclusively r :=
  (Guard.eq_exclusive_iff (hg r record guard hc)).trans mem_modes

theorem Guarded.not_free_iff (hg : s.Guarded) (hc : s.store.content? r = some (record, guard)) :
    guard ≠ .free ↔ s.Lent r := by
  rw [ne_eq, Guard.eq_free_iff (hg r record guard hc), modes_eq_nil_iff, not_not]

/-- A call that neither opens nor ends a loan leaves the guards as they are; a new record is
free. -/
theorem Effect.guard_eq (he : s.Effect call t) (hloans : t.loans = s.loans)
    (hr : t.store.content? r = some (record, guard)) :
    (∃ old, s.store.content? r = some (old, guard)) ∨
      r = ⟨s.store.records.next⟩ ∧ guard = .free := by
  cases he with
  | none store keeps =>
    rw [store] at hr
    exact .inl ⟨record, hr⟩
  | assign target content length live parent store keeps =>
    rw [store] at hr
    rcases Store.content?_of_putSlots content hr with ⟨rfl, -, rfl⟩ | ⟨-, hr⟩
    · exact .inl ⟨_, content⟩
    · exact .inl ⟨record, hr⟩
  | make bound made live store records arguments loans =>
    rw [store] at hr
    have hcreated := (Store.within_release _ _).content hr
    by_cases hfresh : r = ⟨s.store.records.next⟩
    · rw [hfresh, Store.content?_create_self] at hcreated
      cases hcreated
      exact .inr ⟨hfresh, rfl⟩
    · rw [Store.content?_create_of_ne _ _ hfresh] at hcreated
      exact .inl ⟨record, hcreated⟩
  | makeAlone bound made live store records arguments loans =>
    rw [store] at hr
    rcases Store.content?_of_createAlone ((Store.within_release _ _).content hr) with
      ⟨hfresh, -, hfree⟩ | hkept
    · exact .inr ⟨hfresh, hfree⟩
    · exact .inl ⟨record, hkept⟩
  | @share name q bound handle store records arguments loans =>
    rw [store] at hr
    have hretained := (Store.within_release _ _).content hr
    rw [(Store.sameContents_retain s.store (.record q)).content] at hretained
    exact .inl ⟨record, hretained⟩
  | drop bound named store records arguments loans =>
    rw [store] at hr
    exact .inl ⟨record, (Store.within_release _ _).content hr⟩
  | makeArguments live store records arguments loans =>
    rw [store] at hr
    have hcreated := (Store.within_release _ _).content hr
    rw [Store.content?_createArguments] at hcreated
    exact .inl ⟨record, hcreated⟩
  | dropArguments named store records arguments loans =>
    rw [store] at hr
    exact .inl ⟨record, (Store.within_release _ _).content hr⟩
  | lend store records arguments loans =>
    have hlength := congrArg List.length (loans.symm.trans hloans)
    simp at hlength
  | endLoan opened store records arguments =>
    have hlength := congrArg List.length (opened.symm.trans hloans.symm)
    simp at hlength

/-- Opening a loan lends the guard once more, and ending it gives that back. -/
theorem Effect.guarded (he : s.Effect call t) (h : s.Sound digest) (hg : s.Guarded) :
    t.Guarded := by
  intro r record guard hr
  by_cases hloans : t.loans = s.loans
  · rw [modes_congr hloans]
    rcases he.guard_eq hloans hr with ⟨old, hold⟩ | ⟨rfl, rfl⟩
    · exact hg r old guard hold
    · rw [modes_eq_nil_iff.mpr h.not_lent_next]
      rfl
  cases he with
  | none store keeps => exact (hloans keeps.loans).elim
  | assign target content length live parent store keeps => exact (hloans keeps.loans).elim
  | make bound made live store records arguments loans => exact (hloans loans).elim
  | makeAlone bound made live store records arguments loans => exact (hloans loans).elim
  | share bound handle store records arguments loans => exact (hloans loans).elim
  | drop bound named store records arguments loans => exact (hloans loans).elim
  | makeArguments live store records arguments loans => exact (hloans loans).elim
  | dropArguments named store records arguments loans => exact (hloans loans).elim
  | @lend q mode store records arguments loans =>
    rw [modes_cons loans]
    rcases Store.content?_of_lend store hr with ⟨rfl, before, hbefore, hlent⟩ | ⟨hne, hr⟩
    · rw [if_pos rfl, Guard.lentAs?, hg r record before hbefore]
      exact hlent
    · rw [if_neg (Ne.symm hne)]
      exact hg r record guard hr
  | @endLoan loan opened store records arguments =>
    rw [store] at hr
    rcases Store.content?_of_giveBack hr with ⟨rfl, before, hbefore, rfl⟩ | ⟨hne, hr⟩
    · have hlent := hg loan.record record before hbefore
      rw [modes_cons opened, if_pos rfl] at hlent
      obtain ⟨older, holder, hmode⟩ := Option.bind_eq_some_iff.mp hlent
      rw [holder, Guard.giveBack_of_lend? hmode]
    · have hlent := hg r record guard hr
      rwa [modes_cons opened, if_neg (Ne.symm hne)] at hlent

theorem guarded_empty (debugChecks : Bool) : (empty debugChecks).Guarded := by
  intro r record guard h
  cases h

theorem Guarded.runBy (hg : s.Guarded) (h : s.Sound digest) (calls : List Call) :
    (s.runBy digest calls).Guarded := by
  induction calls generalizing s with
  | nil => exact hg
  | cons call calls ih => exact ih ((effect_stepBy h call).guarded h hg) (h.stepBy call)

theorem guarded_of_reachable (h : s.Reachable digest) : s.Guarded := by
  obtain ⟨debugChecks, calls, rfl⟩ := h
  exact (guarded_empty debugChecks).runBy (sound_empty digest debugChecks) calls

/-! ## Loans over calls -/

theorem loans_putReadAccessor (s : Session) (a : Accessor) (name : AccessorName) :
    (s.putReadAccessor a name).loans = s.loans := by
  unfold putReadAccessor
  split
  · rfl
  · split <;> rfl

/-- Loans are opened and ended by the calls for it, and by no other call. -/
theorem loans_stepBy (s : Session) (call : Call) :
    (s.stepBy digest call).2.loans = s.loansAfter call (s.stepBy digest call).1 := by
  by_cases hasks : call.asks = true
  · rw [snd_stepBy_of_asks s hasks]
    cases call with
    | lend record mode => cases hasks
    | endLoan => cases hasks
    | _ => rfl
  cases call with
  | schema name slots =>
    simp only [stepBy, schemaCall]
    split <;> rfl
  | arguments name values =>
    simp only [stepBy, argumentsCall]
    split <;> rfl
  | dropArguments name =>
    simp only [stepBy, dropArgumentsCall]
    split <;> rfl
  | record name schema parent arguments =>
    cases arguments with
    | none =>
      simp only [stepBy, recordCall]
      split <;> rfl
    | some arguments =>
      simp only [stepBy, recordOverCall]
      split <;> rfl
  | root name schema =>
    simp only [stepBy, recordCall]
    split <;> rfl
  | cloneRecord name record =>
    simp only [stepBy, cloneRecordCall]
    split
    · rfl
    · split <;> rfl
  | «alias» name record =>
    simp only [stepBy, aliasCall]
    split <;> rfl
  | drop record =>
    simp only [stepBy, dropCall]
    split <;> rfl
  | set record binding value =>
    simp only [stepBy, setCall]
    split
    · split <;> rfl
    · rfl
  | put record index value =>
    simp only [stepBy, putCall]
    split
    · split <;> rfl
    · rfl
  | lend record mode =>
    simp only [stepBy, lendCall]
    split
    · rfl
    · rename_i r hr
      split
      · rfl
      · simp only [loansAfter, hr]
        rfl
  | endLoan =>
    simp only [stepBy, endLoanCall, loansAfter]
    split <;> simp_all
  | reader name index => rfl
  | writer name index => rfl
  | read record accessor =>
    simp only [stepBy, readCall]
    split
    · split
      · rfl
      · exact loans_putReadAccessor _ _ _
    · rfl
  | write record accessor value =>
    simp only [stepBy, writeCall]
    split
    · split
      · rfl
      · exact (keepsHolds_putWriteAccessor _ _ _).loans
    · rfl
  | cloneReader name accessor =>
    simp only [stepBy, cloneReaderCall]
    split <;> rfl
  | cloneWriter name accessor =>
    simp only [stepBy, cloneWriterCall]
    split <;> rfl
  | operator name config context source =>
    simp only [stepBy, operatorCall, bindOperator]
    split
    · rfl
    · split
      · split <;> rfl
      · split
        · rfl
        · split <;> rfl
      · split
        · rfl
        · split <;> rfl
  | cloneOperator name operator =>
    simp only [stepBy, cloneOperatorCall]
    split <;> rfl
  | materialize name operator source =>
    simp only [stepBy, materializeCall]
    split
    · split <;> rfl
    · rfl
  | copyInto operator destination source =>
    simp only [stepBy, copyIntoCall]
    split
    · split <;> rfl
    · rfl
  | drain operator =>
    simp only [stepBy, drainCall]
    split <;> rfl
  | _ => exact absurd rfl hasks

theorem Along.mono {P Q : Session → Call → Prop} (h : Along digest P s calls)
    (hPQ : ∀ u call, P u call → Q u call) : Along digest Q s calls := by
  induction calls generalizing s with
  | nil => trivial
  | cons call calls ih => exact ⟨hPQ s call h.1, ih h.2⟩

/-- A call changes no record that is lent. -/
theorem Provenance.lent (hp : s.Provenance call r record) (hg : s.Guarded)
    (hr : r.number < s.store.records.next) (hlent : s.Lent r) :
    ∃ guard, s.store.content? r = some (record, guard) := by
  cases hp with
  | kept content => exact ⟨_, content⟩
  | assigned target content record_eq length parent =>
    exact ((hg.not_free_iff content).mpr hlent rfl).elim
  | made fresh made =>
    rw [fresh] at hr
    exact (Nat.lt_irrefl _ hr).elim

/-- A record is after a run what it was before, if it was lent all the time. -/
theorem lent_runBy (h : s.Sound digest) (hg : s.Guarded) (hr : r.number < s.store.records.next)
    (hlent : Along digest (fun u _ => u.Lent r) s calls)
    (hc : (s.runBy digest calls).store.content? r = some (record, guard)) :
    ∃ before, s.store.content? r = some (record, before) := by
  induction calls generalizing s with
  | nil => exact ⟨guard, hc⟩
  | cons call calls ih =>
    have he := effect_stepBy h call
    obtain ⟨between, hmiddle⟩ := ih (h.stepBy call) (he.guarded h hg)
      (Nat.lt_of_lt_of_le hr he.next_le) hlent.2 hc
    exact (he.provenance hmiddle).lent hg hr hlent.1

/-! ## The discipline -/

/-- What looks into a record is refused as busy just while the record is lent exclusively, and what
changes a record just while it is lent at all. Whatever is not refused comes out as it would without
any guards, whoever else has been lent what. No call but those for it opens or ends a loan, or
leaves another guard behind. A record stays what it is as long as a reader has borrowed it. -/
theorem borrow_discipline (hs : s.Reachable digest) :
    (∀ r, s.HasHandle r →
      s.store.ReadersRefused r (s.LentExclusively r) ∧ s.store.WritersRefused r (s.Lent r)) ∧
    (∀ name op, s.operators.get? name = some op → ∀ source, s.HasHandle source →
      op.MaterializeRefused s.store source (s.LentExclusively source) ∧
      ∀ destination, s.HasHandle destination → ∀ debugChecks,
        op.CopyRefused debugChecks s.store destination source
          (s.LentExclusively source ∨ destination ≠ source ∧ s.Lent destination)) ∧
    (∀ call,
      (s.stepBy digest call).2.loans = s.loansAfter call (s.stepBy digest call).1 ∧
      ((s.stepBy digest call).2.loans = s.loans → ∀ r record guard,
        (s.stepBy digest call).2.store.content? r = some (record, guard) →
          (∃ old, s.store.content? r = some (old, guard)) ∨
            r = ⟨s.store.records.next⟩ ∧ guard = .free)) ∧
    ∀ r record guard calls, s.store.content? r = some (record, guard) →
      Along digest (fun u _ => ⟨r, .shared⟩ ∈ u.loans) s calls →
        (∀ later laterGuard,
          (s.runBy digest calls).store.content? r = some (later, laterGuard) → later = record) ∧
        (⟨r, .shared⟩ ∈ (s.runBy digest calls).loans →
          ∃ laterGuard, (s.runBy digest calls).store.content? r = some (record, laterGuard)) := by
  have hsound := sound_of_reachable hs
  have hguarded := guarded_of_reachable hs
  refine ⟨?_, ?_, ?_, ?_⟩
  · intro r hr
    obtain ⟨record, guard, hc⟩ := hsound.exists_content hr
    rw [← hguarded.exclusive_iff hc, ← hguarded.not_free_iff hc]
    exact ⟨Store.readersRefused hc, Store.writersRefused hc⟩
  · intro name op hop source hsource
    have hwell := hsound.operators hop
    obtain ⟨record, guard, hc⟩ := hsound.exists_content hsource
    rw [← hguarded.exclusive_iff hc]
    refine ⟨hwell.materializeRefused hc, ?_⟩
    intro destination hdestination debugChecks
    by_cases hne : destination = source
    · subst hne
      simpa using op.copyRefused_self debugChecks hc
    · obtain ⟨into, intoGuard, hd⟩ := hsound.exists_content hdestination
      rw [← hguarded.not_free_iff hd]
      simpa [hne] using hwell.copyRefused debugChecks hne hd hc
  · intro call
    refine ⟨loans_stepBy s call, ?_⟩
    intro hloans r record guard hc
    exact (effect_stepBy hsound call).guard_eq hloans hc
  · intro r record guard calls hc hlent
    have hany : Along digest (fun u _ => u.Lent r) s calls :=
      hlent.mono fun u call hm => ⟨.shared, hm⟩
    have hsame {later : Record} {laterGuard : Guard}
        (hlater : (s.runBy digest calls).store.content? r = some (later, laterGuard)) :
        later = record := by
      obtain ⟨before, hbefore⟩ :=
        lent_runBy hsound hguarded (Store.lt_next_of_content? hc) hany hlater
      rw [hc] at hbefore
      cases hbefore
      rfl
    refine ⟨fun later laterGuard => hsame, ?_⟩
    intro hm
    obtain ⟨later, laterGuard, hlater⟩ :=
      (hsound.runBy calls).exists_content (hasHandle_of_loan hm)
    rw [hsame hlater] at hlater
    exact ⟨laterGuard, hlater⟩

/-- The calls of a client that lends one of the sample's records to a reader and the other to a
writer. -/
def lendingCalls : List Call := [.lend "first" .shared, .lend "second" .exclusive]

def lendingSample : Session := sample.runBy (fun _ => []) lendingCalls

theorem reachable_lendingSample : lendingSample.Reachable fun _ => [] :=
  reachable_sample.runBy lendingCalls

theorem borrow_discipline_sample :
    (∀ binding, lendingSample.store.get ⟨0⟩ binding ≠ .error .recordBusy) ∧
    (∀ binding value,
      (lendingSample.store.set ⟨0⟩ binding value).map Store.unguarded = .error .recordBusy) ∧
    (sampleOperator.materialize lendingSample.store ⟨1⟩).1 = .error .recordBusy ∧
    (sampleOperator.copyInto true lendingSample.store ⟨0⟩ ⟨0⟩).1 ≠ .error .recordBusy ∧
    ∃ guard, (lendingSample.runBy (fun _ => [])
      [.set "first" "i" (.value .null), .endLoan]).store.content? ⟨0⟩ =
        some (⟨sampleSchema, [.null, .bool true], ⟨0⟩⟩, guard) := by
  have hloans : lendingSample.loans = [⟨⟨1⟩, .exclusive⟩, ⟨⟨0⟩, .shared⟩] := by cbv
  have hshared : (⟨⟨0⟩, .shared⟩ : Loan) ∈ lendingSample.loans := by
    rw [hloans]
    decide
  have hexclusive : (⟨⟨1⟩, .exclusive⟩ : Loan) ∈ lendingSample.loans := by
    rw [hloans]
    decide
  have hfirst : lendingSample.HasHandle ⟨0⟩ := hasHandle_of_loan hshared
  have hsecond : lendingSample.HasHandle ⟨1⟩ := hasHandle_of_loan hexclusive
  have hread : ¬ lendingSample.LentExclusively ⟨0⟩ := by
    rw [LentExclusively, hloans]
    decide
  have hcontent : lendingSample.store.content? ⟨0⟩ =
      some (⟨sampleSchema, [.null, .bool true], ⟨0⟩⟩, .shared 0) := by cbv
  have hop : lendingSample.operators.get? "next" = some sampleOperator := by cbv
  obtain ⟨hrecords, hcopies, -, hlent⟩ := borrow_discipline reachable_lendingSample
  obtain ⟨hreaders, hwriters⟩ := hrecords ⟨0⟩ hfirst
  obtain ⟨hmaterialize, -⟩ := hcopies "next" sampleOperator hop ⟨1⟩ hsecond
  obtain ⟨-, hcopy⟩ := hcopies "next" sampleOperator hop ⟨0⟩ hfirst
  refine ⟨?_, ?_, ?_, ?_, ?_⟩
  · intro binding
    exact mt (hreaders.get binding).1.mp hread
  · intro binding value
    exact (hwriters.set binding value).1.mpr ⟨.shared, hshared⟩
  · exact hmaterialize.busy.mpr hexclusive
  · exact mt (hcopy ⟨0⟩ hfirst true).busy.mp (by simpa using hread)
  · have halong : Along (fun _ => []) (fun u _ => ⟨⟨0⟩, .shared⟩ ∈ u.loans) lendingSample
        [.set "first" "i" (.value .null), .endLoan] := by
      simp only [Along, loans_stepBy, loansAfter, hloans]
      decide
    refine (hlent ⟨0⟩ _ _ _ hcontent halong).2 ?_
    simp only [runBy_cons, runBy_nil, loans_stepBy, loansAfter, hloans]
    decide

end LoopScope.Session
