import LoopScope.Proofs.Session.Copies
import LoopScope.Proofs.Session.Runs
import LoopScope.Proofs.Store.Graph
/-!
# Holders

The number of holders that a record carries is what a count of its holders gives: the names and the
loans of the client, the slots of all records, and the values of all argument lists. The same goes
for argument lists, which are held by the client's names and by the records that share them. So no
call leaves a hold behind that nobody has, and nothing refers to what is gone.
-/
namespace LoopScope

/-! ## Counting references -/

theorem count_valueRefs (values : List Value) (r : RecordId) :
    (valueRefs values).count (.record r) = values.count (.scope r) := by
  induction values with
  | nil => rfl
  | cons value values ih =>
    rw [valueRefs, List.flatMap_cons, List.count_append, ← valueRefs, ih, Nat.add_comm,
      List.count_cons]
    congr 1
    cases value <;> simp [Value.refs, List.count_cons]

theorem count_valueRefs_arguments (values : List Value) (a : ArgumentsId) :
    (valueRefs values).count (.arguments a) = 0 := by
  apply List.count_eq_zero_of_not_mem
  intro hm
  obtain ⟨r, hr, -⟩ := mem_valueRefs.mp hm
  cases hr

namespace Store

variable {s : Store}

/-- In how many slots of records a record is. -/
def slotCount (s : Store) (r : RecordId) : Nat :=
  (s.records.toList.map fun cell => cell.record.slots.count (.scope r)).sum

/-- How often a record is among the values of argument lists. -/
def elementCount (s : Store) (r : RecordId) : Nat :=
  (s.arguments.toList.map fun cell => cell.values.count (.scope r)).sum

/-- How many records share an argument list. -/
def sharerCount (s : Store) (a : ArgumentsId) : Nat :=
  s.records.toList.countP fun cell => cell.record.arguments = a

theorem count_refs_record (s : Store) (r : RecordId) :
    s.refs.count (.record r) = s.slotCount r + s.elementCount r := by
  simp only [refs, List.count_append, List.count_flatMap, slotCount, elementCount,
    Function.comp_def, Record.refs, count_valueRefs, List.count_cons, List.count_nil]
  simp

theorem count_refs_arguments (s : Store) (a : ArgumentsId) :
    s.refs.count (.arguments a) = s.sharerCount a := by
  simp only [refs, List.count_append, List.count_flatMap, sharerCount, Function.comp_def,
    Record.refs, count_valueRefs_arguments]
  simp [List.count_cons, List.sum_map_ite, List.countP_eq_length_filter]

theorem holders_create (s : Store) (record : Record) :
    (s.create record).2.holders ⟨s.records.next⟩ = 1 := by
  rw [← create_fst s record]
  simp [create, holders, recordCell?]

end Store

theorem Operator.holders_of_materialize {op used : Operator} {s t : Store} {source r : RecordId}
    (h : op.materialize s source = (.ok r, used, t)) : t.holders r = 1 := by
  unfold Operator.materialize at h
  dsimp only at h
  split at h
  · cases h
  · cases h
    rw [Store.create_fst]
    exact Store.holders_create _ _

namespace Session

variable {digest : Layout.DigestFunction} {s : Session} {call : Call} {r : RecordId}

/-- How many handles the client has on a record: the names that stand for it, and its loans. -/
def handleCount (s : Session) (r : RecordId) : Nat :=
  s.records.toList.count r + (s.loans.map Loan.record).count r

theorem holds_eq (s : Session) :
    s.holds = s.records.toList.map .record ++ s.arguments.toList.map .arguments ++
      (s.loans.map Loan.record).map .record := by
  rw [holds, List.map_map]
  rfl

theorem count_map_record (l : List RecordId) (r : RecordId) :
    (l.map Ref.record).count (.record r) = l.count r :=
  List.count_map_of_injective l _ (fun _ _ h => Ref.record.inj h) r

theorem count_holds_record (s : Session) (r : RecordId) :
    s.holds.count (.record r) = s.handleCount r := by
  have hlists : (s.arguments.toList.map Ref.arguments).count (.record r) = 0 :=
    List.count_eq_zero_of_not_mem (by simp)
  rw [holds_eq, List.count_append, List.count_append, count_map_record, count_map_record, hlists,
    handleCount, Nat.add_zero]

theorem count_holds_arguments (s : Session) (a : ArgumentsId) :
    s.holds.count (.arguments a) = s.arguments.toList.count a := by
  have hlists : (s.arguments.toList.map Ref.arguments).count (.arguments a) =
      s.arguments.toList.count a :=
    List.count_map_of_injective _ _ (fun _ _ h => Ref.arguments.inj h) a
  have hrecords (l : List RecordId) : (l.map Ref.record).count (.arguments a) = 0 :=
    List.count_eq_zero_of_not_mem (by simp)
  rw [holds_eq, List.count_append, List.count_append, hrecords, hrecords, hlists, Nat.zero_add,
    Nat.add_zero]

theorem Sound.holders_eq (h : s.Sound digest) (r : RecordId) :
    s.store.holders r = s.handleCount r + s.store.slotCount r + s.store.elementCount r := by
  have hcount := h.balanced.counts (.record r)
  rw [Store.count_refs_record, count_holds_record] at hcount
  have hsame : s.store.holdersOf (.record r) = s.store.holders r := rfl
  omega

theorem Sound.sharers_eq (h : s.Sound digest) (a : ArgumentsId) :
    s.store.holdersOf (.arguments a) = s.arguments.toList.count a + s.store.sharerCount a := by
  rw [h.balanced.counts, Store.count_refs_arguments, count_holds_arguments, Nat.add_comm]

/-- What nobody holds is gone. -/
theorem Sound.live_iff (h : s.Sound digest) (ref : Ref) :
    s.store.Live ref ↔ 0 < s.store.holdersOf ref :=
  ⟨h.balanced.positive ref, Store.live_of_holders_pos⟩

/-! ## New records -/

/-- A new record has one holder, who made it. -/
theorem holders_of_materialized (h : s.Sound digest) {name operator source : String}
    {snapshot : RecordSnapshot}
    (hanswer : (s.stepBy digest (.materialize name operator source)).1 =
      .materialized r snapshot) :
    (s.stepBy digest (.materialize name operator source)).2.store.holders r = 1 := by
  have hafter := h.stepBy (.materialize name operator source)
  simp only [stepBy] at hanswer hafter ⊢
  rcases materializeCall_cases h name operator source with
    ⟨-, hcall⟩ | ⟨op, q, record, guard, e, -, -, -, -, -, hcall⟩ |
    ⟨op, q, record, guard, made, -, -, -, -, hcall⟩
  · rw [hcall] at hanswer
    cases hanswer
  · rw [hcall] at hanswer
    cases hanswer
  · rw [hcall] at hanswer hafter ⊢
    cases hanswer
    apply Nat.le_antisymm
    · exact Nat.le_trans (Store.holdersOf_release_le _ _ (.record _))
        (Nat.le_of_eq (Store.holders_create s.store ⟨op.schema, record.slots, record.arguments⟩))
    · apply hafter.balanced.positive (.record _)
      exact hafter.balanced.live_of_mem_held (hasHandle_of_name (Table.get?_insert_self _ _ _))

/-! ## The count -/

/-- At any time a record has as many holders as there are names and loans of it, slots that it is
in, and values of argument lists that it is among; an argument list has as many as there are names
of it and records that share it. What has no holder left is gone, and nothing refers to it. A record
that was just materialized has one holder. -/
theorem holder_counts (hs : s.Reachable digest) :
    s.records.Distinct ∧ s.arguments.Distinct ∧
    (∀ r, s.store.holders r =
      s.handleCount r + s.store.slotCount r + s.store.elementCount r) ∧
    (∀ a, s.store.holdersOf (.arguments a) =
      s.arguments.toList.count a + s.store.sharerCount a) ∧
    (∀ name r, s.records.get? name = some r →
      (s.stepBy digest (.holders name)).1 =
        .count (s.handleCount r + s.store.slotCount r + s.store.elementCount r)) ∧
    (∀ ref, s.store.Live ref ↔ 0 < s.store.holdersOf ref) ∧
    (∀ ref ∈ s.holds, s.store.Live ref) ∧
    (∀ x y, s.store.Refers x y → s.store.Live y) ∧
    (∀ (op used : Operator) source r t, op.materialize s.store source = (.ok r, used, t) →
      t.holders r = 1) ∧
    ∀ name operator source r snapshot,
      (s.stepBy digest (.materialize name operator source)).1 = .materialized r snapshot →
        (s.stepBy digest (.materialize name operator source)).2.store.holders r = 1 := by
  have hsound := sound_of_reachable hs
  refine ⟨hsound.recordNames, hsound.argumentNames, hsound.holders_eq, hsound.sharers_eq, ?_,
    hsound.live_iff, fun ref => hsound.balanced.live_of_mem_held,
    fun x y => hsound.balanced.live_of_refers, ?_, ?_⟩
  · intro name r hr
    rw [← hsound.holders_eq]
    simp only [stepBy, query, hr]
  · intro op used source r t hrun
    exact Operator.holders_of_materialize hrun
  · intro name operator source r snapshot hanswer
    exact holders_of_materialized hsound hanswer

/-- The calls of a client that shares the sample's records in every way. -/
def sharingCalls : List Call :=
  [.alias "other" "first", .lend "first" .shared, .set "second" "i" (.scope "first"),
    .put "second" 0 (.scope "second"), .arguments "more" [.scope "first", .scope "first"],
    .materialize "third" "next" "second", .copyInto "next" "first" "second"]

def sharingSample : Session := sample.runBy (fun _ => []) sharingCalls

theorem reachable_sharingSample : sharingSample.Reachable fun _ => [] :=
  reachable_sample.runBy sharingCalls

theorem holder_counts_sample :
    sharingSample.store.holders ⟨0⟩ = (2 + 1) + 2 + 2 ∧
    sharingSample.store.holders ⟨1⟩ = 1 + 2 + 0 ∧
    sharingSample.store.holders ⟨2⟩ = 1 := by
  obtain ⟨-, -, hcount, -⟩ := holder_counts reachable_sharingSample
  rw [hcount, hcount, hcount]
  refine ⟨?_, ?_, ?_⟩ <;> cbv

end Session

end LoopScope
