import LoopScope.Proofs.Copies
import LoopScope.Proofs.Store.Holds
import LoopScope.Session.Step
/-!
# Sound sessions

The invariant of every session that a client can reach: the numbers of holders in the store count
the client's names and loans, and all that is in the session is well formed.
-/
namespace LoopScope.Session

variable {digest : Layout.DigestFunction} {s : Session}

/-- What the client holds: its named records, its named argument lists and its loans. -/
def holds (s : Session) : List Ref :=
  s.records.toList.map .record ++ s.arguments.toList.map .arguments ++
    s.loans.map fun loan => .record loan.record

/-- The client holds a record, by a name or by a loan. -/
def HasHandle (s : Session) (r : RecordId) : Prop := Ref.record r ∈ s.holds

structure Sound (digest : Layout.DigestFunction) (s : Session) : Prop where
  balanced : s.store.Balanced s.holds
  records : ∀ {r record guard}, s.store.content? r = some (record, guard) →
    record.WellFormed digest
  schemas : ∀ {name shared}, s.schemas.get? name = some shared → shared.schema.WellFormed digest
  operators : ∀ {name op}, s.operators.get? name = some op → op.WellFormed digest
  recordNames : s.records.Distinct
  argumentNames : s.arguments.Distinct

theorem sound_empty (digest : Layout.DigestFunction) (debugChecks : Bool) :
    (empty debugChecks).Sound digest where
  balanced := by
    constructor
    · intro ref
      cases ref <;> rfl
    · intro ref hl
      cases ref <;> cases hl
  records h := by cases h
  schemas h := by cases h
  operators h := by cases h
  recordNames := Table.distinct_empty
  argumentNames := Table.distinct_empty

/-! ## What is held is there -/

theorem hasHandle_of_name {name : String} {r : RecordId} (h : s.records.get? name = some r) :
    s.HasHandle r :=
  List.mem_append_left _
    (List.mem_append_left _ (List.mem_map_of_mem (Table.mem_toList_of_get? h)))

theorem mem_holds_of_arguments {name : String} {a : ArgumentsId}
    (h : s.arguments.get? name = some a) : Ref.arguments a ∈ s.holds :=
  List.mem_append_left _
    (List.mem_append_right _ (List.mem_map_of_mem (Table.mem_toList_of_get? h)))

theorem Sound.exists_content (h : s.Sound digest) {r : RecordId} (hr : s.HasHandle r) :
    ∃ record guard, s.store.content? r = some (record, guard) :=
  h.balanced.exists_content hr

/-- An operand refers to nothing but a record that the client has named. -/
theorem Sound.live_of_operand (h : s.Sound digest) {operand : Operand} {value : Value}
    (hv : s.operand? operand = some value) : ∀ ref ∈ value.refs, s.store.Live ref := by
  intro ref hm
  cases operand with
  | value v =>
    rw [operand?] at hv
    split at hv
    · rename_i hnone
      cases hv
      cases value <;> simp_all [Value.refs, Value.record?]
    · cases hv
  | scope name =>
    obtain ⟨r, hr, rfl⟩ := Option.map_eq_some_iff.mp hv
    rw [List.mem_singleton.mp hm]
    exact h.balanced.live_of_mem_held (hasHandle_of_name hr)

private theorem exists_operand_of_mem {operands : List Operand} {values : List Value}
    (h : operands.mapM s.operand? = some values) {value : Value} (hm : value ∈ values) :
    ∃ operand, s.operand? operand = some value := by
  induction operands generalizing values with
  | nil =>
    cases h
    cases hm
  | cons operand operands ih =>
    rw [List.mapM_cons] at h
    obtain ⟨first, hfirst, h⟩ := Option.bind_eq_some_iff.mp h
    obtain ⟨rest, hrest, h⟩ := Option.bind_eq_some_iff.mp h
    cases h
    rcases List.mem_cons.mp hm with rfl | hm
    · exact ⟨operand, hfirst⟩
    · exact ih hrest hm

theorem Sound.live_of_operands (h : s.Sound digest) {operands : List Operand}
    {values : List Value} (hv : operands.mapM s.operand? = some values) :
    ∀ ref ∈ valueRefs values, s.store.Live ref := by
  intro ref hm
  obtain ⟨value, hvalue, href⟩ := List.mem_flatMap.mp hm
  obtain ⟨operand, hoperand⟩ := exists_operand_of_mem hv hvalue
  exact h.live_of_operand hoperand ref href

theorem Sound.live_of_arguments (h : s.Sound digest) {name : String} {a : ArgumentsId}
    (ha : s.arguments.get? name = some a) : s.store.Live (.arguments a) :=
  h.balanced.live_of_mem_held (mem_holds_of_arguments ha)

/-- Slots that come from records in the store or from an operand hold what is there. -/
theorem Sound.live_of_slots (h : s.Sound digest) {r : RecordId} {record : Record} {guard : Guard}
    (hr : s.store.content? r = some (record, guard)) {value : Value} (hm : value ∈ record.slots) :
    ∀ ref ∈ value.refs, s.store.Live ref := by
  intro ref href
  apply h.balanced.live_of_content? hr
  exact List.mem_append_left _ (List.mem_flatMap.mpr ⟨value, hm, href⟩)

theorem live_valueRefs_iff {t : Store} {values : List Value} :
    (∀ ref ∈ valueRefs values, t.Live ref) ↔
      ∀ value ∈ values, ∀ ref ∈ value.refs, t.Live ref := by
  simp only [valueRefs, List.mem_flatMap, forall_exists_index, and_imp]
  exact ⟨fun h value hv ref href => h ref value hv href,
    fun h ref value hv href => h value hv ref href⟩

/-- The slots of a refreshed record come from two records that are there. -/
theorem Sound.live_of_refreshed (h : s.Sound digest) {r q : RecordId} {old record : Record}
    {oldGuard guard : Guard} (hold : s.store.content? r = some (old, oldGuard))
    (hc : s.store.content? q = some (record, guard)) :
    ∀ ref ∈ valueRefs (old.slots.take 1 ++ record.slots.drop 1), s.store.Live ref := by
  rw [live_valueRefs_iff]
  intro value hm
  rcases List.mem_append.mp hm with hm | hm
  · exact h.live_of_slots hold (List.mem_of_mem_take hm)
  · exact h.live_of_slots hc (List.mem_of_mem_drop hm)

theorem Sound.slots_pos (h : s.Sound digest) {r : RecordId} {record : Record} {guard : Guard}
    (hr : s.store.content? r = some (record, guard)) : 0 < record.slots.length := by
  rw [(h.records hr).length]
  exact (h.records hr).schema.length_pos

end LoopScope.Session
