import LoopScope.Proofs.WellFormed
/-!
# Contents of the store

What a store keeps apart from the numbers of holders: the record and the guard of every record
cell, and the values of every argument list. Each operation is described by what it does to these
contents. `Store.Within` says that a store is another one less some cells; this is all that letting
go of a hold can do.
-/
namespace LoopScope.Store

/-- The record in a cell and its guard. -/
def content? (s : Store) (r : RecordId) : Option (Record × Guard) :=
  (s.recordCell? r).map fun cell => (cell.record, cell.guard)

/-- The values of an argument list that is there. -/
def values? (s : Store) (a : ArgumentsId) : Option (List Value) :=
  (s.argumentsCell? a).map ArgumentsCell.values

theorem content?_of_cell {s : Store} {r : RecordId} {cell : RecordCell}
    (h : s.recordCell? r = some cell) : s.content? r = some (cell.record, cell.guard) := by
  simp [content?, h]

theorem exists_cell_of_content? {s : Store} {r : RecordId} {record : Record} {guard : Guard}
    (h : s.content? r = some (record, guard)) :
    ∃ holders, s.recordCell? r = some ⟨record, holders, guard⟩ := by
  obtain ⟨⟨_, holders, _⟩, hcell, heq⟩ := Option.map_eq_some_iff.mp h
  cases heq
  exact ⟨holders, hcell⟩

theorem lt_next_of_content? {s : Store} {r : RecordId} {content : Record × Guard}
    (h : s.content? r = some content) : r.number < s.records.next := by
  obtain ⟨cell, hcell, -⟩ := Option.map_eq_some_iff.mp h
  exact Arena.lt_next_of_get? hcell

private theorem RecordId.number_ne {r other : RecordId} (h : other ≠ r) :
    r.number ≠ other.number := by
  intro he
  exact h (congrArg RecordId.mk he.symm)

private theorem ArgumentsId.number_ne {a other : ArgumentsId} (h : other ≠ a) :
    a.number ≠ other.number := by
  intro he
  exact h (congrArg ArgumentsId.mk he.symm)

/-! ## Borrowing -/

/-- A reader is kept out by an exclusive loan only. -/
theorem toRead_of_content? {s : Store} {r : RecordId} {record : Record} {guard : Guard}
    (h : s.content? r = some (record, guard)) :
    s.toRead r = if guard = .exclusive then .error .recordBusy else .ok record := by
  obtain ⟨holders, hcell⟩ := exists_cell_of_content? h
  simp only [toRead, hcell]
  cases guard <;> rfl

/-- A writer is kept out by any loan. -/
theorem toWrite_of_content? {s : Store} {r : RecordId} {record : Record} {guard : Guard}
    (h : s.content? r = some (record, guard)) :
    s.toWrite r = if guard = .free then .ok record else .error .recordBusy := by
  obtain ⟨holders, hcell⟩ := exists_cell_of_content? h
  simp only [toWrite, hcell]
  cases guard <;> rfl

theorem content?_of_toRead {s : Store} {r : RecordId} {record : Record}
    (h : s.toRead r = .ok record) :
    ∃ guard, s.content? r = some (record, guard) ∧ guard ≠ .exclusive := by
  cases hcell : s.recordCell? r with
  | none => simp [toRead, hcell] at h
  | some cell =>
    have hcontent := content?_of_cell hcell
    rw [toRead_of_content? hcontent] at h
    split at h
    · cases h
    · cases h
      exact ⟨cell.guard, hcontent, ‹_›⟩

theorem content?_of_toWrite {s : Store} {r : RecordId} {record : Record}
    (h : s.toWrite r = .ok record) : s.content? r = some (record, .free) := by
  cases hcell : s.recordCell? r with
  | none => simp [toWrite, hcell] at h
  | some cell =>
    have hcontent := content?_of_cell hcell
    rw [toWrite_of_content? hcontent] at h
    split at h
    · rename_i hfree
      cases h
      rw [hcontent, hfree]
    · cases h

/-- What a snapshot shows of a record. -/
theorem snapshot_congr {s t : Store} {r : RecordId} {record : Record} {guard : Guard}
    (hs : s.content? r = some (record, guard)) (ht : t.content? r = some (record, guard))
    (hvalues : s.values? record.arguments = t.values? record.arguments) :
    s.snapshot r = t.snapshot r := by
  have hlist : s.argumentValues record.arguments = t.argumentValues record.arguments :=
    congrArg (Option.getD · []) hvalues
  rw [snapshot, snapshot, toRead_of_content? hs, toRead_of_content? ht]
  by_cases hg : guard = .exclusive
  · rw [if_pos hg]
  · simp only [if_neg hg, hlist]

/-! ## Changes of one cell -/

theorem recordCell?_modifyRecord_self (s : Store) (r : RecordId) (f : RecordCell → RecordCell) :
    (s.modifyRecord r f).recordCell? r = (s.recordCell? r).map f := by
  unfold modifyRecord
  cases h : s.recordCell? r with
  | none => simpa using h
  | some cell => exact Arena.get?_set_self (f cell) h

theorem recordCell?_modifyRecord_of_ne (s : Store) {r other : RecordId}
    (f : RecordCell → RecordCell) (h : other ≠ r) :
    (s.modifyRecord r f).recordCell? other = s.recordCell? other := by
  unfold modifyRecord
  split
  · exact Arena.get?_set_of_ne _ (RecordId.number_ne h)
  · rfl

@[simp] theorem argumentsCell?_modifyRecord (s : Store) (r : RecordId)
    (f : RecordCell → RecordCell) (a : ArgumentsId) :
    (s.modifyRecord r f).argumentsCell? a = s.argumentsCell? a := by
  unfold modifyRecord
  split <;> rfl

@[simp] theorem next_modifyRecord (s : Store) (r : RecordId) (f : RecordCell → RecordCell) :
    (s.modifyRecord r f).records.next = s.records.next := by
  unfold modifyRecord
  split
  · exact Arena.next_set _ _ _
  · rfl

@[simp] theorem arguments_modifyRecord (s : Store) (r : RecordId) (f : RecordCell → RecordCell) :
    (s.modifyRecord r f).arguments = s.arguments := by
  unfold modifyRecord
  split <;> rfl

theorem argumentsCell?_modifyArguments_self (s : Store) (a : ArgumentsId)
    (f : ArgumentsCell → ArgumentsCell) :
    (s.modifyArguments a f).argumentsCell? a = (s.argumentsCell? a).map f := by
  unfold modifyArguments
  cases h : s.argumentsCell? a with
  | none => simpa using h
  | some cell => exact Arena.get?_set_self (f cell) h

theorem argumentsCell?_modifyArguments_of_ne (s : Store) {a other : ArgumentsId}
    (f : ArgumentsCell → ArgumentsCell) (h : other ≠ a) :
    (s.modifyArguments a f).argumentsCell? other = s.argumentsCell? other := by
  unfold modifyArguments
  split
  · exact Arena.get?_set_of_ne _ (ArgumentsId.number_ne h)
  · rfl

@[simp] theorem records_modifyArguments (s : Store) (a : ArgumentsId)
    (f : ArgumentsCell → ArgumentsCell) : (s.modifyArguments a f).records = s.records := by
  unfold modifyArguments
  split <;> rfl

@[simp] theorem next_modifyArguments (s : Store) (a : ArgumentsId)
    (f : ArgumentsCell → ArgumentsCell) :
    (s.modifyArguments a f).arguments.next = s.arguments.next := by
  unfold modifyArguments
  split
  · exact Arena.next_set _ _ _
  · rfl

theorem content?_modifyRecord_self (s : Store) (r : RecordId) (f : RecordCell → RecordCell) :
    (s.modifyRecord r f).content? r =
      (s.recordCell? r).map fun cell => ((f cell).record, (f cell).guard) := by
  rw [content?, recordCell?_modifyRecord_self, Option.map_map]
  rfl

theorem content?_modifyRecord_of_ne (s : Store) {r other : RecordId} (f : RecordCell → RecordCell)
    (h : other ≠ r) : (s.modifyRecord r f).content? other = s.content? other := by
  rw [content?, content?, recordCell?_modifyRecord_of_ne s f h]

@[simp] theorem values?_modifyRecord (s : Store) (r : RecordId) (f : RecordCell → RecordCell)
    (a : ArgumentsId) : (s.modifyRecord r f).values? a = s.values? a := by
  rw [values?, values?, argumentsCell?_modifyRecord]

/-! ## Stores of the same contents -/

/-- Two stores that differ at most in the numbers of holders. -/
structure SameContents (s t : Store) : Prop where
  content : ∀ r, s.content? r = t.content? r
  values : ∀ a, s.values? a = t.values? a
  nextRecord : s.records.next = t.records.next
  nextArguments : s.arguments.next = t.arguments.next

theorem SameContents.refl (s : Store) : s.SameContents s :=
  ⟨fun _ => rfl, fun _ => rfl, rfl, rfl⟩

theorem SameContents.symm {s t : Store} (h : s.SameContents t) : t.SameContents s where
  content r := (h.content r).symm
  values a := (h.values a).symm
  nextRecord := h.nextRecord.symm
  nextArguments := h.nextArguments.symm

theorem SameContents.trans {s t u : Store} (h : s.SameContents t) (h' : t.SameContents u) :
    s.SameContents u where
  content r := (h.content r).trans (h'.content r)
  values a := (h.values a).trans (h'.values a)
  nextRecord := h.nextRecord.trans h'.nextRecord
  nextArguments := h.nextArguments.trans h'.nextArguments

theorem sameContents_modifyRecord (s : Store) (r : RecordId) (f : RecordCell → RecordCell)
    (hrecord : ∀ cell, (f cell).record = cell.record) (hguard : ∀ cell, (f cell).guard = cell.guard) :
    (s.modifyRecord r f).SameContents s where
  content other := by
    by_cases he : other = r
    · subst he
      simp only [content?_modifyRecord_self, hrecord, hguard]
      rfl
    · exact content?_modifyRecord_of_ne s f he
  values := values?_modifyRecord s r f
  nextRecord := next_modifyRecord s r f
  nextArguments := by rw [arguments_modifyRecord]

theorem sameContents_modifyArguments (s : Store) (a : ArgumentsId)
    (f : ArgumentsCell → ArgumentsCell) (hvalues : ∀ cell, (f cell).values = cell.values) :
    (s.modifyArguments a f).SameContents s where
  content r := by rw [content?, content?, recordCell?, recordCell?, records_modifyArguments]
  values other := by
    by_cases he : other = a
    · subst he
      rw [values?, values?, argumentsCell?_modifyArguments_self, Option.map_map]
      congr 1
      funext cell
      exact hvalues cell
    · rw [values?, values?, argumentsCell?_modifyArguments_of_ne s f he]
  nextRecord := by rw [records_modifyArguments]
  nextArguments := next_modifyArguments s a f

theorem sameContents_retain (s : Store) (ref : Ref) : (s.retain ref).SameContents s := by
  cases ref with
  | record r => exact sameContents_modifyRecord s r _ (fun _ => rfl) fun _ => rfl
  | arguments a => exact sameContents_modifyArguments s a _ fun _ => rfl

theorem sameContents_retainAll (s : Store) (refs : List Ref) :
    (s.retainAll refs).SameContents s := by
  induction refs generalizing s with
  | nil => exact .refl s
  | cons ref refs ih => exact (ih (s.retain ref)).trans (sameContents_retain s ref)

/-! ## Stores less some cells -/

/-- A store that keeps what another one keeps, some cells apart that it has lost. -/
structure Within (t s : Store) : Prop where
  content : ∀ {r content}, t.content? r = some content → s.content? r = some content
  values : ∀ {a values}, t.values? a = some values → s.values? a = some values
  nextRecord : t.records.next = s.records.next
  nextArguments : t.arguments.next = s.arguments.next

theorem SameContents.within {t s : Store} (h : t.SameContents s) : t.Within s where
  content hr := by rw [← h.content, hr]
  values ha := by rw [← h.values, ha]
  nextRecord := h.nextRecord
  nextArguments := h.nextArguments

theorem Within.refl (s : Store) : s.Within s := (SameContents.refl s).within

theorem Within.trans {u t s : Store} (h : u.Within t) (h' : t.Within s) : u.Within s where
  content hr := h'.content (h.content hr)
  values ha := h'.values (h.values ha)
  nextRecord := h.nextRecord.trans h'.nextRecord
  nextArguments := h.nextArguments.trans h'.nextArguments

/-- Neither of two stores has lost what the other one has. -/
theorem Within.sameContents {t s : Store} (h : t.Within s) (h' : s.Within t) :
    t.SameContents s where
  content _ := Option.ext fun _ => ⟨h.content, h'.content⟩
  values _ := Option.ext fun _ => ⟨h.values, h'.values⟩
  nextRecord := h.nextRecord
  nextArguments := h.nextArguments

theorem within_eraseRecord (s : Store) (r : RecordId) :
    ({ s with records := s.records.erase r.number } : Store).Within s where
  content {other content} h := by
    by_cases he : other = r
    · subst he
      simp [content?, recordCell?] at h
    · simpa only [content?, recordCell?, Arena.get?_erase_of_ne (RecordId.number_ne he)] using h
  values h := h
  nextRecord := Arena.next_erase _ _
  nextArguments := rfl

theorem within_eraseArguments (s : Store) (a : ArgumentsId) :
    ({ s with arguments := s.arguments.erase a.number } : Store).Within s where
  content h := h
  values {other values} h := by
    by_cases he : other = a
    · subst he
      simp [values?, argumentsCell?] at h
    · simpa only [values?, argumentsCell?, Arena.get?_erase_of_ne (ArgumentsId.number_ne he)] using h
  nextRecord := rfl
  nextArguments := Arena.next_erase _ _

theorem within_letGo (s : Store) (ref : Ref) : (s.letGo ref).1.Within s := by
  cases ref with
  | record r =>
    cases h : s.recordCell? r with
    | none =>
      rw [letGo, h]
      exact .refl s
    | some cell =>
      by_cases hc : cell.holders ≤ 1
      · simp only [letGo, h, hc, if_true]
        exact within_eraseRecord s r
      · simp only [letGo, h, hc, if_false]
        have hsame := sameContents_modifyRecord s r
          (fun cell => { cell with holders := cell.holders - 1 }) (fun _ => rfl) fun _ => rfl
        simpa only [modifyRecord, h] using hsame.within
  | arguments a =>
    cases h : s.argumentsCell? a with
    | none =>
      rw [letGo, h]
      exact .refl s
    | some cell =>
      by_cases hc : cell.holders ≤ 1
      · simp only [letGo, h, hc, if_true]
        exact within_eraseArguments s a
      · simp only [letGo, h, hc, if_false]
        have hsame := sameContents_modifyArguments s a
          (fun cell => { cell with holders := cell.holders - 1 }) fun _ => rfl
        simpa only [modifyArguments, h] using hsame.within

/-- Letting go of holds takes cells away and changes none that stays. -/
theorem within_release (s : Store) (refs : List Ref) : (s.release refs).Within s := by
  fun_induction release s refs with
  | case1 s => exact .refl s
  | case2 s ref rest ih => exact ih.trans (within_letGo s ref)

@[simp] theorem nextRecord_release (s : Store) (refs : List Ref) :
    (s.release refs).records.next = s.records.next :=
  (within_release s refs).nextRecord

@[simp] theorem nextRecord_retain (s : Store) (ref : Ref) :
    (s.retain ref).records.next = s.records.next :=
  (sameContents_retain s ref).nextRecord

/-! ## Making and changing cells -/

theorem create_fst (s : Store) (record : Record) : (s.create record).1 = ⟨s.records.next⟩ :=
  congrArg RecordId.mk (sameContents_retainAll s record.refs).nextRecord

theorem content?_create_self (s : Store) (record : Record) :
    (s.create record).2.content? ⟨s.records.next⟩ = some (record, .free) := by
  rw [← create_fst s record]
  simp [create, content?, recordCell?]

theorem content?_create_of_ne (s : Store) (record : Record) {r : RecordId}
    (h : r ≠ ⟨s.records.next⟩) : (s.create record).2.content? r = s.content? r := by
  rw [← create_fst s record] at h
  rw [← (sameContents_retainAll s record.refs).content]
  simp only [create, content?, recordCell?]
  rw [Arena.get?_push_of_ne _ (Ne.symm (RecordId.number_ne h))]

theorem values?_create (s : Store) (record : Record) (a : ArgumentsId) :
    (s.create record).2.values? a = s.values? a :=
  (sameContents_retainAll s record.refs).values a

@[simp] theorem nextRecord_create (s : Store) (record : Record) :
    (s.create record).2.records.next = s.records.next + 1 := by
  simp [create, (sameContents_retainAll s record.refs).nextRecord]

theorem nextArguments_create (s : Store) (record : Record) :
    (s.create record).2.arguments.next = s.arguments.next :=
  (sameContents_retainAll s record.refs).nextArguments

theorem createArguments_fst (s : Store) (values : List Value) :
    (s.createArguments values).1 = ⟨s.arguments.next⟩ :=
  congrArg ArgumentsId.mk (sameContents_retainAll s (valueRefs values)).nextArguments

theorem content?_createArguments (s : Store) (values : List Value) (r : RecordId) :
    (s.createArguments values).2.content? r = s.content? r :=
  (sameContents_retainAll s (valueRefs values)).content r

@[simp] theorem nextRecord_createArguments (s : Store) (values : List Value) :
    (s.createArguments values).2.records.next = s.records.next :=
  (sameContents_retainAll s (valueRefs values)).nextRecord

theorem createAlone_fst (s : Store) (schema : SharedSchema) (parent : Value) :
    (s.createAlone schema parent).1 = ⟨s.records.next⟩ :=
  (create_fst _ _).trans (congrArg RecordId.mk (nextRecord_createArguments s []))

@[simp] theorem nextRecord_createAlone (s : Store) (schema : SharedSchema) (parent : Value) :
    (s.createAlone schema parent).2.records.next = s.records.next + 1 := by
  have hnext : (s.createArguments []).2.records.next = s.records.next :=
    nextRecord_createArguments s []
  rw [← hnext, ← nextRecord_create _ (.new schema parent (s.createArguments []).1)]
  exact nextRecord_release _ _

/-- A record that is made along with its argument list stands alone: nothing else is new but that
list. -/
theorem content?_of_createAlone {s : Store} {schema : SharedSchema} {parent : Value} {r : RecordId}
    {record : Record} {guard : Guard}
    (h : (s.createAlone schema parent).2.content? r = some (record, guard)) :
    (r = ⟨s.records.next⟩ ∧ record = .new schema parent ⟨s.arguments.next⟩ ∧ guard = .free) ∨
      s.content? r = some (record, guard) := by
  have hcreated : ((s.createArguments []).2.create
      (.new schema parent (s.createArguments []).1)).2.content? r = some (record, guard) :=
    (within_release _ _).content h
  have hnext : (s.createArguments []).2.records.next = s.records.next :=
    nextRecord_createArguments s []
  by_cases he : r = ⟨s.records.next⟩
  · subst he
    rw [← hnext, content?_create_self, createArguments_fst] at hcreated
    cases hcreated
    exact .inl ⟨rfl, rfl, rfl⟩
  · rw [content?_create_of_ne _ _ (by rwa [hnext]), content?_createArguments] at hcreated
    exact .inr hcreated

/-- The store with other values in the slots of a record, before the holds of the old ones are
let go. -/
def overwrite (s : Store) (r : RecordId) (slots : List Value) : Store :=
  s.modifyRecord r fun held => { held with record := { held.record with slots := slots } }

theorem content?_overwrite (s : Store) (r : RecordId) (slots : List Value) :
    (s.overwrite r slots).content? r =
      (s.content? r).map fun content => ({ content.1 with slots := slots }, content.2) := by
  rw [overwrite, content?_modifyRecord_self, content?, Option.map_map]
  rfl

theorem content?_overwrite_self {s : Store} {r : RecordId} {record : Record} {guard : Guard}
    (slots : List Value) (h : s.content? r = some (record, guard)) :
    (s.overwrite r slots).content? r = some ({ record with slots := slots }, guard) := by
  rw [content?_overwrite, h, Option.map_some]

theorem content?_overwrite_of_ne (s : Store) {r other : RecordId} (slots : List Value)
    (h : other ≠ r) : (s.overwrite r slots).content? other = s.content? other :=
  content?_modifyRecord_of_ne s _ h

@[simp] theorem values?_overwrite (s : Store) (r : RecordId) (slots : List Value)
    (a : ArgumentsId) : (s.overwrite r slots).values? a = s.values? a :=
  values?_modifyRecord s r _ a

@[simp] theorem nextRecord_overwrite (s : Store) (r : RecordId) (slots : List Value) :
    (s.overwrite r slots).records.next = s.records.next :=
  next_modifyRecord s r _

@[simp] theorem arguments_overwrite (s : Store) (r : RecordId) (slots : List Value) :
    (s.overwrite r slots).arguments = s.arguments :=
  arguments_modifyRecord s r _

/-- What is missing from a store is missing after the same change of both. -/
theorem Within.overwrite {t s : Store} (h : t.Within s) (r : RecordId) (slots : List Value) :
    (t.overwrite r slots).Within (s.overwrite r slots) where
  content {other content} hc := by
    by_cases he : other = r
    · subst he
      rw [content?_overwrite] at hc ⊢
      obtain ⟨before, hbefore, rfl⟩ := Option.map_eq_some_iff.mp hc
      rw [h.content hbefore, Option.map_some]
    · rw [content?_overwrite_of_ne _ slots he] at hc ⊢
      exact h.content hc
  values ha := by
    rw [values?_overwrite] at ha ⊢
    exact h.values ha
  nextRecord := by rw [nextRecord_overwrite, nextRecord_overwrite, h.nextRecord]
  nextArguments := by rw [arguments_overwrite, arguments_overwrite, h.nextArguments]

/-- Overwriting a record with what it holds. -/
theorem sameContents_overwrite_self {s : Store} {r : RecordId} {record : Record} {guard : Guard}
    (h : s.content? r = some (record, guard)) : (s.overwrite r record.slots).SameContents s where
  content other := by
    by_cases he : other = r
    · subst he
      rw [content?_overwrite_self record.slots h, h]
    · exact content?_overwrite_of_ne s _ he
  values := values?_overwrite s r _
  nextRecord := nextRecord_overwrite s r _
  nextArguments := by rw [arguments_overwrite]

theorem sameContents_overwrite_overwrite (s : Store) (r : RecordId) (slots later : List Value) :
    ((s.overwrite r slots).overwrite r later).SameContents (s.overwrite r later) where
  content other := by
    by_cases he : other = r
    · subst he
      simp only [content?_overwrite, Option.map_map]
      rfl
    · simp only [content?_overwrite_of_ne _ _ he]
  values a := by simp only [values?_overwrite]
  nextRecord := by simp only [nextRecord_overwrite]
  nextArguments := by simp only [arguments_overwrite]

theorem sameContents_overwrite_comm (s : Store) {r q : RecordId} (hne : r ≠ q)
    (slots others : List Value) :
    ((s.overwrite r slots).overwrite q others).SameContents
      ((s.overwrite q others).overwrite r slots) where
  content other := by
    by_cases hr : other = r
    · subst hr
      rw [content?_overwrite_of_ne _ _ hne, content?_overwrite, content?_overwrite,
        content?_overwrite_of_ne _ _ hne]
    · rw [content?_overwrite_of_ne _ slots hr]
      by_cases hq : other = q
      · subst hq
        rw [content?_overwrite, content?_overwrite, content?_overwrite_of_ne _ _ hr]
      · simp only [content?_overwrite_of_ne _ _ hq, content?_overwrite_of_ne _ _ hr]
  values a := by simp only [values?_overwrite]
  nextRecord := by simp only [nextRecord_overwrite]
  nextArguments := by simp only [arguments_overwrite]

/-- A record that was just made, overwritten. -/
theorem sameContents_overwrite_create (s : Store) (record : Record) (slots : List Value) :
    ((s.create record).2.overwrite ⟨s.records.next⟩ slots).SameContents
      (s.create { record with slots := slots }).2 where
  content other := by
    by_cases he : other = ⟨s.records.next⟩
    · subst he
      rw [content?_overwrite_self slots (content?_create_self s record), content?_create_self]
    · rw [content?_overwrite_of_ne _ slots he, content?_create_of_ne s _ he,
        content?_create_of_ne s _ he]
  values a := by rw [values?_overwrite, values?_create, values?_create]
  nextRecord := by rw [nextRecord_overwrite, nextRecord_create, nextRecord_create]
  nextArguments := by rw [arguments_overwrite, nextArguments_create, nextArguments_create]

theorem putSlots_of_cell {s : Store} {r : RecordId} {cell : RecordCell}
    (h : s.recordCell? r = some cell) (slots : List Value) :
    s.putSlots r slots =
      ((s.retainAll (valueRefs slots)).overwrite r slots).release
        (valueRefs cell.record.slots) := by
  simp only [putSlots, h, overwrite]

/-- Other values in the slots of one record leave all contents as they are, what was released
apart. -/
theorem within_putSlots (s : Store) (r : RecordId) (slots : List Value) :
    (s.putSlots r slots).Within (s.overwrite r slots) := by
  cases h : s.recordCell? r with
  | none =>
    simp only [putSlots, overwrite, modifyRecord, h]
    exact .refl s
  | some cell =>
    rw [putSlots_of_cell h]
    have hsame := sameContents_retainAll s (valueRefs slots)
    exact (within_release _ _).trans (hsame.within.overwrite r slots)

@[simp] theorem nextRecord_putSlots (s : Store) (r : RecordId) (slots : List Value) :
    (s.putSlots r slots).records.next = s.records.next :=
  (within_putSlots s r slots).nextRecord.trans (next_modifyRecord s r _)

/-! ## Loans -/

/-- A change of one cell that leaves its record leaves all records. -/
private theorem exists_content_of_modifyRecord {s : Store} {r other : RecordId}
    {f : RecordCell → RecordCell} {record : Record} {guard : Guard}
    (h : (s.modifyRecord r f).content? other = some (record, guard))
    (hf : ∀ cell, (f cell).record = cell.record) :
    ∃ before, s.content? other = some (record, before) := by
  by_cases he : other = r
  · subst he
    rw [content?_modifyRecord_self] at h
    obtain ⟨cell, hcell, heq⟩ := Option.map_eq_some_iff.mp h
    have hrecord : cell.record = record := (hf cell).symm.trans (congrArg Prod.fst heq)
    exact ⟨cell.guard, hrecord ▸ content?_of_cell hcell⟩
  · rw [content?_modifyRecord_of_ne s f he] at h
    exact ⟨guard, h⟩

theorem exists_content_of_lend {s t : Store} {r other : RecordId} {mode : LoanMode}
    (hlend : s.lend r mode = .ok t) {record : Record} {guard : Guard}
    (h : t.content? other = some (record, guard)) :
    ∃ before, s.content? other = some (record, before) := by
  unfold lend at hlend
  split at hlend
  · cases hlend
  · split at hlend
    · cases hlend
    · cases hlend
      exact exists_content_of_modifyRecord h fun _ => rfl

theorem exists_content_of_giveBack {s : Store} {r other : RecordId} {record : Record}
    {guard : Guard} (h : (s.giveBack r).content? other = some (record, guard)) :
    ∃ before, s.content? other = some (record, before) := by
  have hfreed := (within_release _ _).content h
  exact exists_content_of_modifyRecord hfreed fun _ => rfl

theorem nextRecord_lend {s t : Store} {r : RecordId} {mode : LoanMode}
    (hlend : s.lend r mode = .ok t) : t.records.next = s.records.next := by
  unfold lend at hlend
  split at hlend
  · cases hlend
  · split at hlend
    · cases hlend
    · cases hlend
      exact next_modifyRecord s r _

@[simp] theorem nextRecord_giveBack (s : Store) (r : RecordId) :
    (s.giveBack r).records.next = s.records.next :=
  (nextRecord_release _ _).trans (next_modifyRecord s r _)

/-! ## Assignments -/

theorem content?_of_putSlots {s : Store} {r other : RecordId} {slots : List Value} {old : Record}
    {oldGuard : Guard} (hold : s.content? r = some (old, oldGuard)) {record : Record}
    {guard : Guard} (h : (s.putSlots r slots).content? other = some (record, guard)) :
    (other = r ∧ record = { old with slots := slots } ∧ guard = oldGuard) ∨
      other ≠ r ∧ s.content? other = some (record, guard) := by
  have hover := (within_putSlots s r slots).content h
  by_cases he : other = r
  · subst he
    rw [content?_overwrite_self slots hold] at hover
    cases hover
    exact .inl ⟨rfl, rfl, rfl⟩
  · rw [content?_overwrite_of_ne s slots he] at hover
    exact .inr ⟨he, hover⟩

theorem set_eq_ok {s t : Store} {r : RecordId} {name : String} {value : Value}
    (h : s.set r name value = .ok t) :
    ∃ old index, s.content? r = some (old, .free) ∧
      old.schema.schema.indexOf? name = some index ∧
      t = s.putSlots r (old.slots.set index value) := by
  unfold set at h
  split at h
  · cases h
  · rename_i old hwrite
    split at h
    · rename_i index hindex
      cases h
      exact ⟨old, index, content?_of_toWrite hwrite, hindex, rfl⟩
    · cases h

theorem assign_eq_ok {s t : Store} {r : RecordId} {index : Nat} {value : Value} {found : Bool}
    (h : s.assign r index value = .ok (found, t)) :
    t = s ∨ ∃ old, s.content? r = some (old, .free) ∧ index < old.slots.length ∧
      t = s.putSlots r (old.slots.set index value) := by
  unfold assign at h
  split at h
  · cases h
  · rename_i old hwrite
    split at h
    · rename_i changed hassign
      obtain ⟨hlt, rfl⟩ := Record.assign?_eq_some hassign
      cases h
      exact .inr ⟨old, content?_of_toWrite hwrite, hlt, rfl⟩
    · cases h
      exact .inl rfl

/-- An accessor observes the value that it reads, and nothing where there is no slot to read. -/
theorem readThrough_eq_ok {s : Store} {r : RecordId} {a used : Accessor}
    {outcome : Except ScopeError Value} (h : s.readThrough r a = .ok (outcome, used)) :
    (∃ record guard value, s.content? r = some (record, guard) ∧
      record.slot? a.index = some value ∧ outcome = .ok value ∧ used = a.observe value) ∨
    ∃ e, outcome = .error e ∧ used = a := by
  unfold readThrough at h
  split at h
  · cases h
  · rename_i record hread
    obtain ⟨guard, hr, -⟩ := content?_of_toRead hread
    split at h
    · rename_i value used' hvalue
      obtain ⟨hslot, hused⟩ := Accessor.read_eq_ok hvalue
      cases h
      exact .inl ⟨record, guard, value, hr, hslot, rfl, hused⟩
    · cases h
      exact .inr ⟨_, rfl, rfl⟩

/-- An accessor observes the value that it writes, and nothing where there is no slot to write. -/
theorem writeThrough_eq_ok {s t : Store} {r : RecordId} {a used : Accessor} {value : Value}
    {outcome : Except ScopeError Unit} (h : s.writeThrough r a value = .ok (outcome, used, t)) :
    (∃ old, s.content? r = some (old, .free) ∧ a.index < old.slots.length ∧ outcome = .ok () ∧
      used = a.observe value ∧ t = s.putSlots r (old.slots.set a.index value)) ∨
    ∃ e, outcome = .error e ∧ used = a ∧ t = s := by
  unfold writeThrough at h
  split at h
  · cases h
  · rename_i old hread
    split at h
    · rename_i changed used' hwrite
      obtain ⟨hassign, hused⟩ := Accessor.write_eq_ok hwrite
      obtain ⟨hlt, rfl⟩ := Record.assign?_eq_some hassign
      cases h
      exact .inl ⟨old, content?_of_toWrite hread, hlt, rfl, hused, rfl⟩
    · cases h
      exact .inr ⟨_, rfl, rfl, rfl⟩

theorem clone_eq_ok {s t : Store} {r q : RecordId} (h : s.clone r = .ok (q, t)) :
    ∃ record guard, s.content? r = some (record, guard) ∧ q = ⟨s.records.next⟩ ∧
      t = (s.create record).2 := by
  unfold clone at h
  split at h
  · cases h
  · rename_i record hread
    obtain ⟨guard, hr, -⟩ := content?_of_toRead hread
    have hpair := Except.ok.inj h
    exact ⟨record, guard, hr, (congrArg Prod.fst hpair).symm.trans (create_fst s record),
      (congrArg Prod.snd hpair).symm⟩

end LoopScope.Store
