import LoopScope.Proofs.Session.Tables
/-!
# Invariants of a session

Every call keeps a session sound, so every session that a client can reach is. `Provenance` tells
where the content of a record after a call comes from: it was there, the call has assigned it, or
the call has made it.
-/
namespace LoopScope.Session

variable {digest : Layout.DigestFunction} {s t : Session} {call : Call} {r : RecordId}
  {record : Record}

/-! ## The balance of the holds -/

/-- The holds of the client, those of one name in front. -/
private theorem holds_perm_displaced (h : s.records.Distinct) (name : String) :
    s.holds.Perm (s.displaced name ++ ((s.records.erase name).toList.map Ref.record ++
      s.arguments.toList.map .arguments ++ s.loans.map fun loan => .record loan.record)) := by
  have hnames := (h.perm_toList_erase name).map Ref.record
  rw [List.map_append] at hnames
  simpa only [holds, displaced, List.append_assoc] using
    (hnames.append_right _).append_right (s.loans.map fun loan => Ref.record loan.record)

private theorem holds_perm_displacedArguments (h : s.arguments.Distinct) (name : String) :
    s.holds.Perm (s.displacedArguments name ++ (s.records.toList.map Ref.record ++
      (s.arguments.erase name).toList.map .arguments ++
        s.loans.map fun loan => .record loan.record)) := by
  have hnames := (h.perm_toList_erase name).map Ref.arguments
  rw [List.map_append] at hnames
  have hall := (hnames.append_left (s.records.toList.map Ref.record)).append_right
    (s.loans.map fun loan => Ref.record loan.record)
  simp only [List.append_assoc] at hall
  simp only [holds, displacedArguments, List.append_assoc]
  exact hall.trans (List.perm_append_comm_assoc _ _ _)

/-- A name bound to a record that was held for it. -/
private theorem balanced_bind (h : s.Sound digest) {store : Store} {name : String} {r : RecordId}
    (hstore : store.Balanced (.record r :: s.holds))
    (ht : t.store = store.release (s.displaced name))
    (hrecords : t.records = s.records.insert name r) (harguments : t.arguments = s.arguments)
    (hloans : t.loans = s.loans) : t.store.Balanced t.holds := by
  rw [ht]
  apply Store.Balanced.release
  refine hstore.perm ((holds_perm_displaced h.recordNames name).cons _ |>.trans ?_)
  rw [holds, hrecords, harguments, hloans, Table.toList_insert]
  exact List.perm_middle.symm

/-- The balance holds after every effect. -/
theorem Effect.balanced (he : s.Effect call t) (h : s.Sound digest) :
    t.store.Balanced t.holds := by
  cases he with
  | none store keeps =>
    rw [store, keeps.holds_eq]
    exact h.balanced
  | assign target content length live parent store keeps =>
    rw [store, keeps.holds_eq]
    exact h.balanced.putSlots _ live
  | make bound made live store records arguments loans =>
    have hcreated := h.balanced.create live
    rw [Store.create_fst] at hcreated
    exact balanced_bind h hcreated store records arguments loans
  | @makeAlone name schema parent bound made live store records arguments loans =>
    have hcreated := h.balanced.createAlone schema live
    rw [Store.createAlone_fst] at hcreated
    exact balanced_bind h hcreated store records arguments loans
  | share bound handle store records arguments loans =>
    exact balanced_bind h (h.balanced.retain (h.balanced.live_of_mem_held handle)) store records
      arguments loans
  | @drop name r bound named store records arguments loans =>
    rw [store]
    apply Store.Balanced.release
    have hperm := holds_perm_displaced h.recordNames name
    rw [displaced, named] at hperm
    rw [holds, records, arguments, loans]
    exact h.balanced.perm hperm
  | @makeArguments name values live store records arguments loans =>
    rw [store]
    apply Store.Balanced.release
    refine (h.balanced.createArguments values live).perm
      ((holds_perm_displacedArguments h.argumentNames name).cons _ |>.trans ?_)
    rw [holds, records, arguments, loans, Table.toList_insert, List.map_cons]
    refine List.perm_middle.symm.trans (List.Perm.append_left _ ?_)
    simp only [List.append_assoc, List.cons_append]
    exact List.perm_middle.symm
  | @dropArguments name a named store records arguments loans =>
    rw [store]
    apply Store.Balanced.release
    have hperm := holds_perm_displacedArguments h.argumentNames name
    rw [displacedArguments, named] at hperm
    rw [holds, records, arguments, loans]
    exact h.balanced.perm hperm
  | lend store records arguments loans =>
    refine (h.balanced.lend store).perm ?_
    rw [holds, holds, records, arguments, loans, List.map_cons]
    exact List.perm_middle.symm
  | endLoan opened store records arguments =>
    rw [store]
    apply Store.Balanced.giveBack
    refine h.balanced.perm ?_
    rw [holds, holds, records, arguments, opened, List.map_cons]
    exact List.perm_middle

/-! ## Where the content of a record comes from -/

/-- Where a record that is there after a call comes from. -/
inductive Provenance (s : Session) (call : Call) (r : RecordId) (record : Record) : Prop
  | kept {guard : Guard} (content : s.store.content? r = some (record, guard))
  | assigned {old : Record} {slots : List Value} (target : s.written? call = some r)
      (content : s.store.content? r = some (old, .free))
      (record_eq : record = { old with slots := slots })
      (length : slots.length = old.slots.length)
      (parent : ¬ s.AssignsParent call → slots[parentSlot]? = old.slots[parentSlot]?)
  | made (fresh : r = ⟨s.store.records.next⟩) (made : s.Makes call record)

theorem Effect.provenance (he : s.Effect call t) {r : RecordId} {record : Record} {guard : Guard}
    (hr : t.store.content? r = some (record, guard)) : s.Provenance call r record := by
  cases he with
  | none store keeps =>
    rw [store] at hr
    exact .kept hr
  | assign target content length live parent store keeps =>
    rw [store] at hr
    rcases Store.content?_of_putSlots content hr with ⟨rfl, hrecord, -⟩ | ⟨-, hr⟩
    · exact .assigned target content hrecord length parent
    · exact .kept hr
  | @make name made_ bound made live store records arguments loans =>
    rw [store] at hr
    have hcreated := (Store.within_release _ _).content hr
    by_cases hfresh : r = ⟨s.store.records.next⟩
    · rw [hfresh, Store.content?_create_self] at hcreated
      cases hcreated
      exact .made hfresh made
    · rw [Store.content?_create_of_ne _ _ hfresh] at hcreated
      exact .kept hcreated
  | makeAlone bound made live store records arguments loans =>
    rw [store] at hr
    rcases Store.content?_of_createAlone ((Store.within_release _ _).content hr) with
      ⟨hfresh, rfl, -⟩ | hkept
    · exact .made hfresh made
    · exact .kept hkept
  | @share name q bound handle store records arguments loans =>
    rw [store] at hr
    have hretained := (Store.within_release _ _).content hr
    rw [(Store.sameContents_retain s.store (.record q)).content] at hretained
    exact .kept hretained
  | drop bound named store records arguments loans =>
    rw [store] at hr
    exact .kept ((Store.within_release _ _).content hr)
  | makeArguments live store records arguments loans =>
    rw [store] at hr
    have hcreated := (Store.within_release _ _).content hr
    rw [Store.content?_createArguments] at hcreated
    exact .kept hcreated
  | dropArguments named store records arguments loans =>
    rw [store] at hr
    exact .kept ((Store.within_release _ _).content hr)
  | lend store records arguments loans =>
    obtain ⟨before, hbefore⟩ := Store.exists_content_of_lend store hr
    exact .kept hbefore
  | endLoan opened store records arguments =>
    rw [store] at hr
    obtain ⟨before, hbefore⟩ := Store.exists_content_of_giveBack hr
    exact .kept hbefore

theorem Sound.wellFormed_of_makes (h : s.Sound digest) {record : Record}
    (hm : s.Makes call record) : record.WellFormed digest := by
  cases hm with
  | given hs hv ha => exact Record.wellFormed_new (h.schemas hs) _ _
  | alone hs hv => exact Record.wellFormed_new (h.schemas hs) _ _
  | root hs => exact Record.wellFormed_new (h.schemas hs) _ _
  | clone hr hc => exact h.records hc
  | materialize hop hr hc hconforms =>
    have hlength := Record.length_of_conformsTo hconforms
    exact ⟨(h.operators hop).schema, hlength⟩

theorem Provenance.wellFormed (hp : s.Provenance call r record) (h : s.Sound digest) :
    record.WellFormed digest := by
  cases hp with
  | kept content => exact h.records content
  | assigned target content record_eq length parent =>
    rw [record_eq]
    exact (h.records content).withSlots length
  | made fresh made => exact h.wellFormed_of_makes made

/-! ## The names of records -/

/-- A name stays with its record until a call takes it away. -/
theorem Effect.get?_records (he : s.Effect call t) {name : String}
    (hname : call.recordName? ≠ some name) : t.records.get? name = s.records.get? name := by
  have hne {bound : String} (h : call.recordName? = some bound) : name ≠ bound :=
    fun heq => hname (heq ▸ h)
  cases he with
  | none store keeps => rw [keeps.records]
  | assign target content length live parent store keeps => rw [keeps.records]
  | make bound made live store records arguments loans =>
    rw [records, Table.get?_insert_of_ne _ _ (hne bound)]
  | makeAlone bound made live store records arguments loans =>
    rw [records, Table.get?_insert_of_ne _ _ (hne bound)]
  | share bound handle store records arguments loans =>
    rw [records, Table.get?_insert_of_ne _ _ (hne bound)]
  | drop bound named store records arguments loans =>
    rw [records, Table.get?_erase_of_ne _ (hne bound)]
  | makeArguments live store records arguments loans => rw [records]
  | dropArguments named store records arguments loans => rw [records]
  | lend store records arguments loans => rw [records]
  | endLoan opened store records arguments => rw [records]

theorem Effect.recordNames (he : s.Effect call t) (h : s.records.Distinct) :
    t.records.Distinct := by
  cases he with
  | none store keeps => rwa [keeps.records]
  | assign target content length live parent store keeps => rwa [keeps.records]
  | make bound made live store records arguments loans =>
    rw [records]
    exact h.insert _ _
  | makeAlone bound made live store records arguments loans =>
    rw [records]
    exact h.insert _ _
  | share bound handle store records arguments loans =>
    rw [records]
    exact h.insert _ _
  | drop bound named store records arguments loans =>
    rw [records]
    exact h.erase _
  | makeArguments live store records arguments loans => rwa [records]
  | dropArguments named store records arguments loans => rwa [records]
  | lend store records arguments loans => rwa [records]
  | endLoan opened store records arguments => rwa [records]

theorem Effect.argumentNames (he : s.Effect call t) (h : s.arguments.Distinct) :
    t.arguments.Distinct := by
  cases he with
  | none store keeps => rwa [keeps.arguments]
  | assign target content length live parent store keeps => rwa [keeps.arguments]
  | make bound made live store records arguments loans => rwa [arguments]
  | makeAlone bound made live store records arguments loans => rwa [arguments]
  | share bound handle store records arguments loans => rwa [arguments]
  | drop bound named store records arguments loans => rwa [arguments]
  | makeArguments live store records arguments loans =>
    rw [arguments]
    exact h.insert _ _
  | dropArguments named store records arguments loans =>
    rw [arguments]
    exact h.erase _
  | lend store records arguments loans => rwa [arguments]
  | endLoan opened store records arguments => rwa [arguments]

/-! ## Steps and runs -/

/-- Every call keeps a session sound. -/
theorem Sound.stepBy (h : s.Sound digest) (call : Call) :
    (s.stepBy digest call).2.Sound digest := by
  have he := effect_stepBy h call
  have ht := keepsTables_stepBy h call
  exact
    { balanced := he.balanced h
      records := fun hr => (he.provenance hr).wellFormed h
      schemas := ht.schemas
      operators := ht.wellFormed
      recordNames := he.recordNames h.recordNames
      argumentNames := he.argumentNames h.argumentNames }

@[simp] theorem runBy_nil (digest : Layout.DigestFunction) (s : Session) :
    s.runBy digest [] = s := rfl

@[simp] theorem runBy_cons (digest : Layout.DigestFunction) (s : Session) (call : Call)
    (calls : List Call) :
    s.runBy digest (call :: calls) = (s.stepBy digest call).2.runBy digest calls := rfl

theorem runBy_append (digest : Layout.DigestFunction) (s : Session) (before after : List Call) :
    s.runBy digest (before ++ after) = (s.runBy digest before).runBy digest after :=
  List.foldl_append

theorem Sound.runBy (h : s.Sound digest) (calls : List Call) :
    (s.runBy digest calls).Sound digest := by
  induction calls generalizing s with
  | nil => exact h
  | cons call calls ih => exact ih (h.stepBy call)

theorem Reachable.runBy (h : s.Reachable digest) (calls : List Call) :
    (s.runBy digest calls).Reachable digest := by
  obtain ⟨debugChecks, before, rfl⟩ := h
  exact ⟨debugChecks, before ++ calls, (runBy_append _ _ _ _).symm⟩

/-- Every session that a client can reach is sound. -/
theorem sound_of_reachable (h : s.Reachable digest) : s.Sound digest := by
  obtain ⟨debugChecks, calls, rfl⟩ := h
  exact (sound_empty digest debugChecks).runBy calls

end LoopScope.Session
