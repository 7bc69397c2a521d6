import LoopScope.Proofs.Profile
import LoopScope.Proofs.Session.Copies
import LoopScope.Proofs.Session.Runs
/-!
# The profiles of an operator

Over a run, each accessor of an operator observes the kinds of the values that it moves, in order:
those of copies that pass, and those of its own direct uses. Calls that fail leave no trace, and no
more do copies of a record into itself.
-/
namespace LoopScope

/-! ## Accessors -/

/-- The accessor after it has moved values of these kinds. -/
def Accessor.observeAll (a : Accessor) (kinds : List ValueKind) : Accessor :=
  { a with profile := a.profile.observeAll kinds }

theorem Accessor.observeAll_append (a : Accessor) (before after : List ValueKind) :
    a.observeAll (before ++ after) = (a.observeAll before).observeAll after := by
  rw [observeAll, Profile.observeAll_append]
  rfl

/-- Each of the accessors has moved values of the kinds that are listed for its place. -/
def Seen (accessors later : List Accessor) (kinds : Nat → List ValueKind) : Prop :=
  ∀ i, later[i]? = accessors[i]?.map fun a : Accessor => a.observeAll (kinds i)

section Seen

variable {accessors later last : List Accessor} {kinds kinds' : Nat → List ValueKind}

theorem seen_nothing (h : later = accessors) (hkinds : ∀ i, kinds i = []) :
    Seen accessors later kinds := by
  intro i
  rw [h, hkinds]
  exact Option.map_id'.symm

theorem Seen.trans (h : Seen accessors later kinds) (h' : Seen later last kinds') :
    Seen accessors last fun i => kinds i ++ kinds' i := by
  intro i
  rw [h' i, h i, Option.map_map]
  simp only [Accessor.observeAll_append]
  rfl

theorem Seen.profile_eq (h : Seen accessors later kinds) (i : Nat) :
    later[i]?.map Accessor.profile =
      accessors[i]?.map fun a => a.profile.observeAll (kinds i) := by
  rw [h i, Option.map_map]
  rfl

/-- One accessor has moved one value. -/
theorem seen_set {position : Nat} {a : Accessor} {value : Value}
    (ha : accessors[position]? = some a)
    (hkinds : ∀ i, kinds i = if i = position then [value.kind] else []) :
    Seen accessors (accessors.set position (a.observe value)) kinds := by
  intro i
  rw [hkinds]
  by_cases hi : i = position
  · subst hi
    obtain ⟨hlt, -⟩ := List.getElem?_eq_some_iff.mp ha
    rw [if_pos rfl, List.getElem?_set_self hlt, ha]
    rfl
  · rw [if_neg hi, List.getElem?_set_ne (Ne.symm hi)]
    exact Option.map_id'.symm

/-- All accessors from some place on have moved the value in the slot at their place. -/
theorem seen_slots {slots : List Value} {position : Nat}
    (h : ∀ (i : Nat) (value : Value), slots[i]? = some value →
      later[i]? = accessors[i]?.map fun a => if i < position then a else a.observe value)
    (hlen : accessors.length = slots.length) (hlater : later.length = slots.length)
    (hkinds : ∀ i, kinds i = if i < position then [] else slots[i]?.toList.map Value.kind) :
    Seen accessors later kinds := by
  intro i
  cases hi : slots[i]? with
  | none =>
    have hout : slots.length ≤ i := List.getElem?_eq_none_iff.mp hi
    rw [List.getElem?_eq_none_iff.mpr (hlater ▸ hout), List.getElem?_eq_none_iff.mpr (hlen ▸ hout)]
    rfl
  | some value =>
    rw [h i value hi, hkinds, hi]
    by_cases hlt : i < position
    · simp only [if_pos hlt]
      rfl
    · simp only [if_neg hlt]
      rfl

end Seen

namespace Operator

variable {digest : Layout.DigestFunction} {op used later : Operator}
  {readKinds writtenKinds readKinds' writtenKinds' : Nat → List ValueKind}

/-- Between two states of an operator its accessors have moved values of these kinds. -/
structure Saw (op used : Operator) (readKinds writtenKinds : Nat → List ValueKind) : Prop where
  reads : Seen op.reads used.reads readKinds
  writes : Seen op.writes used.writes writtenKinds

theorem Saw.trans (h : op.Saw used readKinds writtenKinds)
    (h' : used.Saw later readKinds' writtenKinds') :
    op.Saw later (fun i => readKinds i ++ readKinds' i)
      fun i => writtenKinds i ++ writtenKinds' i :=
  ⟨h.reads.trans h'.reads, h.writes.trans h'.writes⟩

/-- What a copy lets the accessors see, told by kinds. -/
theorem WellFormed.saw_copy (h : op.WellFormed digest) (position : Nat) {slots : List Value}
    (hlen : slots.length = op.schema.schema.length) (event : String)
    (hread : ∀ i, readKinds i = if i < position then [] else slots[i]?.toList.map Value.kind)
    (hwritten : ∀ i, writtenKinds i = readKinds i) :
    op.Saw ((op.observing position slots).logOutcome event (.ok ())) readKinds writtenKinds := by
  have hobserves := (h.observes position hlen).logOutcome event (.ok ())
  have hlater := (h.observing position hlen).logOutcome event (.ok ())
  have hschema := (op.observing position slots).usedFrom_logOutcome event (.ok ())
  have hlength : ((op.observing position slots).logOutcome event
      (.ok ())).schema.schema.length = slots.length := by
    rw [hschema.schema]
    exact hlen.symm
  constructor
  · exact seen_slots hobserves.reads (h.length_reads.trans hlen.symm)
      (hlater.length_reads.trans hlength) hread
  · refine seen_slots hobserves.writes (h.length_writes.trans hlen.symm)
      (hlater.length_writes.trans hlength) ?_
    intro i
    rw [hwritten, hread]

end Operator

namespace Session

variable {digest : Layout.DigestFunction} {s t : Session} {call : Call} {calls : List Call}
  {answer : Answer} {name : String} {op used : Operator}

/-- The kind of the value in a slot of a named record, if there is one. -/
def kindsAt (s : Session) (record : String) (i : Nat) : List ValueKind :=
  match (s.records.get? record).bind s.store.content? with
  | some (record, _) => record.slots[i]?.toList.map Value.kind
  | none => []

/-- What a copy by the operator of a name moves through slot `i`. -/
def copiedKinds (name : String) (i : Nat) (s : Session) (call : Call) (answer : Answer) :
    List ValueKind :=
  match call, answer with
  | .materialize _ operator source, .materialized _ _ =>
    if operator = name then s.kindsAt source i else []
  | .copyInto operator destination source, .snapshot _ =>
    if operator = name ∧ s.records.get? destination ≠ s.records.get? source ∧ parentSlot < i then
      s.kindsAt source i
    else []
  | _, _ => []

/-- What a call moves through the accessor that reads slot `i` for the operator of a name. -/
def readKinds (name : String) (i : Nat) (s : Session) (call : Call) (answer : Answer) :
    List ValueKind :=
  match call, answer with
  | .read _ accessor, .moved _ (.ok (some value)) =>
    if accessor = .ofOperator name i then [value.kind] else []
  | _, _ => copiedKinds name i s call answer

/-- What a call moves through the accessor that writes slot `i` for the operator of a name. -/
def writtenKinds (name : String) (i : Nat) (s : Session) (call : Call) (answer : Answer) :
    List ValueKind :=
  match call, answer with
  | .write _ accessor operand, .moved _ (.ok none) =>
    if accessor = .ofOperator name i then (s.operand? operand).toList.map Value.kind else []
  | _, _ => copiedKinds name i s call answer

/-! ## One call -/

section Kinds

variable (i : Nat) (s : Session)

theorem copiedKinds_of_ne (h : call.operated? ≠ some name) :
    copiedKinds name i s call answer = [] := by
  unfold copiedKinds
  split
  · exact if_neg fun he => h (congrArg some he)
  · exact if_neg fun he => h (congrArg some he.1)
  · rfl

theorem readKinds_of_ne (h : call.operated? ≠ some name) :
    readKinds name i s call answer = [] := by
  unfold readKinds
  split
  · refine if_neg fun he => h ?_
    rw [he]
    rfl
  · exact copiedKinds_of_ne i s h

theorem writtenKinds_of_ne (h : call.operated? ≠ some name) :
    writtenKinds name i s call answer = [] := by
  unfold writtenKinds
  split
  · refine if_neg fun he => h ?_
    rw [he]
    rfl
  · exact copiedKinds_of_ne i s h

theorem kinds_of_unbound (name : String) (call : Call) :
    readKinds name i s call .unbound = [] ∧ writtenKinds name i s call .unbound = [] := by
  cases call <;> exact ⟨rfl, rfl⟩

theorem kinds_of_failed (name : String) (call : Call) (e : ScopeError) :
    readKinds name i s call (.failed e) = [] ∧ writtenKinds name i s call (.failed e) = [] := by
  cases call <;> exact ⟨rfl, rfl⟩

theorem kinds_of_missed (name : String) (call : Call) (a : Accessor) (e : ScopeError) :
    readKinds name i s call (.moved a (.error e)) = [] ∧
      writtenKinds name i s call (.moved a (.error e)) = [] := by
  cases call <;> exact ⟨rfl, rfl⟩

end Kinds

theorem kindsAt_of_content {source : String} {r : RecordId} {record : Record} {guard : Guard}
    (hr : s.records.get? source = some r) (hc : s.store.content? r = some (record, guard))
    (i : Nat) : s.kindsAt source i = record.slots[i]?.toList.map Value.kind := by
  rw [kindsAt, hr, Option.bind_some, hc]

/-- What a use of an operator lets its accessors see. -/
theorem Use.saw (h : s.Use name op call answer used) (hop : op.WellFormed digest) :
    op.Saw used (fun i => readKinds name i s call answer)
      fun i => writtenKinds name i s call answer := by
  cases h with
  | elsewhere other =>
    exact ⟨seen_nothing rfl fun i => readKinds_of_ne i s other,
      seen_nothing rfl fun i => writtenKinds_of_ne i s other⟩
  | unbound =>
    exact ⟨seen_nothing rfl fun i => (kinds_of_unbound i s name call).1,
      seen_nothing rfl fun i => (kinds_of_unbound i s name call).2⟩
  | @busy call e accessed =>
    exact ⟨seen_nothing rfl fun i => (kinds_of_failed i s name call e).1,
      seen_nothing rfl fun i => (kinds_of_failed i s name call e).2⟩
  | @missed call a e accessed =>
    exact ⟨seen_nothing rfl fun i => (kinds_of_missed i s name call a e).1,
      seen_nothing rfl fun i => (kinds_of_missed i s name call a e).2⟩
  | @read record position a value found =>
    refine ⟨seen_set found fun i => ?_, seen_nothing rfl fun i => rfl⟩
    simp only [readKinds, AccessorName.ofOperator.injEq, true_and, eq_comm]
  | @write record position operand a value found given =>
    refine ⟨seen_nothing rfl fun i => rfl, seen_set found fun i => ?_⟩
    simp only [writtenKinds, AccessorName.ofOperator.injEq, true_and, eq_comm, given,
      Option.toList_some, List.map_cons, List.map_nil]
  | refusedMaterialize =>
    exact ⟨seen_nothing (op.reads_logOutcome _ _) fun i => rfl,
      seen_nothing (op.writes_logOutcome _ _) fun i => rfl⟩
  | materialize named content conforms =>
    refine hop.saw_copy 0 (Record.length_of_conformsTo conforms) _ ?_ fun i => rfl
    intro i
    rw [if_neg (Nat.not_lt_zero i), ← kindsAt_of_content named content]
    exact if_pos rfl
  | refusedCopy =>
    exact ⟨seen_nothing (op.reads_logOutcome _ _) fun i => rfl,
      seen_nothing (op.writes_logOutcome _ _) fun i => rfl⟩
  | selfCopy destinationNamed sourceNamed =>
    have hsame := destinationNamed.trans sourceNamed.symm
    exact ⟨seen_nothing (op.reads_logOutcome _ _) fun i => if_neg fun hcopy => hcopy.2.1 hsame,
      seen_nothing (op.writes_logOutcome _ _) fun i => if_neg fun hcopy => hcopy.2.1 hsame⟩
  | @copy destination source into r record guard snapshot destinationNamed sourceNamed distinct
      content conforms =>
    refine hop.saw_copy 1 (Record.length_of_conformsTo conforms) _ ?_ fun i => rfl
    intro i
    have hnames : s.records.get? destination ≠ s.records.get? source := by
      rw [destinationNamed, sourceNamed]
      exact fun h => distinct (Option.some.inj h)
    rw [← kindsAt_of_content sourceNamed content]
    by_cases hi : i < 1
    · rw [if_pos hi]
      exact if_neg fun hcopy => Nat.not_lt.mpr (Nat.le_of_lt_succ hi) hcopy.2.2
    · rw [if_neg hi]
      exact if_pos ⟨rfl, hnames, Nat.le_of_not_lt hi⟩
  | duplicate =>
    exact ⟨seen_nothing rfl fun i => rfl, seen_nothing rfl fun i => rfl⟩
  | drain =>
    exact ⟨seen_nothing rfl fun i => rfl, seen_nothing rfl fun i => rfl⟩

/-! ## Runs -/

theorem UseRun.saw (h : UseRun digest name s calls op used) (hop : op.WellFormed digest) :
    op.Saw used (fun i => s.collect digest (readKinds name i) calls)
      fun i => s.collect digest (writtenKinds name i) calls := by
  induction h with
  | nil => exact ⟨seen_nothing rfl fun i => rfl, seen_nothing rfl fun i => rfl⟩
  | cons use rest ih => exact (use.saw hop).trans (ih (use.wellFormed hop))

/-- The accessors of an operator that a call has made have seen nothing yet. -/
theorem fresh_of_binds (h : s.Sound digest) (hbinds : call.Binds (s.stepBy digest call).1 name) :
    ∃ op, (s.stepBy digest call).2.operators.get? name = some op ∧
      ∀ a ∈ op.reads ++ op.writes, a.profile = .uninitialized := by
  cases (setupEffect_stepBy h call).operators name with
  | absent kept before after => exact (kept hbinds).elim
  | used kept before after use => exact (kept hbinds).elim
  | @built given source op reads writes config context builds resolved after fresh built schema =>
    obtain ⟨hop, -⟩ := Operator.build_eq_ok built
    refine ⟨op, after, ?_⟩
    rw [hop]
    exact fresh
  | @duplicated source op duplicates before after =>
    refine ⟨_, after, ?_⟩
    intro a ha
    simp only [Operator.cloneUninitialized, ← List.map_append] at ha
    obtain ⟨old, -, rfl⟩ := List.mem_map.mp ha
    rfl

/-- Only direct uses tell the accessors of one slot apart. -/
theorem kinds_of_not_accessed (i : Nat) (s : Session) (h : call.accessed? ≠ some name) :
    readKinds name i s call answer = copiedKinds name i s call answer ∧
      writtenKinds name i s call answer = copiedKinds name i s call answer := by
  constructor
  · unfold readKinds
    split
    · refine if_neg fun he => h ?_
      rw [he]
      rfl
    · rfl
  · unfold writtenKinds
    split
    · refine if_neg fun he => h ?_
      rw [he]
      rfl
    · rfl

/-- Accessors that were fresh have seen just the kinds that they moved. -/
private theorem profile_eq_of_fresh {accessors later : List Accessor} {i : Nat}
    {kinds : List ValueKind} (h : later[i]?.map Accessor.profile =
      accessors[i]?.map fun a => a.profile.observeAll kinds)
    (hnew : ∀ a ∈ accessors, a.profile = .uninitialized) (hi : i < accessors.length) :
    later[i]?.map Accessor.profile = some (Profile.uninitialized.observeAll kinds) := by
  have ha := List.getElem?_eq_getElem hi
  rw [h, ha, Option.map_some, hnew _ (List.mem_of_getElem? ha)]

/-- The profile of an accessor sums up, on top of what it was, the kinds of the values that calls
have moved through the accessor, and nothing else. If an operator starts with fresh accessors and
only copies, then the two profiles of a slot are equal, and a profile of one kind says that all
values moved through the slot were of this kind. Every operator that a call makes starts so. -/
theorem profile_law (hs : s.Reachable digest) (hop : s.operators.get? name = some op)
    (hkept : ∀ call ∈ calls, call.operatorName? ≠ some name) :
    (∃ used, (s.runBy digest calls).operators.get? name = some used ∧
      (∀ i, used.reads[i]?.map Accessor.profile = op.reads[i]?.map fun a : Accessor =>
        a.profile.observeAll (s.collect digest (readKinds name i) calls)) ∧
      (∀ i, used.writes[i]?.map Accessor.profile = op.writes[i]?.map fun a : Accessor =>
        a.profile.observeAll (s.collect digest (writtenKinds name i) calls)) ∧
      ((∀ a ∈ op.reads, a.profile = .uninitialized) →
        (∀ a ∈ op.writes, a.profile = .uninitialized) →
        (∀ call ∈ calls, call.accessed? ≠ some name) → ∀ i, i < op.slotCount →
        used.reads[i]?.map Accessor.profile = used.writes[i]?.map Accessor.profile ∧
        ∀ k, used.reads[i]?.map Accessor.profile = some (.monomorphic k) →
          ∀ kind ∈ s.collect digest (copiedKinds name i) calls, kind = k)) ∧
    ∀ call bound, call.Binds (s.stepBy digest call).1 bound →
      ∃ made, (s.stepBy digest call).2.operators.get? bound = some made ∧
        (∀ a ∈ made.reads, a.profile = .uninitialized) ∧
        ∀ a ∈ made.writes, a.profile = .uninitialized := by
  have hsound := sound_of_reachable hs
  have hwell := hsound.operators hop
  obtain ⟨used, hused, hrun⟩ := exists_useRun hsound hkept hop
  have hsaw := hrun.saw hwell
  have hreads := hsaw.reads.profile_eq
  have hwrites := hsaw.writes.profile_eq
  refine ⟨⟨used, hused, hreads, hwrites, ?copies⟩, ?made⟩
  case copies =>
    intro hnewReads hnewWrites hcalls i hi
    have hread : s.collect digest (readKinds name i) calls =
        s.collect digest (copiedKinds name i) calls :=
      collect_congr fun call hm u answer => (kinds_of_not_accessed i u (hcalls call hm)).1
    have hwritten : s.collect digest (writtenKinds name i) calls =
        s.collect digest (copiedKinds name i) calls :=
      collect_congr fun call hm u answer => (kinds_of_not_accessed i u (hcalls call hm)).2
    have hreadProfile := profile_eq_of_fresh (hreads i) hnewReads (by rwa [hwell.length_reads])
    have hwriteProfile := profile_eq_of_fresh (hwrites i) hnewWrites (by rwa [hwell.length_writes])
    rw [hread] at hreadProfile
    rw [hwritten] at hwriteProfile
    refine ⟨hreadProfile.trans hwriteProfile.symm, ?_⟩
    intro k hk
    rw [hreadProfile] at hk
    exact Profile.eq_of_monomorphic (Option.some.inj hk)
  case made =>
    intro call bound hbinds
    obtain ⟨made, hmade, hnew⟩ := fresh_of_binds hsound hbinds
    obtain ⟨hnewReads, hnewWrites⟩ := List.forall_mem_append.mp hnew
    exact ⟨made, hmade, hnewReads, hnewWrites⟩

/-- A client makes a record from the first one, and refreshes the second one from it. -/
def copyingCalls : List Call :=
  [.materialize "third" "next" "first", .copyInto "next" "second" "third"]

theorem profile_law_sample :
    ∃ used, (sample.runBy (fun _ => []) copyingCalls).operators.get? "next" = some used ∧
      used.reads[1]?.map Accessor.profile = some (.monomorphic .boolean) ∧
      used.writes[1]?.map Accessor.profile = some (.monomorphic .boolean) ∧
      ∀ kind ∈ sample.collect (fun _ => []) (copiedKinds "next" 1) copyingCalls, kind = .boolean := by
  have hkept : ∀ call ∈ copyingCalls, call.operatorName? ≠ some "next" := by decide
  obtain ⟨⟨used, hused, hreads, -, hcopies⟩, -⟩ :=
    profile_law reachable_sample operator_sample hkept
  have hkinds : sample.collect (fun _ => []) (readKinds "next" 1) copyingCalls =
      [.boolean, .boolean] := by cbv
  have hread : used.reads[1]?.map Accessor.profile = some (.monomorphic .boolean) := by
    rw [hreads 1, hkinds]
    rfl
  obtain ⟨hsame, hmoved⟩ := hcopies (by decide) (by decide) (by decide) 1 (by decide)
  exact ⟨used, hused, hread, hsame.symm.trans hread, hmoved _ hread⟩

end Session

end LoopScope
