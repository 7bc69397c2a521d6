import LoopScope.Proofs.Session.Duplicates
import LoopScope.Proofs.Store.Collection
/-!
# Refreshes after refreshes

How a refresh ends depends on the guards and the layouts of two records and on their parent links,
and what it writes depends on the bindings of the source. No refresh changes a guard, a layout or a
parent link. So a record that is refreshed again is as if it had been refreshed but once, and the
source of a refresh can be refreshed from the destination without any effect.
-/
namespace LoopScope

/-- A refresh of one record from another, with what the operator finds in them. -/
structure Copy where
  operator : Operator
  debugChecks : Bool
  destination : RecordId
  into : Record
  intoGuard : Guard
  source : RecordId
  record : Record
  guard : Guard

namespace Copy

variable {digest : Layout.DigestFunction} {c : Copy} {s : Store} {held : List Ref} {e : ScopeError}

def outcome (c : Copy) : Except ScopeError Unit :=
  if c.guard = .exclusive ∨ c.destination ≠ c.source ∧ c.intoGuard ≠ .free then
    .error .recordBusy
  else if c.destination = c.source then c.operator.checkConformance c.record .source
  else c.operator.checkRefresh c.debugChecks c.record c.into

/-- The slots of the destination afterwards. -/
def slots (c : Copy) : List Value :=
  match c.outcome with
  | .ok () => c.into.slots.take 1 ++ c.record.slots.drop 1
  | .error _ => c.into.slots

/-- An operator after moving what the refresh moves. -/
def observed (c : Copy) (op : Operator) : Operator :=
  match c.outcome with
  | .ok () => if c.destination = c.source then op else op.observing 1 c.record.slots
  | .error _ => op

/-- What the refresh leaves of an operator that makes it. -/
def leaves (c : Copy) (op : Operator) : Operator :=
  (c.observed op).logOutcome "copy_into" c.outcome

structure FoundIn (c : Copy) (s : Store) : Prop where
  into : s.content? c.destination = some (c.into, c.intoGuard)
  record : s.content? c.source = some (c.record, c.guard)

theorem slots_of_ok (h : c.outcome = .ok ()) :
    c.slots = c.into.slots.take 1 ++ c.record.slots.drop 1 := by
  rw [slots, h]

theorem slots_of_error (h : c.outcome = .error e) : c.slots = c.into.slots := by
  rw [slots, h]

theorem outcome_of_self (h : c.destination = c.source) :
    c.outcome =
      if c.guard = .exclusive then .error .recordBusy
      else c.operator.checkConformance c.record .source := by
  simp only [outcome, h, ne_eq, not_true, false_and, or_false, if_true]

theorem outcome_of_ne (h : c.destination ≠ c.source) :
    c.outcome =
      if c.guard = .exclusive ∨ c.intoGuard ≠ .free then .error .recordBusy
      else c.operator.checkRefresh c.debugChecks c.record c.into := by
  simp only [outcome, h, ne_eq, not_false_eq_true, true_and, if_false]

theorem FoundIn.into_eq (h : c.FoundIn s) (hself : c.destination = c.source) :
    c.into = c.record := by
  have hcontent := h.into
  rw [hself, h.record] at hcontent
  exact congrArg Prod.fst (Option.some.inj hcontent).symm

/-- A refresh of a record from itself leaves the record and the accessors alone. -/
theorem FoundIn.copyInto_self (h : c.FoundIn s) (hself : c.destination = c.source) :
    c.operator.copyInto c.debugChecks s c.destination c.source =
        (c.outcome, c.leaves c.operator, s) ∧
      c.slots = c.into.slots := by
  have hobserved : c.observed c.operator = c.operator := by
    unfold observed
    split
    · rw [if_pos hself]
    · rfl
  constructor
  · rw [hself, c.operator.copyInto_self_eq c.debugChecks h.record, leaves, hobserved,
      outcome_of_self hself]
    by_cases hg : c.guard = .exclusive
    · rw [if_pos hg, if_pos hg]
      rfl
    · rw [if_neg hg, if_neg hg]
      by_cases hconforms : c.record.conformsTo c.operator.schema
      · rw [if_pos hconforms, Operator.checkConformance_of_conformsTo hconforms]
      · rw [if_neg hconforms, Operator.checkConformance_of_not hconforms]
        rfl
  · cases houtcome : c.outcome with
    | ok done => rw [slots_of_ok houtcome, h.into_eq hself, List.take_append_drop]
    | error e => exact slots_of_error houtcome

/-- A refresh is told by its outcome: it writes the slots, and leaves the operator used. One that is
refused writes what was there. -/
theorem FoundIn.copyInto_eq (h : c.FoundIn s) (hop : c.operator.WellFormed digest)
    (hs : s.Balanced held) :
    c.operator.copyInto c.debugChecks s c.destination c.source =
      (c.outcome, c.leaves c.operator, s.putSlots c.destination c.slots) := by
  have hkept : s.putSlots c.destination c.into.slots = s := hs.putSlots_self h.into
  by_cases hself : c.destination = c.source
  · obtain ⟨hcopy, hslots⟩ := h.copyInto_self hself
    rw [hcopy, hslots, hkept]
  · rw [Operator.copyInto_eq hop c.debugChecks hself h.into h.record]
    have houtcome := outcome_of_ne hself
    by_cases hbusy : c.guard = .exclusive ∨ c.intoGuard ≠ .free
    · rw [if_pos hbusy] at houtcome
      rw [if_pos hbusy, leaves, observed, slots_of_error houtcome, houtcome, hkept]
      rfl
    · rw [if_neg hbusy] at houtcome
      rw [if_neg hbusy, ← houtcome]
      cases hresult : c.outcome with
      | error e =>
        rw [leaves, observed, slots_of_error hresult, hresult, hkept]
        rfl
      | ok done => rw [leaves, observed, slots_of_ok hresult, hresult, if_neg hself]

/-! ## What a refresh depends on -/

/-- Using the operator before makes no difference. -/
theorem outcome_of_usedFrom {op : Operator} (h : op.UsedFrom c.operator) :
    { c with operator := op }.outcome = c.outcome := by
  simp only [outcome, Operator.checkRefresh, Operator.checkConformance, h.schema, h.config]

/-- Other bindings in the destination make no difference. -/
theorem outcome_of_slots {slots : List Value} (hlength : slots.length = c.into.slots.length)
    (hparent : slots[parentSlot]? = c.into.slots[parentSlot]?) :
    { c with into := { c.into with slots := slots } }.outcome = c.outcome := by
  have hagree : ({ c.into with slots := slots } : Record).parent? = c.into.parent? := hparent
  have hrender : ({ c.into with slots := slots } : Record).renderParent = c.into.renderParent := by
    rw [Record.renderParent, Record.renderParent, hagree]
  have hshape : Session.SameShape { c.into with slots := slots } c.into := ⟨rfl, rfl, hlength⟩
  have hlength' : ({ c.into with slots := slots } : Record).length = c.into.length := hlength
  simp only [outcome, Operator.checkRefresh, Operator.checkConformance, hagree, hrender,
    hshape.conformsTo, hlength']

/-- A refresh of another record that passes finds both records open and nothing wrong with them. -/
theorem check_of_ok (hne : c.destination ≠ c.source) (h : c.outcome = .ok ()) :
    c.guard ≠ .exclusive ∧ c.intoGuard = .free ∧
      c.operator.checkRefresh c.debugChecks c.record c.into = .ok () := by
  rw [outcome_of_ne hne] at h
  split at h
  · cases h
  · rename_i hbusy
    rw [not_or, not_not] at hbusy
    exact ⟨hbusy.1, hbusy.2, h⟩

/-- Every refresh keeps the number of slots, and the parent link. -/
theorem FoundIn.slots_alike (h : c.FoundIn s) (hpos : 0 < c.into.slots.length) :
    c.slots.length = c.into.slots.length ∧ c.slots[parentSlot]? = c.into.slots[parentSlot]? := by
  by_cases hself : c.destination = c.source
  · rw [(h.copyInto_self hself).2]
    exact ⟨rfl, rfl⟩
  · cases houtcome : c.outcome with
    | error e =>
      rw [slots_of_error houtcome]
      exact ⟨rfl, rfl⟩
    | ok done =>
      obtain ⟨-, -, hcheck⟩ := check_of_ok hself houtcome
      obtain ⟨hsource, hinto⟩ := Operator.conforming_of_checkRefresh hcheck
      have hlength := (Record.length_of_conformsTo hsource).trans
        (Record.length_of_conformsTo hinto).symm
      rw [slots_of_ok houtcome]
      refine ⟨Operator.length_refreshed hpos hlength, ?_⟩
      rw [Operator.getElem?_refreshed hpos, if_pos rfl]

/-- The refresh in the other direction, with both records free. -/
def reverse (c : Copy) (op : Operator) : Copy :=
  ⟨op, c.debugChecks, c.source, c.record, .free, c.destination,
    { c.into with slots := c.slots }, .free⟩

/-- Nothing stands against going back after a refresh that has passed, and what the source of it
holds is what it would get. -/
theorem FoundIn.reverse_passes (h : c.FoundIn s) (hpos : 0 < c.into.slots.length)
    (hne : c.source ≠ c.destination) (hok : c.outcome = .ok ()) {op : Operator}
    (hop : op.UsedFrom c.operator) :
    (c.reverse op).outcome = .ok () ∧ (c.reverse op).slots = (c.reverse op).into.slots := by
  obtain ⟨hlength, hparent⟩ := h.slots_alike hpos
  have hshape : Session.SameShape { c.into with slots := c.slots } c.into := ⟨rfl, rfl, hlength⟩
  have houtcome : (c.reverse op).outcome = .ok () := by
    obtain ⟨-, -, hcheck⟩ := check_of_ok hne.symm hok
    obtain ⟨hcopied, hconforms, hagree⟩ := (c.operator.checkRefresh_eq_ok_iff _ _ _).mp hcheck
    have hkept : ({ c.into with slots := c.slots } : Record).parent? = c.into.parent? := hparent
    have hbusy : ¬ (Guard.free = .exclusive ∨ Guard.free ≠ .free) := by decide
    rw [outcome_of_ne (c := c.reverse op) hne, reverse, if_neg hbusy,
      Operator.checkRefresh_eq_ok_iff, hop.schema, hop.config, hshape.conformsTo, hkept]
    exact ⟨hconforms, hcopied, fun henabled => (hagree henabled).symm⟩
  refine ⟨houtcome, ?_⟩
  rw [slots_of_ok houtcome, reverse, slots_of_ok hok, Operator.drop_refreshed hpos,
    List.take_append_drop]

/-- How the call for a refresh is answered when the store afterwards is `t`. -/
def answer (c : Copy) (t : Store) : Answer :=
  match c.outcome with
  | .ok () => Session.answerOr .snapshot (t.snapshot c.destination)
  | .error e => .failed e

theorem ok_of_answer {t : Store} {snapshot : RecordSnapshot} (h : c.answer t = .snapshot snapshot) :
    c.outcome = .ok () := by
  unfold answer at h
  split at h
  · assumption
  · cases h

end Copy

namespace Session

variable {digest : Layout.DigestFunction} {s : Session} {first second into other source : String}
  {op : Operator} {d r : RecordId} {b c : Copy}

/-- The operator and the records of a refresh have these names. -/
structure Resolves (s : Session) (name into source : String) (c : Copy) : Prop where
  operator : s.operators.get? name = some c.operator
  debugChecks : s.debugChecks = c.debugChecks
  destination : s.records.get? into = some c.destination
  source : s.records.get? source = some c.source
  found : c.FoundIn s.store

theorem Sound.exists_resolves (hs : s.Sound digest) (hop : s.operators.get? first = some op)
    (hinto : s.records.get? into = some d) (hsource : s.records.get? source = some r) :
    ∃ c, s.Resolves first into source c ∧ c.destination = d ∧ c.source = r := by
  obtain ⟨old, intoGuard, hd⟩ := hs.exists_content (hasHandle_of_name hinto)
  obtain ⟨record, guard, hr⟩ := hs.exists_content (hasHandle_of_name hsource)
  exact ⟨⟨op, s.debugChecks, d, old, intoGuard, r, record, guard⟩,
    ⟨hop, rfl, hinto, hsource, hd, hr⟩, rfl, rfl⟩

theorem Resolves.stepBy (h : s.Resolves first into source c) (hs : s.Sound digest) :
    s.stepBy digest (.copyInto first into source) =
      (c.answer (s.store.putSlots c.destination c.slots),
        { s with
          store := s.store.putSlots c.destination c.slots
          operators := s.operators.insert first (c.leaves c.operator) }) := by
  have hcopy := h.found.copyInto_eq (hs.operators h.operator) hs.balanced
  simp only [Session.stepBy, copyIntoCall, h.operator, h.destination, h.source]
  rw [h.debugChecks, hcopy, Copy.answer]
  generalize c.leaves c.operator = used
  generalize c.slots = slots
  cases c.outcome <;> rfl

/-- One operator does the same with the same records, whatever their names. -/
theorem Resolves.unique {into' source' : String} (hb : s.Resolves first into' source' b)
    (hc : s.Resolves first into source c) (hdestination : b.destination = c.destination)
    (hsource : b.source = c.source) : b = c := by
  obtain ⟨op, debugChecks, d, old, intoGuard, r, record, guard⟩ := b
  obtain ⟨op', debugChecks', d', old', intoGuard', r', record', guard'⟩ := c
  cases hdestination
  cases hsource
  cases Option.some.inj (hb.operator.symm.trans hc.operator)
  cases hb.debugChecks.symm.trans hc.debugChecks
  cases Option.some.inj (hb.found.into.symm.trans hc.found.into)
  cases Option.some.inj (hb.found.record.symm.trans hc.found.record)
  rfl

theorem Resolves.ok_of_answer (h : s.Resolves first into source c) (hs : s.Sound digest)
    {snapshot : RecordSnapshot}
    (hanswer : (s.stepBy digest (.copyInto first into source)).1 = .snapshot snapshot) :
    c.outcome = .ok () := by
  rw [h.stepBy hs] at hanswer
  exact Copy.ok_of_answer hanswer

theorem Resolves.live_slots (h : s.Resolves first into source c) (hs : s.Sound digest) :
    ∀ ref ∈ valueRefs c.slots, s.store.Live ref := by
  cases houtcome : c.outcome with
  | ok done =>
    rw [Copy.slots_of_ok houtcome]
    exact hs.live_of_refreshed h.found.into h.found.record
  | error e =>
    rw [Copy.slots_of_error houtcome]
    exact fun ref hm =>
      hs.balanced.live_of_content? h.found.into (List.mem_append_left _ hm)

/-- The records and the guards that a later refresh of another record finds are those of before. -/
theorem Resolves.content?_of_ne (h : s.Resolves first into source c) (hs : s.Sound digest)
    (hr : s.HasHandle r) (hne : r ≠ c.destination) :
    (s.stepBy digest (.copyInto first into source)).2.store.content? r = s.store.content? r := by
  rw [h.stepBy hs]
  exact (hs.balanced.putSlots c.destination (h.live_slots hs)).content?_putSlots_of_ne hr hne

theorem Resolves.content?_destination (h : s.Resolves first into source c) (hs : s.Sound digest) :
    (s.stepBy digest (.copyInto first into source)).2.store.content? c.destination =
      some ({ c.into with slots := c.slots }, c.intoGuard) := by
  have hwritten := hs.balanced.putSlots c.destination (h.live_slots hs)
  rw [h.stepBy hs]
  exact Store.content?_putSlots_of_live
    (hwritten.live_of_mem_held (hasHandle_of_name h.destination)) h.found.into

theorem Resolves.records_stepBy (h : s.Resolves first into source c) (hs : s.Sound digest) :
    (s.stepBy digest (.copyInto first into source)).2.records = s.records := by
  rw [h.stepBy hs]

/-- A second refresh of one record finds the slots that the first one has left there, and ends as it
would have without the first. -/
theorem Resolves.again (hb : s.Resolves first into other b) (hc : s.Resolves second into source c)
    (hs : s.Sound digest) (hne : c.source ≠ c.destination) :
    ∃ later, (s.stepBy digest (.copyInto first into other)).2.Resolves second into source later ∧
      later.outcome = c.outcome ∧ later.destination = c.destination ∧
      later.into.slots = b.slots ∧ b.slots.take 1 = c.into.slots.take 1 ∧
      later.record = c.record := by
  have hsame : b.destination = c.destination :=
    Option.some.inj (hb.destination.symm.trans hc.destination)
  have hinto : b.into = c.into ∧ b.intoGuard = c.intoGuard := by
    have hcontent := hb.found.into
    rw [hsame, hc.found.into] at hcontent
    exact Prod.mk.inj (Option.some.inj hcontent.symm)
  obtain ⟨hlength, hparent⟩ := hb.found.slots_alike (hs.slots_pos hb.found.into)
  rw [hinto.1] at hlength hparent
  have hkept : (Call.copyInto first into other).operatorName? ≠ some second := nofun
  obtain ⟨op, hop, huse⟩ := use_of_stepBy hs hc.operator hkept
  let rewritten : Copy := { c with into := { c.into with slots := b.slots } }
  have houtcome : { rewritten with operator := op }.outcome = c.outcome :=
    (Copy.outcome_of_usedFrom (c := rewritten) huse.usedFrom).trans
      (Copy.outcome_of_slots hlength hparent)
  refine ⟨{ rewritten with operator := op }, ⟨hop, ?_, ?_, ?_, ?_, ?_⟩, houtcome, rfl, rfl,
    Operator.take_one_of_parents hparent, rfl⟩
  · exact (debugChecks_stepBy hs _).trans hc.debugChecks
  · rw [hb.records_stepBy hs]
    exact hc.destination
  · rw [hb.records_stepBy hs]
    exact hc.source
  · have hafter := hb.content?_destination hs
    rwa [hsame, hinto.1, hinto.2] at hafter
  · exact (hb.content?_of_ne hs (hasHandle_of_name hc.source) (hsame ▸ hne)).trans hc.found.record

/-- A refresh that passes leaves the same store whether or not the record was refreshed before. -/
theorem Resolves.store_again (hb : s.Resolves first into other b)
    (hc : s.Resolves second into source c) (hs : s.Sound digest) (hne : c.source ≠ c.destination)
    (hok : c.outcome = .ok ()) :
    ((s.stepBy digest (.copyInto first into other)).2.stepBy digest
      (.copyInto second into source)).2.store =
        (s.stepBy digest (.copyInto second into source)).2.store := by
  obtain ⟨later, hlater, houtcome, hdestination, hslots, hparent, hrecord⟩ := hb.again hc hs hne
  have hwritten : later.slots = c.slots := by
    rw [Copy.slots_of_ok (houtcome.trans hok), Copy.slots_of_ok hok, hslots, hparent, hrecord]
  have hlive := hlater.live_slots (hs.stepBy _)
  have hsame : b.destination = c.destination :=
    Option.some.inj (hb.destination.symm.trans hc.destination)
  rw [hwritten] at hlive
  rw [hlater.stepBy (hs.stepBy _), hc.stepBy hs, hwritten, hdestination]
  rw [hb.stepBy hs, hsame] at hlive ⊢
  exact hs.balanced.putSlots_putSlots (hasHandle_of_name hc.destination) (hb.live_slots hs) hlive

theorem Resolves.answer_again (hb : s.Resolves first into other b)
    (hc : s.Resolves second into source c) (hs : s.Sound digest)
    (hne : c.source ≠ c.destination) :
    ((s.stepBy digest (.copyInto first into other)).2.stepBy digest
      (.copyInto second into source)).1 = (s.stepBy digest (.copyInto second into source)).1 := by
  obtain ⟨later, hlater, houtcome, hdestination, -⟩ := hb.again hc hs hne
  have hstore := hb.store_again hc hs hne
  rw [hlater.stepBy (hs.stepBy _), hc.stepBy hs] at hstore ⊢
  simp only [Copy.answer, houtcome, hdestination] at hstore ⊢
  cases hok : c.outcome with
  | error e => rfl
  | ok done => simp only [hstore hok]

/-- A second refresh from the same source writes nothing new, unless it passes and the first one did
not. -/
theorem Resolves.store_twice (hb : s.Resolves first into other b)
    (hc : s.Resolves second into source c) (hs : s.Sound digest) (hne : c.source ≠ c.destination)
    (hsame : b.source = c.source) (hok : c.outcome = .ok () → b.outcome = .ok ()) :
    ((s.stepBy digest (.copyInto first into other)).2.stepBy digest
      (.copyInto second into source)).2.store =
        (s.stepBy digest (.copyInto first into other)).2.store := by
  obtain ⟨later, hlater, houtcome, -, hslots, -, hrecord⟩ := hb.again hc hs hne
  have hsource : b.record = c.record := by
    have hcontent := hb.found.record
    rw [hsame, hc.found.record] at hcontent
    exact congrArg Prod.fst (Option.some.inj hcontent.symm)
  have hkept : later.slots = later.into.slots := by
    cases hpassed : later.outcome with
    | error e => exact Copy.slots_of_error hpassed
    | ok done =>
      have hdrop : b.slots.drop 1 = c.record.slots.drop 1 := by
        rw [Copy.slots_of_ok (hok (houtcome.symm.trans hpassed)), hsource,
          Operator.drop_refreshed (hs.slots_pos hb.found.into)]
      rw [Copy.slots_of_ok hpassed, hslots, hrecord, ← hdrop, List.take_append_drop]
  rw [hlater.stepBy (hs.stepBy _), hkept]
  exact (hs.stepBy _).balanced.putSlots_self hlater.found.into

/-- While neither record is written and both are free, the refresh in the other direction finds what
the first one has left. -/
theorem Resolves.exists_reverse (hc : s.Resolves second into source c) (hs : s.Sound digest)
    (hne : c.source ≠ c.destination) {calls : List Call}
    (hdestination : Along digest (fun u call => u.written? call ≠ some c.destination)
      (s.stepBy digest (.copyInto second into source)).2 calls)
    (hsource : Along digest (fun u call => u.written? call ≠ some c.source)
      (s.stepBy digest (.copyInto second into source)).2 calls)
    (hkept : ∀ call ∈ calls, call.recordName? ≠ some into ∧ call.recordName? ≠ some source ∧
      call.operatorName? ≠ some second) {x y : Record} {u : Session}
    (hu : u = (s.stepBy digest (.copyInto second into source)).2.runBy digest calls)
    (hx : u.store.content? c.destination = some (x, .free))
    (hy : u.store.content? c.source = some (y, .free)) :
    ∃ op, op.UsedFrom c.operator ∧ u.Resolves second source into (c.reverse op) := by
  subst hu
  have ht := hs.stepBy (.copyInto second into source)
  have hlt {name : String} {q : RecordId} (hq : s.records.get? name = some q) :
      q.number < (s.stepBy digest (.copyInto second into source)).2.store.records.next := by
    rw [← hc.records_stepBy hs] at hq
    exact ht.lt_next (hasHandle_of_name hq)
  obtain ⟨before, hbefore⟩ := unwritten_runBy ht (hlt hc.destination) hdestination hx
  rw [hc.content?_destination hs] at hbefore
  cases hbefore
  obtain ⟨before, hbefore⟩ := unwritten_runBy ht (hlt hc.source) hsource hy
  rw [hc.content?_of_ne hs (hasHandle_of_name hc.source) hne, hc.found.record] at hbefore
  cases hbefore
  have hoperators : ∀ call ∈ Call.copyInto second into source :: calls,
      call.operatorName? ≠ some second := by
    intro call hm
    rcases List.mem_cons.mp hm with rfl | hm
    · exact nofun
    · exact (hkept call hm).2.2
  obtain ⟨op, hop, huse⟩ := operator_runBy hs hoperators hc.operator
  refine ⟨op, huse, hop, ?_, ?_, ?_, hy, hx⟩
  · rw [debugChecks_runBy ht calls, debugChecks_stepBy hs]
    exact hc.debugChecks
  · rw [get?_records_runBy ht fun call hm => (hkept call hm).2.1, hc.records_stepBy hs]
    exact hc.source
  · rw [get?_records_runBy ht fun call hm => (hkept call hm).1, hc.records_stepBy hs]
    exact hc.destination

/-- Going back passes, and writes nothing new. -/
theorem Resolves.stepBy_reverse (hc : s.Resolves second into source c) (hs : s.Sound digest)
    (hne : c.source ≠ c.destination) (hok : c.outcome = .ok ()) (hop : op.UsedFrom c.operator)
    {u : Session} (hu : u.Sound digest) (hback : u.Resolves second source into (c.reverse op)) :
    (∃ snapshot, (u.stepBy digest (.copyInto second source into)).1 = .snapshot snapshot) ∧
      (u.stepBy digest (.copyInto second source into)).2.store = u.store := by
  obtain ⟨houtcome, hslots⟩ := hc.found.reverse_passes (hs.slots_pos hc.found.into) hne hok hop
  have hwritten := hu.balanced.putSlots_self hback.found.into
  have hread := Store.toRead_of_content? hback.found.into
  rw [if_neg Guard.noConfusion] at hread
  rw [hback.stepBy hu, hslots, hwritten]
  refine ⟨?_, rfl⟩
  simp only [Copy.answer, houtcome, Store.snapshot, hread, answerOr]
  exact ⟨_, rfl⟩

/-- A refresh of a record does away with all that earlier refreshes of it have done or tried: it is
answered as if it were the first, and if it passes it leaves the same store. So refreshing a record
once more from the same source changes nothing. As long as neither record is written, the source of
a refresh that has passed can be refreshed from the destination, unless one of them is borrowed, and
that changes no record. -/
theorem last_refresh_wins {op₁ op₂ : Operator} {a : RecordId} (hs : s.Reachable digest)
    (hfirst : s.operators.get? first = some op₁) (hsecond : s.operators.get? second = some op₂)
    (hinto : s.records.get? into = some d) (hother : s.records.get? other = some a)
    (hsource : s.records.get? source = some r) (hne : r ≠ d) :
    let before := s.stepBy digest (.copyInto first into other)
    let alone := s.stepBy digest (.copyInto second into source)
    let later := before.2.stepBy digest (.copyInto second into source)
    later.1 = alone.1 ∧
      (∀ snapshot, alone.1 = .snapshot snapshot → later.2.store = alone.2.store) ∧
      (a = r → ∀ snapshot, before.1 = .snapshot snapshot → later.2.store = before.2.store) ∧
      (a = r → first = second → later.1 = before.1 ∧ later.2.store = before.2.store) ∧
      ∀ snapshot calls x y, alone.1 = .snapshot snapshot →
        Along digest (fun u call => u.written? call ≠ some d) alone.2 calls →
        Along digest (fun u call => u.written? call ≠ some r) alone.2 calls →
        (∀ call ∈ calls, call.recordName? ≠ some into ∧ call.recordName? ≠ some source ∧
          call.operatorName? ≠ some second) →
        (alone.2.runBy digest calls).store.content? d = some (x, .free) →
        (alone.2.runBy digest calls).store.content? r = some (y, .free) →
        let back := (alone.2.runBy digest calls).stepBy digest (.copyInto second source into)
        (∃ snapshot, back.1 = .snapshot snapshot) ∧
          back.2.store = (alone.2.runBy digest calls).store := by
  intro before alone later
  have hsound := sound_of_reachable hs
  obtain ⟨b, hb, hbd, rfl⟩ := hsound.exists_resolves hfirst hinto hother
  obtain ⟨c, hc, rfl, rfl⟩ := hsound.exists_resolves hsecond hinto hsource
  have hanswer : later.1 = alone.1 := hb.answer_again hc hsound hne
  refine ⟨hanswer, ?alone, ?same, ?twice, ?back⟩
  case alone =>
    intro snapshot h
    exact hb.store_again hc hsound hne (hc.ok_of_answer hsound h)
  case same =>
    intro hsame snapshot h
    exact hb.store_twice hc hsound hne hsame fun _ => hb.ok_of_answer hsound h
  case twice =>
    intro hsame hnames
    subst hnames
    have hcopy : b = c := hb.unique hc hbd hsame
    subst hcopy
    have hbefore : before = alone := (hb.stepBy hsound).trans (hc.stepBy hsound).symm
    exact ⟨hanswer.trans (congrArg Prod.fst hbefore.symm),
      hb.store_twice hc hsound hne rfl id⟩
  case back =>
    intro snapshot calls x y h hdestination hsource' hkept hx hy
    obtain ⟨op, huse, hback⟩ := hc.exists_reverse hsound hne hdestination hsource' hkept rfl hx hy
    exact hc.stepBy_reverse hsound hne (hc.ok_of_answer hsound h) huse
      ((hsound.stepBy _).runBy calls) hback

/-- The second record is refreshed from the first. -/
def refreshCall : Call := .copyInto "next" "second" "first"

/-- The session after that. -/
def refreshedSample : Session := (sample.stepBy (fun _ => []) refreshCall).2

theorem last_refresh_wins_sample :
    (refreshedSample.stepBy (fun _ => []) refreshCall).1 =
        (sample.stepBy (fun _ => []) refreshCall).1 ∧
      (refreshedSample.stepBy (fun _ => []) refreshCall).2.store = refreshedSample.store ∧
      (refreshedSample.stepBy (fun _ => []) (.copyInto "next" "first" "second")).2.store =
        refreshedSample.store := by
  obtain ⟨-, -, -, htwice, hback⟩ :=
    last_refresh_wins reachable_sample operator_sample operator_sample name_sample_second
      name_sample_first name_sample_first (by decide)
  have hpassed : (sample.stepBy (fun _ => []) refreshCall).1 = .snapshot
      ⟨"sha256:", 0, [⟨"<parent>", .parentLink, "null"⟩, ⟨"i", .letBinding, "true"⟩]⟩ := by cbv
  have hsecond : refreshedSample.store.content? ⟨1⟩ =
      some (⟨sampleSchema, [.null, .bool true], ⟨0⟩⟩, .free) := by cbv
  have hfirst : refreshedSample.store.content? ⟨0⟩ =
      some (⟨sampleSchema, [.null, .bool true], ⟨0⟩⟩, .free) := by cbv
  obtain ⟨hanswer, hstore⟩ := htwice rfl rfl
  obtain ⟨-, hunchanged⟩ := hback _ [] _ _ hpassed trivial trivial
    (List.forall_mem_nil _) hsecond hfirst
  exact ⟨hanswer, hstore, hunchanged⟩

end Session

end LoopScope
