import LoopScope.Proofs.Profile
import LoopScope.Proofs.Session.Refreshes
/-!
# Refreshes that do not meet

Two refreshes of different records, neither of them the source of the other, can be made in either
order. Each is answered the same, and all records come out the same. An operator that makes both has
seen the same kinds of values, since a profile does not depend on the order of what it observes, but
it has logged them in the order in which they were made.
-/
namespace LoopScope

/-! ## The order of observations -/

theorem observeEach_comm (accessors : List Accessor) (slots others : List Value) :
    observeEach (observeEach accessors slots) others =
      observeEach (observeEach accessors others) slots := by
  induction accessors generalizing slots others with
  | nil => rfl
  | cons a accessors ih =>
    cases slots with
    | nil => cases others <;> rfl
    | cons value slots =>
      cases others with
      | nil => rfl
      | cons other others =>
        have hfirst : (a.observe value).observe other = (a.observe other).observe value :=
          congrArg (Accessor.mk a.index) (Profile.observe_comm _ _ _)
        exact congrArg₂ List.cons hfirst (ih slots others)

namespace Operator

variable {a b op : Operator}

theorem observing_comm (op : Operator) (slots others : List Value) :
    (op.observing 1 slots).observing 1 others = (op.observing 1 others).observing 1 slots := by
  have hbindings (accessors : List Accessor) (slots others : List Value) :
      (accessors.take 1 ++ observeEach (accessors.drop 1) slots).take 1 ++
          observeEach ((accessors.take 1 ++ observeEach (accessors.drop 1) slots).drop 1) others =
        (accessors.take 1 ++ observeEach (accessors.drop 1) others).take 1 ++
          observeEach ((accessors.take 1 ++ observeEach (accessors.drop 1) others).drop 1)
            slots := by
    cases accessors with
    | nil => rfl
    | cons first accessors => exact congrArg (first :: ·) (observeEach_comm accessors slots others)
  simp only [observing, hbindings op.reads, hbindings op.writes]

theorem observing_logOutcome (op : Operator) (event : String) (outcome : Except ScopeError Unit)
    (slots : List Value) :
    (op.logOutcome event outcome).observing 1 slots =
      (op.observing 1 slots).logOutcome event outcome := by
  cases outcome with
  | ok done =>
    by_cases htraced : op.config.traceCopies
    · simp only [logOutcome, observing, htraced, if_true]
      rfl
    · simp only [logOutcome, observing, htraced]
      rfl
  | error e => rfl

/-! ## The order of entries -/

/-- What is logged of how a copy went. -/
def outcomeEntries (op : Operator) (event : String) : Except ScopeError Unit → List Event
  | .ok () => op.passEntries event
  | .error e => [op.entry event (some e.code)]

theorem log_logOutcome (op : Operator) (event : String) (outcome : Except ScopeError Unit) :
    (op.logOutcome event outcome).log = op.log ++ op.outcomeEntries event outcome := by
  cases outcome with
  | ok done => exact op.log_passed event
  | error e => exact op.log_refused event e

theorem SameSetup.outcomeEntries_eq (h : a.SameSetup b) : a.outcomeEntries = b.outcomeEntries := by
  funext event outcome
  cases outcome with
  | ok done =>
    simp only [outcomeEntries, passEntries, entry, slotCount, h.schema, h.config, h.context]
  | error e => simp only [outcomeEntries, entry, slotCount, h.schema, h.context]

/-- Two operators that differ at most in the order of what they have logged. -/
structure SameButOrder (a b : Operator) : Prop where
  same : a.unlogged = b.unlogged
  log : a.log.Perm b.log

theorem SameButOrder.refl (op : Operator) : op.SameButOrder op := ⟨rfl, .refl _⟩

theorem SameButOrder.rel_refl (found : Option Operator) : Option.Rel SameButOrder found found := by
  cases found with
  | none => exact .none
  | some op => exact .some (.refl op)

theorem logOutcome_comm (op : Operator) (event : String) (first second : Except ScopeError Unit) :
    ((op.logOutcome event first).logOutcome event second).SameButOrder
      ((op.logOutcome event second).logOutcome event first) where
  same := by simp only [unlogged_logOutcome]
  log := by
    simp only [log_logOutcome, (sameSetup_logOutcome op event _).outcomeEntries_eq,
      List.append_assoc]
    exact List.Perm.append_left _ List.perm_append_comm

end Operator

namespace Copy

variable {b c : Copy} {op : Operator}

/-- A refresh lets the accessors see either nothing or the bindings of the source. -/
theorem observed_cases (c : Copy) :
    (∀ op, c.observed op = op) ∨ ∀ op, c.observed op = op.observing 1 c.record.slots := by
  unfold observed
  split
  · by_cases hself : c.destination = c.source
    · exact .inl fun op => if_pos hself
    · exact .inr fun op => if_neg hself
  · exact .inl fun op => rfl

theorem observed_comm (b c : Copy) (op : Operator) :
    b.observed (c.observed op) = c.observed (b.observed op) := by
  rcases b.observed_cases with hb | hb
  · rw [hb, hb]
  · rcases c.observed_cases with hc | hc
    · rw [hc, hc]
    · rw [hb, hc, hb, hc, Operator.observing_comm]

theorem observed_logOutcome (c : Copy) (op : Operator) (event : String)
    (outcome : Except ScopeError Unit) :
    c.observed (op.logOutcome event outcome) = (c.observed op).logOutcome event outcome := by
  rcases c.observed_cases with hc | hc
  · rw [hc, hc]
  · rw [hc, hc, Operator.observing_logOutcome]

theorem leaves_comm (b c : Copy) (op : Operator) :
    (c.leaves (b.leaves op)).SameButOrder (b.leaves (c.leaves op)) := by
  simp only [leaves, observed_logOutcome]
  rw [observed_comm c b]
  exact Operator.logOutcome_comm _ _ _ _

theorem usedFrom_leaves (c : Copy) (op : Operator) : (c.leaves op).UsedFrom op := by
  refine (Operator.usedFrom_logOutcome _ _ _).trans ?_
  rcases c.observed_cases with hc | hc
  · rw [hc]
    exact .refl op
  · rw [hc]
    exact op.usedFrom_observing _ _

/-- A refresh by an operator that has been used before ends as it would have, and writes the
same. -/
theorem slots_of_usedFrom (h : op.UsedFrom c.operator) :
    { c with operator := op }.slots = c.slots := by
  rw [slots, outcome_of_usedFrom h, slots]

theorem leaves_of_usedFrom (h : op.UsedFrom c.operator) :
    { c with operator := op }.leaves = c.leaves := by
  funext before
  simp only [leaves, observed, outcome_of_usedFrom h]

/-- The operator that the refresh `c` finds after the refresh `b`, which may have used it. -/
def operatorAfter (c b : Copy) (same : Prop) [Decidable same] : Operator :=
  if same then b.leaves c.operator else c.operator

theorem usedFrom_operatorAfter (c b : Copy) (same : Prop) [Decidable same] :
    (c.operatorAfter b same).UsedFrom c.operator := by
  unfold operatorAfter
  split
  · exact b.usedFrom_leaves c.operator
  · exact .refl c.operator

end Copy

namespace Session

variable {digest : Layout.DigestFunction} {s : Session}
  {first second into₁ into₂ source₁ source₂ : String} {b c : Copy}

/-- A refresh whose records another one does not write finds them as they were. -/
theorem Resolves.elsewhere (hb : s.Resolves first into₁ source₁ b)
    (hc : s.Resolves second into₂ source₂ c) (hs : s.Sound digest)
    (hd : c.destination ≠ b.destination) (hr : c.source ≠ b.destination) :
    (s.stepBy digest (.copyInto first into₁ source₁)).2.Resolves second into₂ source₂
      { c with operator := c.operatorAfter b (second = first) } := by
  refine ⟨?_, ?_, ?_, ?_, ?_, ?_⟩
  · rw [hb.stepBy hs]
    by_cases hname : second = first
    · subst hname
      have hsame : b.operator = c.operator := Option.some.inj (hb.operator.symm.trans hc.operator)
      rw [Copy.operatorAfter, if_pos rfl, ← hsame]
      exact Table.get?_insert_self _ _ _
    · rw [Copy.operatorAfter, if_neg hname, ← hc.operator]
      exact Table.get?_insert_of_ne _ _ hname
  · exact (debugChecks_stepBy hs _).trans hc.debugChecks
  · rw [hb.records_stepBy hs]
    exact hc.destination
  · rw [hb.records_stepBy hs]
    exact hc.source
  · exact (hb.content?_of_ne hs (hasHandle_of_name hc.destination) hd).trans hc.found.into
  · exact (hb.content?_of_ne hs (hasHandle_of_name hc.source) hr).trans hc.found.record

/-- The session after both of them. -/
theorem Resolves.runBy_elsewhere (hb : s.Resolves first into₁ source₁ b)
    (hc : s.Resolves second into₂ source₂ c) (hs : s.Sound digest)
    (hd : c.destination ≠ b.destination) (hr : c.source ≠ b.destination) :
    s.runBy digest [.copyInto first into₁ source₁, .copyInto second into₂ source₂] =
      { s with
        store := (s.store.putSlots b.destination b.slots).putSlots c.destination c.slots
        operators := (s.operators.insert first (b.leaves b.operator)).insert second
          (c.leaves (c.operatorAfter b (second = first))) } := by
  have hused := c.usedFrom_operatorAfter b (second = first)
  rw [runBy_cons, runBy_cons, runBy_nil, (hb.elsewhere hc hs hd hr).stepBy (hs.stepBy _),
    Copy.slots_of_usedFrom hused, Copy.leaves_of_usedFrom hused, hb.stepBy hs]

theorem Resolves.live_elsewhere (hb : s.Resolves first into₁ source₁ b)
    (hc : s.Resolves second into₂ source₂ c) (hs : s.Sound digest)
    (hd : c.destination ≠ b.destination) (hr : c.source ≠ b.destination) :
    ∀ ref ∈ valueRefs c.slots, (s.store.putSlots b.destination b.slots).Live ref := by
  have hlive := (hb.elsewhere hc hs hd hr).live_slots (hs.stepBy _)
  rwa [Copy.slots_of_usedFrom (c.usedFrom_operatorAfter b _), hb.stepBy hs] at hlive

/-- Argument lists that are left after a refresh are as they were. -/
theorem Resolves.values?_stepBy (h : s.Resolves first into₁ source₁ b) (hs : s.Sound digest)
    {a : ArgumentsId}
    (hl : (s.stepBy digest (.copyInto first into₁ source₁)).2.store.Live (.arguments a)) :
    s.store.Live (.arguments a) ∧
      (s.stepBy digest (.copyInto first into₁ source₁)).2.store.values? a = s.store.values? a := by
  rw [h.stepBy hs] at hl ⊢
  refine ⟨Store.live_of_putSlots hl, ?_⟩
  rw [(Store.within_putSlots _ _ _).values?_of_live hl, Store.values?_overwrite]

theorem Resolves.answer_elsewhere (hb : s.Resolves first into₁ source₁ b)
    (hc : s.Resolves second into₂ source₂ c) (hs : s.Sound digest)
    (hd : c.destination ≠ b.destination) (hr : c.source ≠ b.destination) :
    ((s.stepBy digest (.copyInto first into₁ source₁)).2.stepBy digest
      (.copyInto second into₂ source₂)).1 =
        (s.stepBy digest (.copyInto second into₂ source₂)).1 := by
  have ht := hs.stepBy (.copyInto first into₁ source₁)
  have hlater := hb.elsewhere hc hs hd hr
  have hused := c.usedFrom_operatorAfter b (second = first)
  have hafter := hlater.content?_destination ht
  have halone := hc.content?_destination hs
  rw [Copy.slots_of_usedFrom hused] at hafter
  have hsnapshot := Store.snapshot_congr hafter halone ?values
  case values =>
    have hlive {t : Session} (ht : t.Sound digest)
        (h : t.store.content? c.destination =
          some ({ c.into with slots := c.slots }, c.intoGuard)) :
        t.store.Live (.arguments c.into.arguments) :=
      ht.balanced.live_of_content? h (List.mem_append_right _ (List.mem_singleton_self _))
    obtain ⟨hbefore, hvalues⟩ := hlater.values?_stepBy ht (hlive (ht.stepBy _) hafter)
    obtain ⟨-, hvalues'⟩ := hc.values?_stepBy hs (hlive (hs.stepBy _) halone)
    exact hvalues.trans ((hb.values?_stepBy hs hbefore).2.trans hvalues'.symm)
  rw [hlater.stepBy ht, hc.stepBy hs] at hsnapshot ⊢
  simp only [Copy.answer, Copy.outcome_of_usedFrom hused] at hsnapshot ⊢
  rw [hsnapshot]

/-- Refreshes of two records commute, if neither record is the source of the other refresh. -/
theorem refreshes_commute {op₁ op₂ : Operator} {d₁ d₂ r₁ r₂ : RecordId} (hs : s.Reachable digest)
    (hfirst : s.operators.get? first = some op₁) (hsecond : s.operators.get? second = some op₂)
    (hinto₁ : s.records.get? into₁ = some d₁) (hsource₁ : s.records.get? source₁ = some r₁)
    (hinto₂ : s.records.get? into₂ = some d₂) (hsource₂ : s.records.get? source₂ = some r₂)
    (hne : d₁ ≠ d₂) (h₁₂ : d₁ ≠ r₂) (h₂₁ : d₂ ≠ r₁) :
    let one := Call.copyInto first into₁ source₁
    let two := Call.copyInto second into₂ source₂
    let t := s.runBy digest [one, two]
    let u := s.runBy digest [two, one]
    ((s.stepBy digest one).2.stepBy digest two).1 = (s.stepBy digest two).1 ∧
      ((s.stepBy digest two).2.stepBy digest one).1 = (s.stepBy digest one).1 ∧
      t = { u with operators := t.operators } ∧
      (∀ name, Option.Rel Operator.SameButOrder (t.operators.get? name) (u.operators.get? name)) ∧
      (first ≠ second → ∀ name, t.operators.get? name = u.operators.get? name) := by
  intro one two t u
  have hsound := sound_of_reachable hs
  obtain ⟨b, hb, rfl, rfl⟩ := hsound.exists_resolves hfirst hinto₁ hsource₁
  obtain ⟨c, hc, rfl, rfl⟩ := hsound.exists_resolves hsecond hinto₂ hsource₂
  have ht : t = _ := hb.runBy_elsewhere hc hsound hne.symm h₁₂.symm
  have hu : u = _ := hc.runBy_elsewhere hb hsound hne h₂₁.symm
  have hdistinct (hnames : first ≠ second) (name : String) :
      t.operators.get? name = u.operators.get? name := by
    rw [ht, hu, Copy.operatorAfter, Copy.operatorAfter, if_neg hnames, if_neg hnames.symm]
    exact Table.get?_insert_comm _ hnames _ _ name
  refine ⟨hb.answer_elsewhere hc hsound hne.symm h₁₂.symm,
    hc.answer_elsewhere hb hsound hne h₂₁.symm, ?store, ?operators, hdistinct⟩
  case store =>
    have hcomm := hsound.balanced.putSlots_comm hne (hasHandle_of_name hinto₁)
      (hasHandle_of_name hinto₂) (hc.live_elsewhere hb hsound hne h₂₁.symm)
      (hb.live_elsewhere hc hsound hne.symm h₁₂.symm)
    rw [ht, hu, hcomm]
  case operators =>
    intro name
    by_cases hnames : first = second
    · subst hnames
      have hop : b.operator = c.operator := Option.some.inj (hb.operator.symm.trans hc.operator)
      rw [ht, hu, Copy.operatorAfter, Copy.operatorAfter, if_pos rfl, if_pos rfl, hop]
      by_cases hname : name = first
      · subst hname
        rw [Table.get?_insert_self, Table.get?_insert_self]
        exact .some (b.leaves_comm c c.operator)
      · simp only [Table.get?_insert_of_ne _ _ hname]
        exact Operator.SameButOrder.rel_refl _
    · rw [hdistinct hnames name]
      exact Operator.SameButOrder.rel_refl _

/-- The sample session with a third record. -/
def threeRecords : Session :=
  runBy (fun _ => []) (empty true)
    (sampleCalls ++ [.record "third" "loop" (.value .null) (some "args")])

theorem reachable_threeRecords : threeRecords.Reachable fun _ => [] := ⟨_, _, rfl⟩

/-- One operator refreshes the second record and the third one from the first. -/
theorem refreshes_commute_sample :
    let one := Call.copyInto "next" "second" "first"
    let two := Call.copyInto "next" "third" "first"
    let t := threeRecords.runBy (fun _ => []) [one, two]
    let u := threeRecords.runBy (fun _ => []) [two, one]
    t.store = u.store ∧
      Option.Rel Operator.SameButOrder (t.operators.get? "next") (u.operators.get? "next") := by
  have hoperator : threeRecords.operators.get? "next" = some sampleOperator := by cbv
  have hfirst : threeRecords.records.get? "first" = some ⟨0⟩ := by cbv
  have hsecond : threeRecords.records.get? "second" = some ⟨1⟩ := by cbv
  have hthird : threeRecords.records.get? "third" = some ⟨2⟩ := by cbv
  obtain ⟨-, -, hsessions, hoperators, -⟩ :=
    refreshes_commute reachable_threeRecords hoperator hoperator hsecond hfirst hthird hfirst
      (by decide) (by decide) (by decide)
  have hstores := congrArg Session.store hsessions
  exact ⟨hstores, hoperators "next"⟩

end Session

end LoopScope
