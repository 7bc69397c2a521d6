import LoopScope.Proofs.Session.Failures
import LoopScope.Proofs.Values
/-!
# What texts tell in a session

In every reachable session the texts of two values are the same just if the values are equal, as
long as the records that are there have addresses of their own. So snapshots tell states apart, and
a report on two parent links never prints the same text twice.
-/
namespace LoopScope

namespace Store

/-- Distinct records that are in the store have distinct addresses. -/
def Distinguishes (s : Store) (address : RecordId → String) : Prop :=
  ∀ r q, s.Live (.record r) → s.Live (.record q) → address r = address q → r = q

theorem Distinguishes.of_injective {address : RecordId → String}
    (h : Function.Injective address) (s : Store) : s.Distinguishes address :=
  fun _ _ _ _ he => h he

/-- The snapshot of a record of the store. -/
def snapshotAt (s : Store) (address : RecordId → String) (record : Record) : RecordSnapshot :=
  record.snapshotAt address (s.argumentValues record.arguments).length

theorem snapshot_eq {s : Store} {r : RecordId} {record : Record} {guard : Guard}
    (hc : s.content? r = some (record, guard)) (hguard : guard ≠ .exclusive) :
    s.snapshot r = .ok (s.snapshotAt RecordId.address record) := by
  rw [snapshot, toRead_of_content? hc, if_neg hguard, snapshotAt, Record.snapshotAt_address]

end Store

namespace Session

variable {digest : Layout.DigestFunction} {s : Session} {v w : Value}
  {address : RecordId → String}

/-- The values of a session: what a slot or an argument list holds, and what the client can hand
over. -/
inductive Has (s : Session) : Value → Prop
  | slot {v : Value} {r : RecordId} {record : Record} {guard : Guard}
      (content : s.store.content? r = some (record, guard)) (mem : v ∈ record.slots) : Has s v
  | argument {v : Value} {a : ArgumentsId} {values : List Value}
      (list : s.store.values? a = some values) (mem : v ∈ values) : Has s v
  | operand {v : Value} {operand : Operand} (given : s.operand? operand = some v) : Has s v

/-- The records that values refer to are there. -/
theorem Sound.live_of_has (h : s.Sound digest) (hv : s.Has v) :
    ∀ ref ∈ v.refs, s.store.Live ref := by
  cases hv with
  | slot content mem => exact h.live_of_slots content mem
  | argument list mem =>
    intro ref href
    apply h.balanced.live_of_mem_refs
    exact Store.mem_refs_of_values? list (List.mem_flatMap.mpr ⟨v, mem, href⟩)
  | operand given => exact h.live_of_operand given

theorem Sound.renderAt_eq_iff (h : s.Sound digest) (haddress : s.store.Distinguishes address)
    (hv : s.Has v) (hw : s.Has w) : v.renderAt address = w.renderAt address ↔ v == w := by
  refine Value.renderAt_eq_iff ?_
  rintro r q rfl rfl he
  have hr := h.live_of_has hv (.record r) List.mem_cons_self
  have hq := h.live_of_has hw (.record q) List.mem_cons_self
  exact haddress r q hr hq he

theorem Sound.snapshotAt_eq_iff (h : s.Sound digest) (haddress : s.store.Distinguishes address)
    {r q : RecordId} {record other : Record} {guard otherGuard : Guard}
    (hc : s.store.content? r = some (record, guard))
    (hother : s.store.content? q = some (other, otherGuard))
    (hslots : record.schema.schema.slots = other.schema.schema.slots) :
    s.store.snapshotAt address record = s.store.snapshotAt address other ↔
      (s.store.argumentValues record.arguments).length =
          (s.store.argumentValues other.arguments).length ∧
        List.Forall₂ (fun v w => v == w) record.slots other.slots := by
  refine Record.snapshotAt_eq_iff (h.records hc) (h.records hother) hslots ?_
  intro p p' hp hp' he
  have hlive := h.live_of_slots hc hp (.record p) List.mem_cons_self
  have hlive' := h.live_of_slots hother hp' (.record p') List.mem_cons_self
  exact haddress p p' hlive hlive' he

/-- A report on parent links prints the two that differ. -/
theorem Sound.parents_of_diverged (h : s.Sound digest) {call : Call} {a b : String}
    (hf : (s.stepBy digest call).1 = .failed (.parentLinkDiverged a b)) :
    ∃ p q, s.Has p ∧ s.Has q ∧ p ≠ q ∧ a = p.render ∧ b = q.render := by
  have hcan := canFail_of_stepBy h call hf
  cases call with
  | copyInto operator destination source =>
    obtain ⟨op, into, r, hop, hinto, hr, hrefused⟩ := exists_of_copyIntoCall_failed h hf
    obtain ⟨old, oldGuard, hold⟩ := h.exists_content (hasHandle_of_name hinto)
    obtain ⟨record, guard, hc⟩ := h.exists_content (hasHandle_of_name hr)
    obtain ⟨p, hp⟩ := (h.records hold).exists_parent
    obtain ⟨q, hq⟩ := (h.records hc).exists_parent
    rcases (h.operators hop).copyInto_eq_error hold hc hp hq hrefused with
      he | ⟨role, hash, slots, he⟩ | ⟨hne, he⟩
    · cases he
    · cases he
    · cases he
      exact ⟨p, q, .slot hold (List.mem_of_getElem? hp), .slot hc (List.mem_of_getElem? hq), hne,
        rfl, rfl⟩
  | _ => simp [Call.CanFail, ScopeError.isConstructionFailure] at hcan

/-- Values are equal just if their texts are the same, whatever a string looks like; equality is an
equivalence, and equal values are of one kind. In a session this needs only that the records that
are there have distinct addresses, as their numbers are. Then records of one layout have one
snapshot just if they have as many arguments and equal slots, and a refresh that is refused for its
parent links prints two that are different texts. -/
theorem texts_tell_values_apart (hs : s.Reachable digest) :
    (∀ v w : Value, v.render = w.render ↔ v == w) ∧
    Equivalence (fun v w : Value => (v == w) = true) ∧
    (∀ v w : Value, v == w → v.kind = w.kind) ∧
    s.store.Distinguishes RecordId.address ∧
    (∀ v : Value, v.renderAt RecordId.address = v.render) ∧
    (∀ r record guard, s.store.content? r = some (record, guard) → guard ≠ .exclusive →
      s.store.snapshot r = .ok (s.store.snapshotAt RecordId.address record)) ∧
    (∀ address, s.store.Distinguishes address →
      (∀ v w, s.Has v → s.Has w → (v.renderAt address = w.renderAt address ↔ v == w)) ∧
      ∀ r q record other guard otherGuard, s.store.content? r = some (record, guard) →
        s.store.content? q = some (other, otherGuard) →
        record.schema.schema.slots = other.schema.schema.slots →
        (s.store.snapshotAt address record = s.store.snapshotAt address other ↔
          (s.store.argumentValues record.arguments).length =
              (s.store.argumentValues other.arguments).length ∧
            List.Forall₂ (fun v w => v == w) record.slots other.slots)) ∧
    ∀ call a b, (s.stepBy digest call).1 = .failed (.parentLinkDiverged a b) →
      a ≠ b ∧ ∃ p q, s.Has p ∧ s.Has q ∧ a = p.render ∧ b = q.render ∧
        ∀ address, s.store.Distinguishes address → p.renderAt address ≠ q.renderAt address := by
  have hsound := sound_of_reachable hs
  refine ⟨Value.render_eq_iff, ?equivalence, ?kinds, .of_injective RecordId.address_injective _,
    Value.renderAt_address, fun _ _ _ => Store.snapshot_eq, ?addresses, ?diverged⟩
  case equivalence =>
    simp only [beq_iff_eq]
    exact eq_equivalence
  case kinds =>
    intro v w h
    rw [beq_iff_eq.mp h]
  case addresses =>
    intro address haddress
    refine ⟨fun v w => hsound.renderAt_eq_iff haddress, ?_⟩
    intro r q record other guard otherGuard hc hother hslots
    exact hsound.snapshotAt_eq_iff haddress hc hother hslots
  case diverged =>
    intro call a b hf
    obtain ⟨p, q, hp, hq, hne, rfl, rfl⟩ := hsound.parents_of_diverged hf
    have hnot : ¬ p == q := fun he => hne (beq_iff_eq.mp he)
    refine ⟨fun he => hnot ((Value.render_eq_iff p q).mp he), p, q, hp, hq, rfl, rfl, ?_⟩
    intro address haddress he
    exact hnot ((hsound.renderAt_eq_iff haddress hp hq).mp he)

/-- Two records, one with a scope reference for its parent and one with a string that looks like it,
and an operator that always compares parents. -/
def lookAlikesCalls : List Call :=
  [.schema "loop" sampleSchema.schema.slots, .root "outer" "loop",
    .record "first" "loop" (.value (.string "Scope(#0)")) none,
    .record "second" "loop" (.scope "outer") none,
    .operator "next" (.given .strict) .blank (.schema "loop")]

/-- The session after these calls, without debug checks and with empty digests. -/
def lookAlikesSession : Session := runBy (fun _ => []) (empty false) lookAlikesCalls

theorem texts_tell_values_apart_sample :
    (lookAlikesSession.stepBy (fun _ => []) (.copyInto "next" "first" "second")).1 =
      .failed (.parentLinkDiverged "\"Scope(#0)\"" "Scope(#0)") ∧
    "\"Scope(#0)\"" ≠ "Scope(#0)" ∧
    ∃ first second, lookAlikesSession.store.content? ⟨1⟩ = some (first, .free) ∧
      lookAlikesSession.store.content? ⟨2⟩ = some (second, .free) ∧
      lookAlikesSession.store.snapshotAt RecordId.address first ≠
        lookAlikesSession.store.snapshotAt RecordId.address second := by
  have hreachable : lookAlikesSession.Reachable fun _ => [] := ⟨_, lookAlikesCalls, rfl⟩
  have hf : (lookAlikesSession.stepBy (fun _ => []) (.copyInto "next" "first" "second")).1 =
      .failed (.parentLinkDiverged "\"Scope(#0)\"" "Scope(#0)") := by cbv
  have hfirst : lookAlikesSession.store.content? ⟨1⟩ =
      some (⟨sampleSchema, [.string "Scope(#0)", .tdz], ⟨1⟩⟩, .free) := by cbv
  have hsecond : lookAlikesSession.store.content? ⟨2⟩ =
      some (⟨sampleSchema, [.scope ⟨0⟩, .tdz], ⟨2⟩⟩, .free) := by cbv
  obtain ⟨-, -, -, haddress, -, -, htexts, hdiverged⟩ := texts_tell_values_apart hreachable
  obtain ⟨-, hsnapshots⟩ := htexts RecordId.address haddress
  refine ⟨hf, (hdiverged _ _ _ hf).1, _, _, hfirst, hsecond, ?_⟩
  intro hsame
  obtain ⟨-, hslots⟩ := (hsnapshots _ _ _ _ _ _ hfirst hsecond rfl).mp hsame
  have hparents := (List.forall₂_cons.mp hslots).1
  exact absurd hparents (by decide)

end Session

end LoopScope
