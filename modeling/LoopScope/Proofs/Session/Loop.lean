import LoopScope.Proofs.Session.Copies
import LoopScope.Proofs.Session.Runs
/-!
# A record for each iteration

A client runs a loop body after body, and between two bodies an operator makes the next record from
the current one. Closures of an iteration hold its record. Whatever later bodies do, as long as they
leave the records of earlier iterations alone, such a closure sees the values that its own body left.
-/
namespace LoopScope

structure Loop where
  /-- The name of the operator. -/
  operator : String
  /-- The name that the record of each iteration gets. -/
  current : Nat → String
  body : Nat → List Call

namespace Loop

variable {digest : Layout.DigestFunction} {l : Loop} {s u : Session} {op : Operator} {n k : Nat}
  {r : RecordId}

/-- The call that makes the record of the iteration after `k`. -/
def advance (l : Loop) (k : Nat) : Call :=
  .materialize (l.current (k + 1)) l.operator (l.current k)

/-- The session before body `k`. -/
def before (digest : Layout.DigestFunction) (l : Loop) (s : Session) : Nat → Session
  | 0 => s
  | k + 1 => (((before digest l s k).runBy digest (l.body k)).stepBy digest (l.advance k)).2

/-- The session after body `k`. -/
def after (digest : Layout.DigestFunction) (l : Loop) (s : Session) (k : Nat) : Session :=
  (l.before digest s k).runBy digest (l.body k)

/-- The record of iteration `k`. -/
def record? (digest : Layout.DigestFunction) (l : Loop) (s : Session) (k : Nat) :
    Option RecordId :=
  (l.before digest s k).records.get? (l.current k)

/-- What the bodies up to the one with number `n` must not do: take the name from the operator or
from the current record, write to the record of an earlier iteration, and leave the current record
exclusively borrowed when the next one is to be made. -/
structure Disciplined (digest : Layout.DigestFunction) (l : Loop) (s : Session) (n : Nat) :
    Prop where
  operator : ∀ k ≤ n, ∀ call ∈ l.body k, call.operatorName? ≠ some l.operator
  current : ∀ k ≤ n, ∀ call ∈ l.body k, call.recordName? ≠ some (l.current k)
  earlier : ∀ k ≤ n, ∀ j < k, ∀ r, l.record? digest s j = some r →
    Session.Along digest (fun u call => u.written? call ≠ some r) (l.before digest s k) (l.body k)
  returned : ∀ k < n, ∀ r record, l.record? digest s k = some r →
    (l.after digest s k).store.content? r ≠ some (record, .exclusive)

/-! ## One iteration -/

/-- The operator can be used on the current record. -/
private structure Ready (digest : Layout.DigestFunction) (l : Loop) (op : Operator) (u : Session)
    (k : Nat) (r : RecordId) : Prop where
  sound : u.Sound digest
  operator : ∃ used, u.operators.get? l.operator = some used ∧ used.UsedFrom op
  named : u.records.get? (l.current k) = some r
  conforms : ∃ record guard, u.store.content? r = some (record, guard) ∧
    record.conformsTo op.schema

private theorem Ready.lt_next (h : Ready digest l op u k r) : r.number < u.store.records.next :=
  h.sound.lt_next (Session.hasHandle_of_name h.named)

/-- A body keeps the operator and the current record usable. -/
private theorem Ready.body (h : Ready digest l op u k r)
    (hoperator : ∀ call ∈ l.body k, call.operatorName? ≠ some l.operator)
    (hcurrent : ∀ call ∈ l.body k, call.recordName? ≠ some (l.current k)) :
    Ready digest l op (u.runBy digest (l.body k)) k r := by
  have hsound := h.sound.runBy (l.body k)
  have hnamed := (Session.get?_records_runBy h.sound hcurrent).trans h.named
  obtain ⟨before, hbefore, hused⟩ := h.operator
  obtain ⟨used, hop, hrest⟩ := Session.operator_runBy h.sound hoperator hbefore
  obtain ⟨record, guard, hc⟩ := hsound.exists_content (Session.hasHandle_of_name hnamed)
  obtain ⟨old, oldGuard, hold, hsame⟩ := Session.sameShape_runBy h.sound (l.body k) h.lt_next hc
  obtain ⟨first, firstGuard, hfirst, hconforms⟩ := h.conforms
  rw [hold] at hfirst
  cases hfirst
  refine ⟨hsound, ⟨used, hop, hrest.trans hused⟩, hnamed, record, guard, hc, ?_⟩
  rw [hsame.conformsTo]
  exact hconforms

/-- Between two bodies the operator makes a record that can be used in the same way. -/
private theorem Ready.advance (h : Ready digest l op u k r)
    (hreturned : ∀ record, u.store.content? r ≠ some (record, .exclusive)) :
    Ready digest l op (u.stepBy digest (l.advance k)).2 (k + 1) ⟨u.store.records.next⟩ ∧
      (∃ snapshot, (u.stepBy digest (l.advance k)).1 =
        .materialized ⟨u.store.records.next⟩ snapshot) ∧
      ∃ last guard made, u.store.content? r = some (last, guard) ∧
        (u.stepBy digest (l.advance k)).2.store.content? ⟨u.store.records.next⟩ =
          some (made, .free) ∧
        made.slots = last.slots := by
  obtain ⟨used, hop, hused⟩ := h.operator
  obtain ⟨last, guard, hc, hconforms⟩ := h.conforms
  have hguard : guard ≠ .exclusive := by
    intro he
    rw [he] at hc
    exact hreturned last hc
  have hconforms' : last.conformsTo used.schema := by rwa [hused.schema]
  obtain ⟨hanswer, hnamed, hmade⟩ := Session.materialize_stepBy h.sound hop h.named hc hguard
    hconforms' (l.current (k + 1))
  have hlength := Record.length_of_conformsTo hconforms
  refine ⟨⟨h.sound.stepBy _, ?_, hnamed, _, _, hmade, ?_⟩, hanswer, last, guard, _, hc, hmade, rfl⟩
  · obtain ⟨again, hagain, hstep⟩ :=
      (Session.keepsTables_stepBy h.sound (l.advance k)).kept hop
        (Option.some_ne_none _).symm
    exact ⟨again, hagain, hstep.trans hused⟩
  · rw [hused.schema, Record.conformsTo, Record.length, hlength]
    simp

/-! ## The whole loop -/

private theorem ready_before (h₀ : Ready digest l op s 0 r) (hl : l.Disciplined digest s n)
    (hk : k ≤ n) : ∃ q, Ready digest l op (l.before digest s k) k q := by
  induction k with
  | zero => exact ⟨r, h₀⟩
  | succ k ih =>
    obtain ⟨q, hq⟩ := ih (Nat.le_of_succ_le hk)
    have hbody := hq.body (hl.operator k (Nat.le_of_succ_le hk))
      (hl.current k (Nat.le_of_succ_le hk))
    exact ⟨_, (hbody.advance fun record => hl.returned k hk q record hq.named).1⟩

private theorem ready_after (h₀ : Ready digest l op s 0 r) (hl : l.Disciplined digest s n)
    (hk : k ≤ n) {q : RecordId} (hq : l.record? digest s k = some q) :
    Ready digest l op (l.after digest s k) k q := by
  obtain ⟨p, hp⟩ := ready_before h₀ hl hk
  have he : q = p := Option.some.inj (hq.symm.trans hp.named)
  rw [he]
  exact hp.body (hl.operator k hk) (hl.current k hk)

theorem sound_before (hs : s.Sound digest) (l : Loop) (k : Nat) :
    (l.before digest s k).Sound digest := by
  induction k with
  | zero => exact hs
  | succ k ih => exact (ih.runBy (l.body k)).stepBy (l.advance k)

theorem sound_after (hs : s.Sound digest) (l : Loop) (k : Nat) :
    (l.after digest s k).Sound digest :=
  (sound_before hs l k).runBy (l.body k)

theorem next_le_before (hs : s.Sound digest) (l : Loop) {j : Nat} (h : k ≤ j) :
    (l.before digest s k).store.records.next ≤ (l.before digest s j).store.records.next := by
  induction h with
  | refl => exact Nat.le_refl _
  | @step j h ih =>
    have hbody := Session.next_le_runBy (sound_before hs l j) (l.body j)
    have hstep := (Session.effect_stepBy (sound_after hs l j) (l.advance j)).next_le
    exact Nat.le_trans ih (Nat.le_trans hbody hstep)

/-- A record that was made before body `k` is after body `m` what it was after body `k`, if no body
in between writes to it. -/
theorem content?_after (hs : s.Sound digest) {q : RecordId} {m : Nat} (hkm : k ≤ m)
    (hq : q.number < (l.before digest s k).store.records.next)
    (hspared : ∀ j, k < j → j ≤ m →
      Session.Along digest (fun u call => u.written? call ≠ some q) (l.before digest s j) (l.body j))
    {record : Record} {guard : Guard}
    (hc : (l.after digest s m).store.content? q = some (record, guard)) :
    ∃ own, (l.after digest s k).store.content? q = some (record, own) := by
  induction hkm generalizing guard with
  | refl => exact ⟨guard, hc⟩
  | @step m hkm ih =>
    have hlt := Nat.lt_of_lt_of_le hq (next_le_before hs l (Nat.le_succ_of_le hkm))
    obtain ⟨between, hbefore⟩ := Session.unwritten_runBy (sound_before hs l (m + 1)) hlt
      (hspared (m + 1) (Nat.lt_succ_of_le hkm) (Nat.le_refl _)) hc
    have hafter := Nat.lt_of_lt_of_le hq (Nat.le_trans (next_le_before hs l hkm)
      (Session.next_le_runBy (sound_before hs l m) (l.body m)))
    have hstep := (Session.effect_stepBy (sound_after hs l m) (l.advance m)).provenance hbefore
    obtain ⟨earlier, hearlier⟩ := hstep.unwritten hafter (Option.some_ne_none _).symm
    exact ih (fun j hj hjm => hspared j hj (Nat.le_succ_of_le hjm)) hearlier

/-- Every iteration gets a record of its own, which starts with the values that the iteration before
ended with, and which keeps the values that its own body left: to whoever holds it, a later body
changes nothing. -/
theorem iterations_keep_their_values {r₀ : RecordId} {record₀ : Record} {guard₀ : Guard}
    (hs : s.Reachable digest) (hop : s.operators.get? l.operator = some op)
    (hr₀ : s.records.get? (l.current 0) = some r₀)
    (hc₀ : s.store.content? r₀ = some (record₀, guard₀)) (hconforms : record₀.conformsTo op.schema)
    (hl : l.Disciplined digest s n) :
    ∃ r : Nat → RecordId, r 0 = r₀ ∧ (∀ k ≤ n, l.record? digest s k = some (r k)) ∧
      (∀ i j, i < j → j ≤ n → r i ≠ r j) ∧
      (∀ k < n,
        (∃ snapshot, ((l.after digest s k).stepBy digest (l.advance k)).1 =
          .materialized (r (k + 1)) snapshot) ∧
        ∃ last guard made, (l.after digest s k).store.content? (r k) = some (last, guard) ∧
          (l.before digest s (k + 1)).store.content? (r (k + 1)) = some (made, .free) ∧
          made.slots = last.slots) ∧
      ∀ k ≤ n, ∃ last guard, (l.after digest s k).store.content? (r k) = some (last, guard) ∧
        (∀ record guard, (l.after digest s n).store.content? (r k) = some (record, guard) →
          record = last) ∧
        ((l.after digest s n).HasHandle (r k) →
          ∃ guard, (l.after digest s n).store.content? (r k) = some (last, guard)) := by
  have hsound := Session.sound_of_reachable hs
  have h₀ : Ready digest l op s 0 r₀ :=
    ⟨hsound, ⟨op, hop, .refl op⟩, hr₀, record₀, guard₀, hc₀, hconforms⟩
  obtain ⟨r, hr⟩ : ∃ r : Nat → RecordId, ∀ k ≤ n, l.record? digest s k = some (r k) := by
    refine ⟨fun k => (l.record? digest s k).getD r₀, fun k hk => ?_⟩
    obtain ⟨q, hq⟩ := ready_before h₀ hl hk
    have hnamed : l.record? digest s k = some q := hq.named
    simp only [hnamed, Option.getD_some]
  have hafter {k : Nat} (hk : k ≤ n) : Ready digest l op (l.after digest s k) k (r k) :=
    ready_after h₀ hl hk (hr k hk)
  have hadvance {k : Nat} (hk : k < n) := (hafter (Nat.le_of_lt hk)).advance fun record =>
    hl.returned k hk (r k) record (hr k (Nat.le_of_lt hk))
  have hnext {k : Nat} (hk : k < n) : r (k + 1) = ⟨(l.after digest s k).store.records.next⟩ :=
    Option.some.inj ((hr (k + 1) hk).symm.trans (hadvance hk).1.named)
  have hlt {k : Nat} (hk : k ≤ n) :
      (r k).number < (l.before digest s k).store.records.next :=
    (sound_before hsound l k).lt_next (Session.hasHandle_of_name (hr k hk))
  refine ⟨r, ?_, hr, ?_, ?_, ?_⟩
  · exact Option.some.inj ((hr 0 (Nat.zero_le n)).symm.trans hr₀)
  · intro i j hij hj he
    obtain ⟨m, rfl⟩ : ∃ m, j = m + 1 := ⟨j - 1, by omega⟩
    have hearlier := hlt (Nat.le_trans (Nat.le_of_lt hij) hj)
    have hmade := Nat.le_trans (next_le_before hsound l (Nat.le_of_lt_succ hij))
      (Session.next_le_runBy (sound_before hsound l m) (l.body m))
    rw [he, hnext hj] at hearlier
    exact Nat.lt_irrefl _ (Nat.lt_of_lt_of_le hearlier hmade)
  · intro k hk
    obtain ⟨-, hanswer, last, guard, made, hlast, hmade, hslots⟩ := hadvance hk
    rw [hnext hk]
    exact ⟨hanswer, last, guard, made, hlast, hmade, hslots⟩
  · intro k hk
    obtain ⟨last, guard, hlast, -⟩ := (hafter hk).conforms
    have hsame {record : Record} {guard : Guard}
        (hc : (l.after digest s n).store.content? (r k) = some (record, guard)) :
        record = last := by
      obtain ⟨own, hown⟩ := content?_after hsound hk (hlt hk)
        (fun j hkj hjn => hl.earlier j hjn k hkj (r k) (hr k hk)) hc
      rw [hlast] at hown
      cases hown
      rfl
    refine ⟨last, guard, hlast, fun record guard hc => hsame hc, ?_⟩
    intro hheld
    obtain ⟨record, final, hc⟩ := (sound_after hsound l n).exists_content hheld
    rw [hsame hc] at hc
    exact ⟨final, hc⟩

/-- Two iterations over the sample session. A closure of the first one holds its record. -/
def sample : Loop where
  operator := "next"
  current _ := "first"
  body k :=
    if k = 0 then [.alias "closure" "first", .set "first" "i" (.value .undefined)]
    else [.set "first" "i" (.value (.bool false))]

theorem disciplined_sample : sample.Disciplined (fun _ => []) Session.sample 1 := by
  have hbodies (k : Nat) : ∀ call ∈ sample.body k,
      call.operatorName? = none ∧ call.recordName? ≠ some "first" := by
    intro call hm
    by_cases hk : k = 0
    · simp only [sample, hk, if_true, List.mem_cons, List.not_mem_nil, or_false] at hm
      rcases hm with rfl | rfl <;> decide
    · simp only [sample, hk, if_false, List.mem_cons, List.not_mem_nil, or_false] at hm
      rw [hm]
      decide
  refine ⟨?_, ?_, ?_, ?_⟩
  · intro k _ call hm
    rw [(hbodies k call hm).1]
    exact (Option.some_ne_none _).symm
  · intro k _ call hm
    exact (hbodies k call hm).2
  · intro k hk j hj r hr
    have hk1 : k = 1 := by omega
    have hj0 : j = 0 := by omega
    subst hk1 hj0
    have h0 : sample.record? (fun _ => []) Session.sample 0 = some ⟨0⟩ := by cbv
    rw [h0] at hr
    cases hr
    have hwritten : (sample.before (fun _ => []) Session.sample 1).written?
        (.set "first" "i" (.value (.bool false))) = some ⟨2⟩ := by cbv
    refine ⟨?_, trivial⟩
    simp only [hwritten]
    decide
  · intro k hk r record hr hc
    have hk0 : k = 0 := by omega
    subst hk0
    have h0 : sample.record? (fun _ => []) Session.sample 0 = some ⟨0⟩ := by cbv
    rw [h0] at hr
    cases hr
    have hcontent : (sample.after (fun _ => []) Session.sample 0).store.content? ⟨0⟩ =
        some (⟨Session.sampleSchema, [.null, .undefined], ⟨0⟩⟩, .free) := by cbv
    rw [hcontent] at hc
    cases hc

theorem closure_sample : ∃ guard,
    (sample.after (fun _ => []) Session.sample 1).store.content? ⟨0⟩ =
      some (⟨Session.sampleSchema, [.null, .undefined], ⟨0⟩⟩, guard) := by
  obtain ⟨r, hr, -, -, -, hkeeps⟩ := iterations_keep_their_values Session.reachable_sample
    Session.operator_sample Session.name_sample_first Session.content?_sample_first (by decide)
    disciplined_sample
  obtain ⟨last, guard, hlast, -, hheld⟩ := hkeeps 0 (by decide)
  rw [hr] at hlast hheld
  have hcontent : (sample.after (fun _ => []) Session.sample 0).store.content? ⟨0⟩ =
      some (⟨Session.sampleSchema, [.null, .undefined], ⟨0⟩⟩, .free) := by cbv
  rw [hcontent] at hlast
  cases hlast
  have hclosure : (sample.after (fun _ => []) Session.sample 1).records.get? "closure" =
      some ⟨0⟩ := by cbv
  exact hheld (Session.hasHandle_of_name hclosure)

end Loop

end LoopScope
