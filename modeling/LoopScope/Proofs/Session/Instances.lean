import LoopScope.Proofs.Fingerprint
import LoopScope.Proofs.Session.Copies
/-!
# Schema instances

Scope analysis makes a schema once and everything of one loop shares it. A session numbers the
instances that it makes, so records and operators with one number have one schema. Comparing
numbers before fingerprints is then a matter of speed only, and a record conforms to the schemas of
its own layout and to no others.
-/
namespace LoopScope.Session

variable {digest : Layout.DigestFunction} {s t : Session} {call : Call} {shared : SharedSchema}

/-- The schema instances that a session works with. -/
inductive Uses (s : Session) (shared : SharedSchema) : Prop
  | named {name : String} (found : s.schemas.get? name = some shared)
  | ofRecord {r : RecordId} {record : Record} {guard : Guard}
      (content : s.store.content? r = some (record, guard)) (schema : record.schema = shared)
  | ofOperator {name : String} {op : Operator} (found : s.operators.get? name = some op)
      (schema : op.schema = shared)

/-- No number is given to two schema instances. -/
structure Numbered (s : Session) : Prop where
  number_lt : ∀ {shared}, s.Uses shared → shared.number < s.nextSchema
  unique : ∀ {a b}, s.Uses a → s.Uses b → a.number = b.number → a = b

theorem Makes.uses {record : Record} (h : s.Makes call record) : s.Uses record.schema := by
  cases h with
  | given hs hv ha => exact .named hs
  | alone hs hv => exact .named hs
  | root hs => exact .named hs
  | clone hr hc => exact .ofRecord hc rfl
  | materialize hop hr hc hconforms => exact .ofOperator hop rfl

/-- A schema instance that is in use after a call was so before, or the call has made it. -/
theorem uses_of_stepBy (h : s.Sound digest) (call : Call)
    (ht : (s.stepBy digest call).2.Uses shared) :
    s.Uses shared ∨ s.Shares digest call (s.stepBy digest call).2 shared := by
  cases ht with
  | named found =>
    rcases (setupEffect_stepBy h call).schemas found with hkept | hmade
    · exact .inl (.named hkept)
    · exact .inr hmade
  | ofRecord content schema =>
    left
    cases (effect_stepBy h call).provenance content with
    | kept before => exact .ofRecord before schema
    | assigned target before record_eq length parent =>
      rw [record_eq] at schema
      exact .ofRecord before schema
    | made fresh made => exact schema ▸ made.uses
  | ofOperator found schema =>
    rcases origin_of_operator h found with
      ⟨before, hbefore, huse⟩ | ⟨reads, writes, config, context, -, horigin⟩ |
      ⟨source, before, hbefore, rfl⟩
    · exact .inl (.ofOperator hbefore (huse.usedFrom.schema.symm.trans schema))
    · rw [schema] at horigin
      exact horigin.imp_left fun ⟨other, hother⟩ => .named hother
    · exact .inl (.ofOperator hbefore schema)

theorem Shares.unique {a b : SharedSchema} (ha : s.Shares digest call t a)
    (hb : s.Shares digest call t b) : a = b := by
  obtain ⟨slots, hslots, hschema⟩ := ha.made
  obtain ⟨slots', hslots', hschema'⟩ := hb.made
  rw [hslots] at hslots'
  cases hslots'
  rw [hschema] at hschema'
  obtain ⟨number, schema⟩ := a
  obtain ⟨number', schema'⟩ := b
  rw [SharedSchema.mk.injEq]
  exact ⟨ha.number.trans hb.number.symm, Except.ok.inj hschema'⟩

theorem numbered_empty (debugChecks : Bool) : (empty debugChecks).Numbered where
  number_lt h := by
    cases h with
    | named found => cases found
    | ofRecord content schema => cases content
    | ofOperator found schema => cases found
  unique h := by
    cases h with
    | named found => cases found
    | ofRecord content schema => cases content
    | ofOperator found schema => cases found

/-- Every call keeps the instances apart. -/
theorem Numbered.stepBy (hn : s.Numbered) (h : s.Sound digest) (call : Call) :
    (s.stepBy digest call).2.Numbered where
  number_lt ha := by
    rcases uses_of_stepBy h call ha with ha | ha
    · exact Nat.lt_of_lt_of_le (hn.number_lt ha) (setupEffect_stepBy h call).next
    · rw [ha.number, ha.next]
      exact Nat.lt_succ_self _
  unique ha hb hnumber := by
    rcases uses_of_stepBy h call ha with ha | ha
    · rcases uses_of_stepBy h call hb with hb | hb
      · exact hn.unique ha hb hnumber
      · have hlt := hn.number_lt ha
        rw [hnumber, hb.number] at hlt
        exact (Nat.lt_irrefl _ hlt).elim
    · rcases uses_of_stepBy h call hb with hb | hb
      · have hlt := hn.number_lt hb
        rw [← hnumber, ha.number] at hlt
        exact (Nat.lt_irrefl _ hlt).elim
      · exact ha.unique hb

theorem Numbered.runBy (hn : s.Numbered) (h : s.Sound digest) (calls : List Call) :
    (s.runBy digest calls).Numbered := by
  induction calls generalizing s with
  | nil => exact hn
  | cons call calls ih => exact ih (hn.stepBy h call) (h.stepBy call)

theorem numbered_of_reachable (h : s.Reachable digest) : s.Numbered := by
  obtain ⟨debugChecks, calls, rfl⟩ := h
  exact (numbered_empty debugChecks).runBy (sound_empty digest debugChecks) calls

theorem Sound.wellFormed_of_uses (h : s.Sound digest) (hu : s.Uses shared) :
    shared.schema.WellFormed digest := by
  cases hu with
  | named found => exact h.schemas found
  | ofRecord content schema => exact schema ▸ (h.records content).schema
  | ofOperator found schema => exact schema ▸ (h.operators found).schema

/-! ## Conformance -/

/-- A schema instance that a record can be compared with: one that the session works with, or a new
one. -/
def Offers (digest : Layout.DigestFunction) (s : Session) (shared : SharedSchema) : Prop :=
  s.Uses shared ∨ s.nextSchema ≤ shared.number ∧ shared.schema.WellFormed digest

theorem Sound.wellFormed_of_offers (h : s.Sound digest) (ho : s.Offers digest shared) :
    shared.schema.WellFormed digest := by
  rcases ho with hu | ⟨-, hwell⟩
  · exact h.wellFormed_of_uses hu
  · exact hwell

/-- An instance of the same number is the same instance. -/
theorem Numbered.eq_of_number_eq (hn : s.Numbered) {used : SharedSchema} (hu : s.Uses used)
    (ho : s.Offers digest shared) (hnumber : used.number = shared.number) : used = shared := by
  rcases ho with hshared | ⟨hnew, -⟩
  · exact hn.unique hu hshared hnumber
  · have hlt := hn.number_lt hu
    omega

/-- Numbers are compared before fingerprints, and never decide otherwise. -/
theorem conformsTo_eq (hn : s.Numbered) {r : RecordId} {record : Record} {guard : Guard}
    (hc : s.store.content? r = some (record, guard)) (ho : s.Offers digest shared) :
    record.conformsTo shared =
      (record.schema.schema.contentHash == shared.schema.contentHash &&
        record.slots.length == shared.schema.length) := by
  rw [Record.conformsTo, Record.length]
  by_cases hnumber : record.schema.number = shared.number
  · have hsame := hn.eq_of_number_eq (.ofRecord hc rfl) ho hnumber
    rw [hsame]
    simp
  · have hne : (record.schema.number == shared.number) = false := beq_false_of_ne hnumber
    rw [hne, Bool.false_or]

/-- The layout of a record decides what it conforms to, unless the two layouts collide. -/
theorem conformsTo_iff_slots (hn : s.Numbered) (h : s.Sound digest) {r : RecordId}
    {record : Record} {guard : Guard} (hc : s.store.content? r = some (record, guard))
    (ho : s.Offers digest shared) (hrecord : Layout.NamesFit record.schema.schema.slots)
    (hshared : Layout.NamesFit shared.schema.slots)
    (hcollision : digest (Layout.bytes record.schema.schema.slots) =
        digest (Layout.bytes shared.schema.slots) →
      Layout.bytes record.schema.schema.slots = Layout.bytes shared.schema.slots) :
    record.conformsTo shared ↔ record.schema.schema.slots = shared.schema.slots := by
  have hwell := h.wellFormed_of_offers ho
  constructor
  · intro hconforms
    rw [conformsTo_eq hn hc ho, Bool.and_eq_true, beq_iff_eq] at hconforms
    have hhash := hconforms.1
    rw [(h.records hc).schema.contentHash, hwell.contentHash] at hhash
    exact (Layout.fingerprint_inj hrecord hshared hcollision).mp hhash
  · exact (h.records hc).conformsTo_of_slots hwell

/-- Layouts are told apart by their bytes, and digests by their texts. So a record conforms to a
schema just when their layouts are equal, whichever instances they are, as long as the digest does
not take the two layouts to one value. -/
theorem layout_identity (digest : Layout.DigestFunction) :
    (∀ a b : List Slot, Layout.NamesFit a → Layout.NamesFit b →
      (Layout.bytes a = Layout.bytes b ↔ a = b)) ∧
    (∀ a b : List UInt8, Layout.digestText a = Layout.digestText b ↔ a = b) ∧
    ∀ s : Session, s.Reachable digest → ∀ r record guard shared,
      s.store.content? r = some (record, guard) → s.Offers digest shared →
      record.conformsTo shared =
        (record.schema.schema.contentHash == shared.schema.contentHash &&
          record.slots.length == shared.schema.length) ∧
      (Layout.NamesFit record.schema.schema.slots → Layout.NamesFit shared.schema.slots →
        (digest (Layout.bytes record.schema.schema.slots) =
            digest (Layout.bytes shared.schema.slots) →
          Layout.bytes record.schema.schema.slots = Layout.bytes shared.schema.slots) →
        (record.conformsTo shared ↔ record.schema.schema.slots = shared.schema.slots)) := by
  refine ⟨fun a b => Layout.bytes_inj, fun a b => Layout.digestText_inj, ?_⟩
  intro s hs r record guard shared hc ho
  have hnumbered := numbered_of_reachable hs
  refine ⟨conformsTo_eq hnumbered hc ho, ?_⟩
  exact conformsTo_iff_slots hnumbered (sound_of_reachable hs) hc ho

/-- The calls of a client that makes two schema instances of one layout, an instance of another
layout, and a record. -/
def layoutCalls : List Call :=
  [.schema "loop" sampleSchema.schema.slots, .schema "again" sampleSchema.schema.slots,
    .schema "other" [.parent, .binding "j" 1 .letBinding], .root "scope" "loop"]

/-- The session after these calls, with debug checks. -/
def layoutSession (digest : Layout.DigestFunction) : Session :=
  runBy digest (empty true) layoutCalls

theorem reachable_layoutSession (digest : Layout.DigestFunction) :
    (layoutSession digest).Reachable digest := ⟨true, layoutCalls, rfl⟩

/-- An instance in that session. -/
def layoutSchema (digest : Layout.DigestFunction) (number : Nat) (slots : List Slot) :
    SharedSchema :=
  ⟨number, slots, Layout.fingerprint digest slots⟩

theorem content?_layoutSession (digest : Layout.DigestFunction) :
    (layoutSession digest).store.content? ⟨0⟩ =
      some (⟨layoutSchema digest 0 sampleSchema.schema.slots, [.null, .tdz], ⟨0⟩⟩, .free) := by
  cbv

theorem schema_layoutSession_again (digest : Layout.DigestFunction) :
    (layoutSession digest).schemas.get? "again" =
      some (layoutSchema digest 1 [.parent, .binding "i" 1 .letBinding]) := by
  cbv

theorem schema_layoutSession_other (digest : Layout.DigestFunction) :
    (layoutSession digest).schemas.get? "other" =
      some (layoutSchema digest 2 [.parent, .binding "j" 1 .letBinding]) := by
  cbv

theorem layout_identity_sample :
    ∃ record, (layoutSession Sha256.digest).store.content? ⟨0⟩ = some (record, .free) ∧
      record.conformsTo (layoutSchema Sha256.digest 1 [.parent, .binding "i" 1 .letBinding]) ∧
      ¬ record.conformsTo
        (layoutSchema Sha256.digest 2 [.parent, .binding "j" 1 .letBinding]) := by
  have hc := content?_layoutSession Sha256.digest
  have hagain := schema_layoutSession_again Sha256.digest
  have hother := schema_layoutSession_other Sha256.digest
  have hfit : Layout.NamesFit [.parent, .binding "i" 1 .letBinding] := by
    unfold Layout.NamesFit
    decide
  have hfitOther : Layout.NamesFit [.parent, .binding "j" 1 .letBinding] := by
    unfold Layout.NamesFit
    decide
  have hapart : Sha256.digest (Layout.bytes [.parent, .binding "i" 1 .letBinding]) ≠
      Sha256.digest (Layout.bytes [.parent, .binding "j" 1 .letBinding]) := by decide +kernel
  have hreachable := reachable_layoutSession Sha256.digest
  obtain ⟨-, -, hconforms⟩ := layout_identity Sha256.digest
  refine ⟨_, hc, ?_, ?_⟩
  · have hiff :=
      (hconforms _ hreachable _ _ _ _ hc (.inl (.named hagain))).2 hfit hfit fun _ => rfl
    exact hiff.mpr rfl
  · have hiff := (hconforms _ hreachable _ _ _ _ hc (.inl (.named hother))).2 hfit hfitOther
      fun hsame => (hapart hsame).elim
    intro h
    exact absurd (hiff.mp h) (by decide)

end LoopScope.Session
