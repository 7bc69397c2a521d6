import LoopScope.Proofs.Codec
import LoopScope.Proofs.Session.Interchange
import LoopScope.Proofs.Session.Lineage
/-!
# Schemas that come from texts

To read a schema is to read a list of slots and to build a schema of it. So a text brings a schema
just if its list makes one, with the fingerprint that is computed from the list, and is refused with
the defect of its list otherwise. What is read that way cannot be told from what is built in memory.
-/
namespace LoopScope

variable {digest : Layout.DigestFunction} {text : String} {slots : List Slot} {schema : Schema}

/-- What the reader of a schema says of a list that is no valid layout. -/
def SchemaTextError.message? : SchemaTextError → Option String
  | malformed => none
  | invalid defect => some defect.message

/-! ## Reading -/

namespace Schema

/-- A text that lists slots brings the schema of these slots, or their defect. -/
theorem ofTextBy_of_decode? (digest : Layout.DigestFunction)
    (h : (Json.decode? text : Option (List Slot)) = some slots) :
    ofTextBy digest text = (ofSlotsBy digest slots).mapError .invalid := by
  obtain ⟨j, hparse, hslots⟩ := Option.bind_eq_some_iff.mp h
  rw [Json.parse?] at hparse
  split at hparse
  · rename_i found rest hread
    split at hparse
    · rename_i hend
      cases hparse
      rw [ofTextBy, hread]
      simp only [hslots, hend, if_true]
      cases ofSlotsBy digest slots <;> rfl
    · cases hparse
  · cases hparse

/-- A text that brings a schema lists the slots of it. -/
theorem decode?_of_ofTextBy (h : ofTextBy digest text = .ok schema) :
    (Json.decode? text : Option (List Slot)) = some schema.slots := by
  unfold ofTextBy at h
  split at h
  · cases h
  · rename_i j rest hread
    split at h
    · cases h
    · rename_i slots hslots
      split at h
      · cases h
      · rename_i made hmade
        split at h
        · rename_i hend
          cases h
          have hparse : Json.parse? text = some j := by
            simp only [Json.parse?, hread, hend, if_true]
          rw [Json.decode?, hparse, Option.bind_some, hslots,
            (wellFormed_of_ofSlotsBy hmade).1]
        · cases h

theorem ofTextBy_eq_ok_iff (h : (Json.decode? text : Option (List Slot)) = some slots) :
    ofTextBy digest text = .ok schema ↔ ofSlotsBy digest slots = .ok schema := by
  rw [ofTextBy_of_decode? digest h]
  cases ofSlotsBy digest slots with
  | ok made => rw [Except.mapError, Except.ok.injEq, Except.ok.injEq]
  | error defect => exact iff_of_false nofun nofun

theorem ofTextBy_eq_error_iff {e : SchemaTextError}
    (h : (Json.decode? text : Option (List Slot)) = some slots) :
    ofTextBy digest text = .error e ↔
      ∃ defect, ofSlotsBy digest slots = .error defect ∧ e = .invalid defect := by
  rw [ofTextBy_of_decode? digest h]
  cases ofSlotsBy digest slots with
  | ok made =>
    refine iff_of_false nofun ?_
    rintro ⟨defect, hdefect, -⟩
    cases hdefect
  | error defect =>
    rw [Except.mapError, Except.error.injEq]
    constructor
    · intro he
      exact ⟨defect, rfl, he.symm⟩
    · rintro ⟨other, hother, rfl⟩
      cases hother
      rfl

/-- The codec reads a schema where the list of its slots makes one. -/
theorem decode?_of_decode? (h : (Json.decode? text : Option (List Slot)) = some slots) :
    (Json.decode? text : Option Schema) = (ofSlots slots).toOption := by
  obtain ⟨j, hparse, hslots⟩ := Option.bind_eq_some_iff.mp h
  rw [Json.decode?, hparse, Option.bind_some]
  exact ofJson?_schema hslots

/-- A schema is written as its slots. -/
theorem encode_eq (schema : Schema) : Json.encode schema = Json.encode schema.slots := rfl

theorem decode?_encode (schema : Schema) :
    (Json.decode? (Json.encode schema) : Option (List Slot)) = some schema.slots := by
  rw [encode_eq]
  exact lossless_slot.list.decode_encode trivial

/-- The text of a schema brings this schema. -/
theorem WellFormed.ofTextBy_encode (h : schema.WellFormed digest) :
    ofTextBy digest (Json.encode schema) = .ok schema := by
  rw [ofTextBy_eq_ok_iff (decode?_encode schema)]
  exact h.ofSlotsBy_slots

end Schema

/-! ## Working together -/

namespace Session

variable {s : Session} {a b : Schema}

/-- In a session, operators over one of two schemas take records over either. They are materialized
and refreshed unless they are borrowed or, where the operator looks, their parents differ. -/
structure Interoperate (s : Session) (a b : Schema) : Prop where
  conforms : ∀ {name op r record guard}, s.operators.get? name = some op →
    s.store.content? r = some (record, guard) → op.schema.schema ∈ [a, b] →
    record.schema.schema ∈ [a, b] → record.conformsTo op.schema
  materialize : ∀ {name op r record guard}, s.operators.get? name = some op →
    s.store.content? r = some (record, guard) → op.schema.schema ∈ [a, b] →
    record.schema.schema ∈ [a, b] →
    (op.materialize s.store r).1 =
      if guard = .exclusive then .error .recordBusy else .ok ⟨s.store.records.next⟩
  copyInto : ∀ {name op d r into intoGuard record guard debugChecks},
    s.operators.get? name = some op →
    s.store.content? d = some (into, intoGuard) → s.store.content? r = some (record, guard) →
    op.schema.schema ∈ [a, b] → into.schema.schema ∈ [a, b] → record.schema.schema ∈ [a, b] →
    (op.config.parentLinkCheck.enabled debugChecks →
      into.slots[parentSlot]? = record.slots[parentSlot]?) →
    (op.copyInto debugChecks s.store d r).1 =
      if guard = .exclusive ∨ d ≠ r ∧ intoGuard ≠ .free then .error .recordBusy else .ok ()

private theorem slots_of_mem_pair (h : a.slots = b.slots) {schema : Schema}
    (hm : schema ∈ [a, b]) : schema.slots = b.slots := by
  rcases List.mem_pair.mp hm with rfl | rfl
  · exact h
  · rfl

/-- Only the slots count: each record carries the fingerprint that is computed from them. -/
theorem Sound.interoperate (h : s.Sound digest) (hslots : a.slots = b.slots) :
    s.Interoperate a b := by
  have hconforms {name : String} {op : Operator} {r : RecordId} {record : Record} {guard : Guard}
      (hop : s.operators.get? name = some op) (hc : s.store.content? r = some (record, guard))
      (hours : op.schema.schema ∈ [a, b]) (htheirs : record.schema.schema ∈ [a, b]) :
      record.conformsTo op.schema :=
    (h.records hc).conformsTo_of_slots (h.operators hop).schema
      ((slots_of_mem_pair hslots htheirs).trans (slots_of_mem_pair hslots hours).symm)
  refine ⟨hconforms, ?_, ?_⟩
  · intro name op r record guard hop hc hours htheirs
    exact fst_materialize_of_conformsTo h hop hc (hconforms hop hc hours htheirs)
  · intro name op d r into intoGuard record guard debugChecks hop hd hc hours hinto htheirs
    exact fst_copyInto_of_conformsTo h hop hd hc (hconforms hop hd hours hinto)
      (hconforms hop hc hours htheirs)

end Session

/-! ## Texts and layouts -/

namespace Schema

/-- A text that lists slots is judged by these slots alone. It brings the schema that they make, or
is refused with the message of their defect; so no text brings a fingerprint. What a text brings is
a valid layout that is written as the list of its slots, which brings it again, and it is the schema
that these slots make in memory: in a session, records and operators over the one go with records
and operators over the other. -/
theorem texts_judged_by_slots (digest : Layout.DigestFunction) (text : String) :
    (∀ slots, (Json.decode? text : Option (List Slot)) = some slots →
      (∀ schema, ofTextBy digest text = .ok schema ↔ ofSlotsBy digest slots = .ok schema) ∧
      (∀ e, ofTextBy digest text = .error e ↔
        ∃ defect, ofSlotsBy digest slots = .error defect ∧ e = .invalid defect ∧
          e.message? = some defect.message) ∧
      (Json.decode? text : Option Schema) = (ofSlots slots).toOption ∧
      ∀ other, (Json.decode? other : Option (List Slot)) = some slots →
        ofTextBy digest other = ofTextBy digest text) ∧
    ∀ schema, ofTextBy digest text = .ok schema →
      (Json.decode? text : Option (List Slot)) = some schema.slots ∧
      Layout.Valid schema.slots ∧
      schema.contentHash = Layout.fingerprint digest schema.slots ∧
      Json.encode schema = Json.encode schema.slots ∧
      (Json.decode? (Json.encode schema) : Option (List Slot)) = some schema.slots ∧
      ofTextBy digest (Json.encode schema) = .ok schema ∧
      ofSlotsBy digest schema.slots = .ok schema ∧
      ∀ s : Session, s.Reachable digest →
        ∀ made : Schema, made.slots = schema.slots → s.Interoperate schema made := by
  constructor
  · intro slots hslots
    refine ⟨fun schema => ofTextBy_eq_ok_iff hslots, ?_, decode?_of_decode? hslots, ?_⟩
    · intro e
      rw [ofTextBy_eq_error_iff hslots]
      constructor
      · rintro ⟨defect, hdefect, rfl⟩
        exact ⟨defect, hdefect, rfl, rfl⟩
      · rintro ⟨defect, hdefect, he, -⟩
        exact ⟨defect, hdefect, he⟩
    · intro other hother
      rw [ofTextBy_of_decode? digest hother, ofTextBy_of_decode? digest hslots]
  · intro schema htext
    have hwell := wellFormed_of_ofTextBy htext
    refine ⟨decode?_of_ofTextBy htext, hwell.valid, hwell.contentHash, encode_eq schema,
      decode?_encode schema, hwell.ofTextBy_encode, hwell.ofSlotsBy_slots, ?_⟩
    intro s hs made hmade
    exact (Session.sound_of_reachable hs).interoperate hmade.symm

/-- A text with a fingerprint of its own, and with one slot given by its fields in order. -/
def forgedText : String :=
  "[\x7b\"name\":\"<parent>\",\"kind\":\"parent_link\",\"content_hash\":\"sha256:00\"\x7d," ++
    "[\"i\",1,\"let\"]]"

/-- A text that lists a binding twice. -/
def repeatedText : String :=
  "[[\"<parent>\",null,\"parent_link\"],[\"i\",1,\"let\"],[\"i\",2,\"const\"]]"

theorem texts_judged_by_slots_sample :
    ofTextBy (fun _ => []) forgedText = .ok Session.sampleSchema.schema ∧
      ofTextBy (fun _ => []) (Json.encode Session.sampleSchema.schema) =
        ofTextBy (fun _ => []) forgedText ∧
      ofTextBy (fun _ => []) repeatedText = .error (.invalid (.duplicateBinding "i")) ∧
      (Session.sampleOperator.copyInto true Session.sample.store ⟨1⟩ ⟨0⟩).1 = .ok () := by
  have hforged : (Json.decode? forgedText : Option (List Slot)) =
      some Session.sampleSchema.schema.slots := by cbv
  have hrepeated : (Json.decode? repeatedText : Option (List Slot)) =
      some [.parent, .binding "i" 1 .letBinding, .binding "i" 2 .constBinding] := by cbv
  obtain ⟨hlisted, hbrought⟩ := texts_judged_by_slots (fun _ => []) forgedText
  obtain ⟨hok, -, -, hothers⟩ := hlisted _ hforged
  have htext : ofTextBy (fun _ => []) forgedText = .ok Session.sampleSchema.schema :=
    (hok _).mpr rfl
  obtain ⟨-, -, -, -, hwritten, -, -, hinteroperate⟩ := hbrought _ htext
  obtain ⟨-, herror, -⟩ := (texts_judged_by_slots (fun _ => []) repeatedText).1 _ hrepeated
  have hours : Session.sampleSchema.schema ∈
      [Session.sampleSchema.schema, Session.sampleSchema.schema] := List.mem_cons_self
  refine ⟨htext, hothers _ hwritten, (herror _).mpr ⟨_, rfl, rfl, rfl⟩, ?_⟩
  exact (hinteroperate _ Session.reachable_sample _ rfl).copyInto Session.operator_sample
    Session.content?_sample_second Session.content?_sample_first hours hours hours fun _ => rfl

end Schema

end LoopScope
