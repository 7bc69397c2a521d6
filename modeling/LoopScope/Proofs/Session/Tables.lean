import LoopScope.Proofs.Session.Operators
/-!
# Schemas and operators in use

Calls name schemas and operators and use them. What a call does to the two tables keeps what is
listed there well formed; an operator that was used has logged and observed something, and has the
schema and the configuration that it was built with.
-/
namespace LoopScope

/-- The operator after some use. -/
structure Operator.UsedFrom (used op : Operator) : Prop where
  schema : used.schema = op.schema
  config : used.config = op.config

namespace Operator

theorem UsedFrom.refl (op : Operator) : op.UsedFrom op := ⟨rfl, rfl⟩

theorem UsedFrom.trans {a b c : Operator} (h : a.UsedFrom b) (h' : b.UsedFrom c) : a.UsedFrom c :=
  ⟨h.schema.trans h'.schema, h.config.trans h'.config⟩

theorem usedFrom_observing (op : Operator) (position : Nat) (slots : List Value) :
    (op.observing position slots).UsedFrom op := ⟨rfl, rfl⟩

theorem usedFrom_replaceRead (op : Operator) (position : Nat) (a : Accessor) :
    (op.replaceRead position a).UsedFrom op := ⟨rfl, rfl⟩

theorem usedFrom_replaceWrite (op : Operator) (position : Nat) (a : Accessor) :
    (op.replaceWrite position a).UsedFrom op := ⟨rfl, rfl⟩

theorem usedFrom_drain (op : Operator) : op.drain.2.UsedFrom op := ⟨rfl, rfl⟩

theorem usedFrom_cloneUninitialized (op : Operator) : op.cloneUninitialized.2.UsedFrom op :=
  ⟨rfl, rfl⟩

theorem usedFrom_logOutcome (op : Operator) (event : String) (outcome : Except ScopeError Unit) :
    (op.logOutcome event outcome).UsedFrom op := by
  unfold logOutcome
  split
  · split <;> exact ⟨rfl, rfl⟩
  · exact ⟨rfl, rfl⟩

end Operator

namespace Session

variable {digest : Layout.DigestFunction} {s t : Session} {call : Call} {answer : Answer}
  {name : String} {op used : Operator}

/-- What a call leaves of the schemas and the operators. -/
structure KeepsTables (digest : Layout.DigestFunction) (s : Session) (call : Call) (t : Session) :
    Prop where
  schemas : ∀ {name shared}, t.schemas.get? name = some shared → shared.schema.WellFormed digest
  wellFormed : ∀ {name op}, t.operators.get? name = some op → op.WellFormed digest
  kept : ∀ {name op}, s.operators.get? name = some op → call.operatorName? ≠ some name →
    ∃ used, t.operators.get? name = some used ∧ used.UsedFrom op

/-! ## Use of an operator -/

theorem Use.usedFrom (h : s.Use name op call answer used) : used.UsedFrom op := by
  cases h with
  | elsewhere other => exact .refl op
  | unbound => exact .refl op
  | busy accessed => exact .refl op
  | missed accessed => exact .refl op
  | read found => exact op.usedFrom_replaceRead _ _
  | write found given => exact op.usedFrom_replaceWrite _ _
  | refusedMaterialize => exact op.usedFrom_logOutcome _ _
  | materialize named content conforms =>
    exact (Operator.usedFrom_logOutcome _ _ _).trans (op.usedFrom_observing _ _)
  | refusedCopy => exact op.usedFrom_logOutcome _ _
  | selfCopy destinationNamed sourceNamed => exact op.usedFrom_logOutcome _ _
  | copy destinationNamed sourceNamed distinct content conforms =>
    exact (Operator.usedFrom_logOutcome _ _ _).trans (op.usedFrom_observing _ _)
  | duplicate => exact op.usedFrom_cloneUninitialized
  | drain => exact op.usedFrom_drain

theorem Use.wellFormed (h : s.Use name op call answer used) (hop : op.WellFormed digest) :
    used.WellFormed digest := by
  cases h with
  | elsewhere other => exact hop
  | unbound => exact hop
  | busy accessed => exact hop
  | missed accessed => exact hop
  | read found =>
    apply hop.replaceRead
    intro old hold
    rw [found] at hold
    cases hold
    rfl
  | write found given =>
    apply hop.replaceWrite
    intro old hold
    rw [found] at hold
    cases hold
    rfl
  | refusedMaterialize => exact hop.logOutcome _ _
  | materialize named content conforms =>
    exact (hop.observing 0 (Record.length_of_conformsTo conforms)).logOutcome _ _
  | refusedCopy => exact hop.logOutcome _ _
  | selfCopy destinationNamed sourceNamed => exact hop.logOutcome _ _
  | copy destinationNamed sourceNamed distinct content conforms =>
    exact (hop.observing 1 (Record.length_of_conformsTo conforms)).logOutcome _ _
  | duplicate => exact hop.logEvent _ _
  | drain => exact hop.drain

/-! ## All calls -/

theorem Shares.wellFormed {shared : SharedSchema} (h : s.Shares digest call t shared) :
    shared.schema.WellFormed digest := by
  obtain ⟨slots, -, hschema⟩ := h.made
  exact (Schema.wellFormed_of_ofSlotsBy hschema).2

/-- Every call keeps the schemas and the operators well formed, and the operators that it does not
replace in use. -/
theorem keepsTables_stepBy (h : s.Sound digest) (call : Call) :
    s.KeepsTables digest call (s.stepBy digest call).2 where
  schemas hs := by
    rcases (setupEffect_stepBy h call).schemas hs with hkept | hmade
    · exact h.schemas hkept
    · exact hmade.wellFormed
  wellFormed hop := by
    rcases origin_of_operator h hop with
      ⟨before, hbefore, huse⟩ | ⟨reads, writes, config, context, hbuilt, hschema⟩ |
      ⟨source, before, hbefore, rfl⟩
    · exact huse.wellFormed (h.operators hbefore)
    · rcases hschema with ⟨other, hother⟩ | hmade
      · exact Operator.wellFormed_of_build (h.schemas hother) hbuilt
      · exact Operator.wellFormed_of_build hmade.wellFormed hbuilt
    · exact (h.operators hbefore).cloneUninitialized.1
  kept hop hname := by
    obtain ⟨used, hafter, huse⟩ := use_of_stepBy h hop hname
    exact ⟨used, hafter, huse.usedFrom⟩

end Session

end LoopScope
