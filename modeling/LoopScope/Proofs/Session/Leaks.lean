import LoopScope.Proofs.Session.Copies
import LoopScope.Proofs.Store.Graph
/-!
# Leaks

What the client can reach is there, and what is there although the client cannot reach it is kept by
a cycle of references. Operators hold nothing: once the client has let go of everything, a store
without cycles is empty, whatever its operators have been used for.
-/
namespace LoopScope

/-- The calls by which a client lets go of something it holds. -/
def Call.letsGo : Call → Bool
  | .drop _ | .dropArguments _ | .endLoan => true
  | _ => false

namespace Table

variable {α : Type}

theorem erase_eq_self {t : Table α} {name : String} (h : t.get? name = none) :
    t.erase name = t := by
  obtain ⟨entries⟩ := t
  rw [get?, List.lookup_eq_none_iff] at h
  rw [erase, List.filter_eq_self.mpr]
  intro entry hm
  exact bne_iff_ne.mpr (bne_iff_ne.mp (h entry hm)).symm

def names (t : Table α) : List String := t.entries.map Prod.fst

theorem entries_foldl_erase (names : List String) (t : Table α) :
    (names.foldl erase t).entries = t.entries.filter fun entry => entry.1 ∉ names := by
  induction names generalizing t with
  | nil => simp
  | cons name names ih =>
    rw [List.foldl_cons, ih, erase, List.filter_filter]
    congr 1
    funext entry
    rw [Bool.eq_iff_iff]
    simp [and_comm]

/-- Without all its names a table is empty. -/
theorem toList_foldl_erase_names (t : Table α) : (t.names.foldl erase t).toList = [] := by
  rw [toList, entries_foldl_erase, List.map_eq_nil_iff, List.filter_eq_nil_iff]
  intro entry hm
  have hname : entry.1 ∈ t.names := List.mem_map_of_mem hm
  simpa using hname

end Table

namespace Session

open Relation (ReflTransGen)

variable {digest : Layout.DigestFunction} {s : Session} {call : Call} {calls : List Call}

/-! ## Letting go -/

/-- What the client holds after it lets go of something, in the store as it was. -/
def without (s : Session) : Call → Session
  | .drop name => { s with records := s.records.erase name }
  | .dropArguments name => { s with arguments := s.arguments.erase name }
  | .endLoan => { s with loans := s.loans.tail }
  | _ => s

/-- Letting go of something takes references out of the store, and changes nothing else but what the
client holds. -/
theorem stepBy_of_letsGo (digest : Layout.DigestFunction) (s : Session) (h : call.letsGo = true) :
    ∃ store : Store, store.Refers ≤ s.store.Refers ∧
      (s.stepBy digest call).2 = { s.without call with store := store } := by
  cases call with
  | drop name =>
    simp only [stepBy, dropCall, without]
    cases hname : s.records.get? name with
    | none => exact ⟨s.store, le_rfl, by simp only [Table.erase_eq_self hname]⟩
    | some r => exact ⟨_, (Store.within_release _ _).refers_le, rfl⟩
  | dropArguments name =>
    simp only [stepBy, dropArgumentsCall, without]
    cases hname : s.arguments.get? name with
    | none => exact ⟨s.store, le_rfl, by simp only [Table.erase_eq_self hname]⟩
    | some a => exact ⟨_, (Store.within_release _ _).refers_le, rfl⟩
  | endLoan =>
    simp only [stepBy, endLoanCall, without]
    cases hloans : s.loans with
    | nil =>
      refine ⟨s.store, le_rfl, ?_⟩
      dsimp only [List.tail_nil]
      rw [← hloans]
    | cons loan loans => exact ⟨_, Store.refers_giveBack_le _ _, rfl⟩
  | _ => cases h

theorem runBy_of_letsGo (digest : Layout.DigestFunction) (s : Session)
    (h : ∀ call ∈ calls, call.letsGo = true) :
    ∃ store : Store, store.Refers ≤ s.store.Refers ∧
      s.runBy digest calls = { calls.foldl without s with store := store } := by
  induction calls generalizing s with
  | nil => exact ⟨s.store, le_rfl, rfl⟩
  | cons call calls ih =>
    obtain ⟨between, hbetween, hstep⟩ :=
      stepBy_of_letsGo digest s (h call List.mem_cons_self)
    obtain ⟨store, hstore, hrun⟩ := ih (s.stepBy digest call).2 fun later hm =>
      h later (List.mem_cons_of_mem _ hm)
    refine ⟨store, hstore.trans ?_, ?_⟩
    · rw [hstep]
      exact hbetween
    · rw [runBy_cons, hrun, hstep, List.foldl_cons]
      have hstores : calls.foldl without { s.without call with store := between } =
          { calls.foldl without (s.without call) with store := between } :=
        List.foldl_hom (fun u : Session => { u with store := between }) fun u later => by
          cases later <;> rfl
      rw [hstores]

/-- A call for each thing that the client holds, to let go of it. -/
def lettingGo (s : Session) : List Call :=
  s.records.names.map .drop ++ s.arguments.names.map .dropArguments ++
    s.loans.map fun _ => .endLoan

theorem letsGo_of_mem_lettingGo (h : call ∈ s.lettingGo) : call.letsGo = true := by
  simp only [lettingGo, List.mem_append, List.mem_map] at h
  rcases h with (⟨name, -, rfl⟩ | ⟨name, -, rfl⟩) | ⟨loan, -, rfl⟩ <;> rfl

private theorem foldl_tail {α β : Type} (l : List α) (rest : List β)
    (h : rest.length ≤ l.length) : l.foldl (fun rest _ => rest.tail) rest = [] := by
  induction l generalizing rest with
  | nil => exact List.length_eq_zero_iff.mp (Nat.le_zero.mp h)
  | cons a l ih =>
    apply ih
    rw [List.length_tail]
    exact Nat.sub_le_of_le_add h

theorem holds_foldl_lettingGo (s : Session) : (s.lettingGo.foldl without s).holds = [] := by
  have hrecords : s.records.names.foldl (fun u name => u.without (.drop name)) s =
      { s with records := s.records.names.foldl Table.erase s.records } :=
    List.foldl_hom (fun records => { s with records := records }) fun _ _ => rfl
  have harguments (u : Session) :
      s.arguments.names.foldl (fun u name => u.without (.dropArguments name)) u =
        { u with arguments := s.arguments.names.foldl Table.erase u.arguments } :=
    List.foldl_hom (fun arguments => { u with arguments := arguments }) fun _ _ => rfl
  have hloans (u : Session) : s.loans.foldl (fun u _ => u.without .endLoan) u =
      { u with loans := s.loans.foldl (fun loans _ => loans.tail) u.loans } :=
    List.foldl_hom (fun loans => { u with loans := loans }) fun _ _ => rfl
  rw [lettingGo, List.foldl_append, List.foldl_append, List.foldl_map, List.foldl_map,
    List.foldl_map, hrecords, harguments, hloans, holds, Table.toList_foldl_erase_names,
    Table.toList_foldl_erase_names, foldl_tail _ _ (Nat.le_refl _)]
  rfl

/-- What is in the session apart from the store and the holds of the client stays. -/
theorem operators_foldl_without (s : Session) (calls : List Call) :
    (calls.foldl without s).operators = s.operators := by
  induction calls generalizing s with
  | nil => rfl
  | cons call calls ih =>
    rw [List.foldl_cons, ih]
    cases call <;> rfl

/-! ## Leaks -/

/-- References lead to it from something that the client holds. -/
def Reaches (s : Session) (ref : Ref) : Prop := s.store.Reached s.holds ref

/-- Whatever the client reaches is there. What is there without being reached is reached from a
cycle of references. When the client lets go of all that it holds, its operators stay as they are,
and unless there are cycles nothing is left in the store. -/
theorem only_cycles_leak (hs : s.Reachable digest) :
    (∀ ref, s.Reaches ref → s.store.Live ref) ∧
    (∀ ref, s.store.Live ref → ¬ s.Reaches ref →
      ∃ q, s.store.OnCycle q ∧ ReflTransGen s.store.Refers (.record q) ref) ∧
    (∀ calls, (∀ call ∈ calls, call.letsGo = true) →
      (s.runBy digest calls).operators = s.operators ∧
      ((∀ q, ¬ s.store.OnCycle q) → (s.runBy digest calls).holds = [] →
        ∀ ref, ¬ (s.runBy digest calls).store.Live ref)) ∧
    (∀ call ∈ s.lettingGo, call.letsGo = true) ∧ (s.runBy digest s.lettingGo).holds = [] := by
  have hsound := sound_of_reachable hs
  refine ⟨fun ref => hsound.balanced.live_of_reached,
    fun ref => hsound.balanced.exists_onCycle, ?_, fun call => letsGo_of_mem_lettingGo, ?_⟩
  · intro calls hcalls
    obtain ⟨store, hstore, hrun⟩ := runBy_of_letsGo digest s hcalls
    refine ⟨?_, ?_⟩
    · rw [hrun]
      exact operators_foldl_without s calls
    · intro hacyclic hnone ref hl
      have hbalanced := (hsound.runBy calls).balanced
      rw [hnone] at hbalanced
      have hsub : (s.runBy digest calls).store.Refers ≤ s.store.Refers := by
        rw [hrun]
        exact hstore
      obtain ⟨root, hroot, -⟩ :=
        hbalanced.reached_of_live (fun q hq => hacyclic q (hq.mono hsub)) hl
      cases hroot
  · obtain ⟨store, -, hrun⟩ := runBy_of_letsGo digest s fun call (hm : call ∈ s.lettingGo) =>
      letsGo_of_mem_lettingGo hm
    rw [hrun]
    exact holds_foldl_lettingGo s

/-- The calls of a client that ties the sample's records into a cycle and forgets them. -/
def forgettingCalls : List Call :=
  [.set "first" "i" (.scope "second"), .set "second" "i" (.scope "first"), .drop "first",
    .drop "second", .dropArguments "args"]

def forgettingSample : Session := sample.runBy (fun _ => []) forgettingCalls

theorem reachable_forgettingSample : forgettingSample.Reachable fun _ => [] :=
  reachable_sample.runBy forgettingCalls

theorem only_cycles_leak_sample :
    (∃ q, forgettingSample.store.OnCycle q ∧
      ReflTransGen forgettingSample.store.Refers (.record q) (.record ⟨0⟩)) ∧
    (sample.store.Live (.record ⟨0⟩) ∧ sample.operators.get? "next" = some sampleOperator) ∧
    (sample.runBy (fun _ => []) sample.lettingGo).operators.get? "next" = some sampleOperator ∧
    ∀ ref, ¬ (sample.runBy (fun _ => []) sample.lettingGo).store.Live ref := by
  have hforgotten : forgettingSample.holds = [] := by cbv
  have hlive : forgettingSample.store.Live (.record ⟨0⟩) := by cbv
  have hunreached : ¬ forgettingSample.Reaches (.record ⟨0⟩) := by
    rintro ⟨root, hroot, -⟩
    rw [hforgotten] at hroot
    cases hroot
  have hrefs : sample.store.refs = [.arguments ⟨0⟩, .arguments ⟨0⟩] := by cbv
  have hacyclic : ∀ q, ¬ sample.store.OnCycle q := by
    intro q hq
    obtain ⟨x, -, hlast⟩ := Relation.TransGen.tail'_iff.mp hq
    have hm := Store.mem_refs_iff.mpr ⟨x, hlast⟩
    rw [hrefs] at hm
    simp at hm
  obtain ⟨-, hcycles, -⟩ := only_cycles_leak reachable_forgettingSample
  obtain ⟨-, -, hletsGo, hcalls, hnone⟩ := only_cycles_leak reachable_sample
  obtain ⟨hoperators, hempty⟩ := hletsGo sample.lettingGo hcalls
  refine ⟨hcycles _ hlive hunreached, ⟨by cbv, operator_sample⟩, ?_, hempty hacyclic hnone⟩
  rw [hoperators]
  exact operator_sample

end Session

end LoopScope
