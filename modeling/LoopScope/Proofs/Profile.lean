import LoopScope.Profile
import Mathlib.Order.Basic
/-!
# The order of profiles

A profile is below another one if less has been seen in it. To observe a kind is to go to the least
profile above both what was there and the profile of that kind alone. So observing never goes back,
and what a sequence of kinds amounts to is told by the set of its kinds.
-/
namespace LoopScope.Profile

variable {p q : Profile} {kind k : ValueKind} {kinds kinds' : List ValueKind}

/-! ## The order -/

instance : PartialOrder Profile where
  le p q := p = q ∨ p.rank < q.rank
  le_refl _ := .inl rfl
  le_trans p q r hpq hqr := by
    rcases hpq with rfl | hpq
    · exact hqr
    · rcases hqr with rfl | hqr
      · exact .inr hpq
      · exact .inr (Nat.lt_trans hpq hqr)
  le_antisymm p q hpq hqp := by
    rcases hpq with rfl | hpq
    · rfl
    · rcases hqp with rfl | hqp
      · rfl
      · exact (Nat.lt_asymm hpq hqp).elim

theorem le_iff : p ≤ q ↔ p = q ∨ p.rank < q.rank := Iff.rfl

theorem uninitialized_le (p : Profile) : uninitialized ≤ p := by
  cases p with
  | uninitialized => exact le_rfl
  | monomorphic k => exact .inr Nat.zero_lt_one
  | generic => exact .inr Nat.zero_lt_two

theorem le_uninitialized_iff : p ≤ uninitialized ↔ p = uninitialized :=
  (uninitialized_le p).ge_iff_eq'

theorem le_generic (p : Profile) : p ≤ generic := by
  cases p with
  | uninitialized => exact uninitialized_le _
  | monomorphic k => exact .inr Nat.one_lt_two
  | generic => exact le_rfl

theorem generic_le_iff : generic ≤ p ↔ p = generic :=
  (le_generic p).ge_iff_eq

theorem monomorphic_le_iff : monomorphic k ≤ p ↔ p = monomorphic k ∨ p = generic := by
  cases p with
  | uninitialized => simp [le_iff, rank]
  | monomorphic seen => simp [le_iff, rank, eq_comm]
  | generic => simp [le_generic]

theorem uninitialized_lt_monomorphic (k : ValueKind) : uninitialized < monomorphic k :=
  lt_of_le_of_ne (uninitialized_le _) nofun

theorem monomorphic_lt_generic (k : ValueKind) : monomorphic k < generic :=
  lt_of_le_of_ne (le_generic _) nofun

/-! ## Observing -/

/-- What is above the profile after a kind is above the profile before and above the kind alone. -/
theorem observe_le_iff : p.observe kind ≤ q ↔ p ≤ q ∧ monomorphic kind ≤ q := by
  cases p with
  | uninitialized => simp [observe, uninitialized_le]
  | monomorphic seen =>
    by_cases hsame : seen = kind
    · simp [observe, hsame]
    · -- Nothing but the mixture is above two kinds.
      have hgeneric : (monomorphic seen).observe kind = generic := if_neg hsame
      rw [hgeneric, generic_le_iff, monomorphic_le_iff, monomorphic_le_iff]
      constructor
      · rintro rfl
        exact ⟨.inr rfl, .inr rfl⟩
      · rintro ⟨rfl | rfl, hkind⟩
        · simp [hsame] at hkind
        · rfl
  | generic =>
    rw [observe, generic_le_iff]
    constructor
    · rintro rfl
      exact ⟨rfl, le_generic _⟩
    · exact And.left

theorem observeAll_le_iff :
    p.observeAll kinds ≤ q ↔ p ≤ q ∧ ∀ kind ∈ kinds, monomorphic kind ≤ q := by
  induction kinds generalizing p with
  | nil => simp
  | cons kind kinds ih => rw [observeAll_cons, ih, observe_le_iff, List.forall_mem_cons, and_assoc]

theorem le_observeAll (p : Profile) (kinds : List ValueKind) : p ≤ p.observeAll kinds :=
  (observeAll_le_iff.mp le_rfl).1

theorem monomorphic_le_observeAll (p : Profile) (h : kind ∈ kinds) :
    monomorphic kind ≤ p.observeAll kinds :=
  (observeAll_le_iff.mp le_rfl).2 kind h

theorem observeAll_mono (p : Profile) (h : kinds ⊆ kinds') :
    p.observeAll kinds ≤ p.observeAll kinds' :=
  observeAll_le_iff.mpr ⟨p.le_observeAll kinds', fun _ hm => p.monomorphic_le_observeAll (h hm)⟩

/-- Only which kinds occur matters, and neither their order nor how often they do. -/
theorem observeAll_congr (p : Profile) (h : ∀ kind, kind ∈ kinds ↔ kind ∈ kinds') :
    p.observeAll kinds = p.observeAll kinds' :=
  le_antisymm (p.observeAll_mono fun kind => (h kind).mp) (p.observeAll_mono fun kind => (h kind).mpr)

theorem observe_comm (p : Profile) (a b : ValueKind) :
    (p.observe a).observe b = (p.observe b).observe a := by
  have hkinds (kind : ValueKind) : kind ∈ [a, b] ↔ kind ∈ [b, a] := by simp [or_comm]
  exact p.observeAll_congr hkinds

theorem le_of_mem_trail (h : q ∈ p.trail kinds) : p ≤ q := by
  induction kinds generalizing p with
  | nil => exact (List.mem_singleton.mp h).ge
  | cons kind kinds ih =>
    rcases List.mem_cons.mp h with rfl | hm
    · exact le_rfl
    · exact (p.le_observeAll [kind]).trans (ih hm)

/-- A profile never goes back. -/
theorem pairwise_trail (p : Profile) (kinds : List ValueKind) :
    (p.trail kinds).Pairwise (· ≤ ·) := by
  induction kinds generalizing p with
  | nil => exact List.pairwise_singleton _ _
  | cons kind kinds ih =>
    exact .cons (fun q hm => (p.le_observeAll [kind]).trans (le_of_mem_trail hm)) (ih _)

/-! ## What a sequence amounts to -/

theorem observeAll_eq_uninitialized_iff :
    uninitialized.observeAll kinds = uninitialized ↔ kinds = [] := by
  cases kinds with
  | nil => exact iff_of_true rfl rfl
  | cons kind kinds =>
    refine iff_of_false (fun h => ?_) (List.cons_ne_nil _ _)
    have hkind := uninitialized.monomorphic_le_observeAll (List.mem_cons_self : kind ∈ kind :: kinds)
    rw [h, le_uninitialized_iff] at hkind
    cases hkind

theorem observeAll_eq_monomorphic_iff :
    uninitialized.observeAll kinds = monomorphic k ↔ kinds ≠ [] ∧ ∀ kind ∈ kinds, kind = k := by
  constructor
  · intro h
    refine ⟨?_, fun kind hm => ?_⟩
    · rintro rfl
      cases h
    · have hkind := uninitialized.monomorphic_le_observeAll hm
      rw [h, monomorphic_le_iff] at hkind
      simpa [eq_comm] using hkind
  · rintro ⟨hne, hall⟩
    obtain ⟨first, hfirst⟩ := List.exists_mem_of_ne_nil kinds hne
    -- One kind, however often it occurs, is as good as the kind once.
    have hset (kind : ValueKind) : kind ∈ kinds ↔ kind ∈ [k] := by
      rw [List.mem_singleton]
      refine ⟨hall kind, ?_⟩
      rintro rfl
      exact hall first hfirst ▸ hfirst
    exact uninitialized.observeAll_congr hset

/-- A profile of one kind has seen no value of another. -/
theorem eq_of_monomorphic (h : uninitialized.observeAll kinds = monomorphic k) :
    ∀ kind ∈ kinds, kind = k :=
  (observeAll_eq_monomorphic_iff.mp h).2

theorem observeAll_eq_generic {a b : ValueKind} (ha : a ∈ kinds) (hb : b ∈ kinds) (hne : a ≠ b) :
    uninitialized.observeAll kinds = generic := by
  have hboth := uninitialized.monomorphic_le_observeAll hb
  rcases monomorphic_le_iff.mp (uninitialized.monomorphic_le_observeAll ha) with hone | hgeneric
  · rw [hone, monomorphic_le_iff] at hboth
    simp [hne] at hboth
  · exact hgeneric

/-- Kinds observed from the start amount to their summary. -/
theorem observeAll_eq_summary (kinds : List ValueKind) :
    uninitialized.observeAll kinds = summary kinds := by
  cases kinds with
  | nil => rfl
  | cons kind rest =>
    by_cases hall : rest.all (· == kind) = true
    · rw [summary, if_pos hall, observeAll_eq_monomorphic_iff]
      simpa using hall
    · obtain ⟨other, hm, hne⟩ : ∃ other ∈ rest, other ≠ kind := by simpa using hall
      rw [summary, if_neg hall]
      exact observeAll_eq_generic (List.mem_cons_of_mem _ hm) List.mem_cons_self hne

theorem observeAll_eq_generic_iff :
    uninitialized.observeAll kinds = generic ↔ ∃ a ∈ kinds, ∃ b ∈ kinds, a ≠ b := by
  constructor
  · intro h
    rw [observeAll_eq_summary] at h
    cases kinds with
    | nil => cases h
    | cons kind rest =>
      by_cases hall : rest.all (· == kind) = true
      · rw [summary, if_pos hall] at h
        cases h
      · obtain ⟨other, hm, hne⟩ : ∃ other ∈ rest, other ≠ kind := by simpa using hall
        exact ⟨other, List.mem_cons_of_mem _ hm, kind, List.mem_cons_self, hne⟩
  · rintro ⟨a, ha, b, hb, hne⟩
    exact observeAll_eq_generic ha hb hne

end LoopScope.Profile
