import LoopScope.Value
/-!
# Profiles

An accessor remembers which kinds of values it has moved: none yet, always the same one, or
several. `Profile.observe` adds a kind, and `Profile.summary` says what a whole sequence amounts
to.
-/
namespace LoopScope

inductive Profile
  /-- Nothing was observed. -/
  | uninitialized
  /-- All observed values were of this kind. -/
  | monomorphic (kind : ValueKind)
  /-- Two kinds or more were observed. -/
  | generic
deriving DecidableEq, Repr

namespace Profile

def observe (p : Profile) (kind : ValueKind) : Profile :=
  match p with
  | uninitialized => monomorphic kind
  | monomorphic seen => if seen = kind then p else generic
  | generic => generic

/-- Observes kinds in order. -/
def observeAll (p : Profile) (kinds : List ValueKind) : Profile :=
  kinds.foldl observe p

/-- The profile before the first kind and after each of them. -/
def trail (p : Profile) : List ValueKind → List Profile
  | [] => [p]
  | kind :: rest => p :: (p.observe kind).trail rest

/-- What a sequence of kinds amounts to, by the first kind and whether another one differs. -/
def summary : List ValueKind → Profile
  | [] => uninitialized
  | kind :: rest => if rest.all (· == kind) then monomorphic kind else generic

/-- How much has been seen: nothing, one kind, or several. -/
def rank : Profile → Nat
  | uninitialized => 0
  | monomorphic _ => 1
  | generic => 2

@[simp] theorem observeAll_nil (p : Profile) : p.observeAll [] = p := rfl

@[simp] theorem observeAll_cons (p : Profile) (kind : ValueKind) (kinds : List ValueKind) :
    p.observeAll (kind :: kinds) = (p.observe kind).observeAll kinds := rfl

theorem observeAll_append (p : Profile) (a b : List ValueKind) :
    p.observeAll (a ++ b) = (p.observeAll a).observeAll b :=
  List.foldl_append

end Profile

end LoopScope
