/-!
# Configuration

How an operator is set up: when it compares parent links, whether it logs every copy, and how
large a schema it takes.
-/
namespace LoopScope

/-- When a refresh makes sure that both records have one parent link. -/
inductive ParentLinkCheck
  /-- Only where debug checks are on. -/
  | debugOnly
  | always
  | never
deriving DecidableEq, Repr

/-- Whether the parent links are compared, given whether debug checks are on. -/
def ParentLinkCheck.enabled (debugChecks : Bool) : ParentLinkCheck → Bool
  | debugOnly => debugChecks
  | always => true
  | never => false

structure Config where
  parentLinkCheck : ParentLinkCheck
  /-- Whether successful copies are logged, and not failures only. -/
  traceCopies : Bool
  /-- The largest schema that an operator is built for. -/
  maxSlots : Nat
deriving DecidableEq, Repr

namespace Config

def default : Config := ⟨.debugOnly, false, 1024⟩

/-- Checks and logs everything. -/
def strict : Config := { default with parentLinkCheck := .always, traceCopies := true }

end Config

end LoopScope
