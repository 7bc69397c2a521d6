/-!
# Slot layouts

A schema lays out the scope of a loop header: slot 0 links to the enclosing scope and the later
slots hold the bindings that the header declares. `Layout.firstDefect?` looks for the first thing
wrong with a list of slots, and `Layout.Valid` says which lists have nothing wrong with them.
-/
namespace LoopScope

inductive SlotKind
  /-- A reference to the record of the enclosing scope. -/
  | parentLink
  | letBinding
  | constBinding
deriving DecidableEq, Repr

/-- The name of a kind in diagnostics. -/
def SlotKind.label : SlotKind → String
  | parentLink => "ParentLink"
  | letBinding => "Let"
  | constBinding => "Const"

structure Slot where
  name : String
  /-- The number that scope resolution gave the binding; a parent link has none. -/
  bindingId : Option UInt32
  kind : SlotKind
deriving DecidableEq, Repr

namespace Slot

/-- The usual slot 0. -/
def parent : Slot := ⟨"<parent>", none, .parentLink⟩

def binding (name : String) (id : UInt32) (kind : SlotKind) : Slot := ⟨name, some id, kind⟩

end Slot

/-- What can be wrong with a list of slots. -/
inductive SchemaError
  | empty
  | missingParentLink (name : String) (found : SlotKind)
  | misplacedParentLink (index : Nat)
  | duplicateBinding (name : String)
deriving DecidableEq, Repr

namespace SchemaError

def code : SchemaError → String
  | empty => "FE-ITER-0101"
  | missingParentLink _ _ => "FE-ITER-0102"
  | misplacedParentLink _ => "FE-ITER-0103"
  | duplicateBinding _ => "FE-ITER-0104"

def message : SchemaError → String
  | empty => "scope schema has no slots"
  | missingParentLink name found =>
    "slot 0 must be the parent link, found " ++ found.label ++ " '" ++ name ++ "'"
  | misplacedParentLink index =>
    "parent link declared at slot " ++ toString index ++ "; only slot 0 may hold it"
  | duplicateBinding name => "binding '" ++ name ++ "' declared twice in one loop header"

end SchemaError

namespace Layout

/-- The first defect among slots that start at `index`, after bindings with the names `seen`. -/
def firstBindingDefect? (seen : List String) (index : Nat) : List Slot → Option SchemaError
  | [] => none
  | slot :: rest =>
    if slot.kind = .parentLink then some (.misplacedParentLink index)
    else if slot.name ∈ seen then some (.duplicateBinding slot.name)
    else firstBindingDefect? (slot.name :: seen) (index + 1) rest

/-- The first defect of a whole list. The name of slot 0 is free. -/
def firstDefect? : List Slot → Option SchemaError
  | [] => some .empty
  | first :: rest =>
    if first.kind = .parentLink then firstBindingDefect? [] 1 rest
    else some (.missingParentLink first.name first.kind)

/-- A parent link at slot 0 and nowhere else, and no two bindings of one name. -/
def Valid : List Slot → Prop
  | [] => False
  | first :: rest =>
    first.kind = .parentLink ∧ (∀ slot ∈ rest, slot.kind ≠ .parentLink) ∧
      (rest.map Slot.name).Nodup

end Layout

end LoopScope
