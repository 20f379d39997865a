import UtilityCss.Slot

/-!
# The variable store

A store binds names to lists of slots.  It keeps the order in which the names were first defined:
a new definition of a bound name takes the place of the old one, while a name that was removed and
defined again stands at the end.

The view of a store is `Store.slots?`; `Store.get?` and `Store.all` are its rendered forms.
-/

namespace UtilityCss

/-- Names with their slots, in the order of definition. -/
structure Store where
  bindings : List (Text × List Slot)
deriving DecidableEq, Repr

namespace Store

/-- The store that binds nothing. -/
def empty : Store := ⟨[]⟩

/-! ## Reading -/

/-- The slots of a name. -/
def slots? (store : Store) (name : Text) : Option (List Slot) := store.bindings.lookup name

/-- Is the name bound? -/
def contains (store : Store) (name : Text) : Bool := (store.slots? name).isSome

/-- The value of a name as text. -/
def get? (store : Store) (name : Text) : Option Text :=
  (store.slots? name).map (Slot.renderAll · none)

/-- The number of bound names. -/
def size (store : Store) : Nat := store.bindings.length

/-- Every bound name with its value as text, in the order of definition. -/
def all (store : Store) : List (Text × Text) :=
  store.bindings.map fun (name, slots) => (name, Slot.renderAll slots none)

/-! ## Writing -/

/-- Puts a binding in the place of the one with the same name, or at the end. -/
def place (name : Text) (slots : List Slot) : List (Text × List Slot) → List (Text × List Slot)
  | [] => [(name, slots)]
  | (other, old) :: rest =>
    if other = name then (name, slots) :: rest else (other, old) :: place name slots rest

/-- Binds a name to slots. -/
def bind (store : Store) (name : Text) (slots : List Slot) : Store :=
  ⟨place name slots store.bindings⟩

/-- Binds a name to values, each with the unit at its position. -/
def define (store : Store) (name : Text) (values : List Scalar) (units : List (Option Text)) :
    Store :=
  store.bind name (Slot.pair values units)

/-- Binds a name again, if it is bound; says whether it was. -/
def update (store : Store) (name : Text) (values : List Scalar) (units : List (Option Text)) :
    Bool × Store :=
  if store.contains name then (true, store.define name values units) else (false, store)

/-- Removes a binding; says whether there was one. -/
def remove (store : Store) (name : Text) : Bool × Store :=
  (store.contains name, ⟨store.bindings.filter (·.1 ≠ name)⟩)

end Store

end UtilityCss
