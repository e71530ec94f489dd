import EdgeInclude.Value

/-!
# Scopes

The variables that a document can see. A scope is a layer of its own bindings
over the layers that enclose it. Lookups go outwards through the layers, and
bindings are only ever made in the innermost one, so a scope that is grown from
another one reads everything the other could and changes nothing in it.

A model of `variables::Variables`.

Results:

* `get?_child`, `get?_insert`: what each operation does to a lookup.
* `outer_insert`, `outer_child`: the layers around are never written.
* `restoreOwn_removeOwn`: a binding that is taken away can be put back.
-/

namespace EdgeInclude

/-- A layer of bindings. -/
abbrev Layer := Text → Option Value

namespace Layer

/-- The layer without bindings. -/
def empty : Layer := fun _ => none

/-- The layer with the binding of one name replaced. -/
def set (layer : Layer) (name : Text) (binding : Option Value) : Layer :=
  fun other => if other = name then binding else layer other

@[simp] theorem set_same (layer : Layer) (name : Text) (binding : Option Value) :
    layer.set name binding name = binding := if_pos rfl

theorem set_of_ne {layer : Layer} {name other : Text} {binding : Option Value}
    (h : other ≠ name) : layer.set name binding other = layer other := if_neg h

@[simp] theorem set_set (layer : Layer) (name : Text) (a b : Option Value) :
    (layer.set name a).set name b = layer.set name b := by
  funext other
  by_cases h : other = name <;> simp [set, h]

@[simp] theorem set_eq_self (layer : Layer) (name : Text) :
    layer.set name (layer name) = layer := by
  funext other
  by_cases h : other = name <;> simp [set, h]

end Layer

/-- A layer of own bindings over the enclosing layers, the nearest first
    (`variables::Variables`). -/
structure Scope where
  own : Layer
  outer : List Layer

namespace Scope

/-- The scope without bindings (`Variables::new`). -/
def empty : Scope := ⟨Layer.empty, []⟩

/-- The value of a name: that of the innermost layer that binds it (`Variables::get`). -/
def get? (s : Scope) (name : Text) : Option Value :=
  (s.own :: s.outer).findSome? fun layer => layer name

/-- The value of a name, or of the part of it under a key (`EvalContext::lookup`). What is missing
    is null. -/
def lookup (s : Scope) (name : Text) (key : Option Text) : Value :=
  match s.get? name, key with
  | some value, none => value
  | some value, some key => (value.field? key).getD .null
  | none, _ => .null

/-- Whether a name is bound in the innermost layer (`Variables::contains_local`). -/
def hasOwn (s : Scope) (name : Text) : Bool := (s.own name).isSome

/-- Binds a name in the innermost layer, to null as well. -/
def bind (s : Scope) (name : Text) (value : Value) : Scope :=
  { s with own := s.own.set name (some value) }

/-- Binds a name in the innermost layer (`Variables::insert`). Inserting null changes nothing. -/
def insert (s : Scope) (name : Text) (value : Value) : Scope :=
  if value.isNull then s else s.bind name value

/-- Takes the binding of a name out of the innermost layer (`Variables::remove_local`). -/
def removeOwn (s : Scope) (name : Text) : Scope := { s with own := s.own.set name none }

/-- Gives a name in the innermost layer the binding that it once had
    (`Variables::restore_local`). -/
def restoreOwn (s : Scope) (name : Text) (binding : Option Value) : Scope :=
  { s with own := s.own.set name binding }

/-- An empty layer over the scope as it is now (`Variables::child`). -/
def child (s : Scope) : Scope := ⟨Layer.empty, s.own :: s.outer⟩

/-- The scope with the given bindings inserted, in order (`Variables::from_iter`). -/
def ofEntries (entries : List (Text × Value)) : Scope :=
  entries.foldl (fun s entry => s.insert entry.1 entry.2) empty

/-- The scope with exactly the given bindings, null included. -/
def ofBindings (entries : List (Text × Value)) : Scope :=
  entries.foldl (fun s entry => s.bind entry.1 entry.2) empty

/-! ## Lookups -/

@[simp] theorem get?_child (s : Scope) (name : Text) : s.child.get? name = s.get? name := rfl

theorem get?_bind (s : Scope) (name other : Text) (value : Value) :
    (s.bind name value).get? other = if other = name then some value else s.get? other := by
  by_cases h : other = name <;> simp [get?, bind, Layer.set, h, List.findSome?_cons]

theorem get?_insert (s : Scope) (name other : Text) (value : Value) :
    (s.insert name value).get? other =
      if other = name ∧ value.isNull = false then some value else s.get? other := by
  unfold insert
  cases value.isNull <;> simp [get?_bind]

theorem own_insert (s : Scope) (name other : Text) (value : Value) :
    (s.insert name value).own other =
      if other = name ∧ value.isNull = false then some value else s.own other := by
  unfold insert
  cases value.isNull <;> simp [bind, Layer.set]

@[simp] theorem outer_insert (s : Scope) (name : Text) (value : Value) :
    (s.insert name value).outer = s.outer := by
  unfold insert
  split <;> rfl

@[simp] theorem outer_child (s : Scope) : s.child.outer = s.own :: s.outer := rfl

theorem restoreOwn_removeOwn (s : Scope) (name : Text) :
    (s.removeOwn name).restoreOwn name (s.own name) = s := by
  simp [removeOwn, restoreOwn]

end Scope

end EdgeInclude
