import EdgeInclude.Scope
import EdgeInclude.Text.Quoted

/-!
# Libraries of functions

The functions that an expression may call, by name. A call either yields a
value, is refused with a message, or is broken off by a fault: arithmetic that
leaves the range of 64 bits, a part of a text that does not exist, or a
division by zero.

A model of `functions::FunctionRegistry`.

Results:

* `find?_register`: registering a name replaces what it stood for, and nothing
  else.
-/

namespace EdgeInclude

/-- What no function may do. A fault ends the processing of the whole document. -/
inductive Fault where
  | overflow
  | slice
  | division
  deriving DecidableEq, Repr

/-- Why a call yields no value. -/
inductive CallError where
  | refused (message : Text)
  | fault (f : Fault)
  deriving DecidableEq

/-- A library function (`functions::EsiFunction`). -/
abbrev Function := List Value → Except CallError Value

/-- Functions by name (`functions::FunctionRegistry`). -/
structure Library where
  entries : List (Text × Function)

namespace Library

/-- The library without functions (`FunctionRegistry::empty`). -/
def empty : Library := ⟨[]⟩

/-- Makes a name stand for a function, in place of the one it stood for before
    (`FunctionRegistry::register`). -/
def register (lib : Library) (name : Text) (function : Function) : Library :=
  ⟨(name, function) :: lib.entries.filter fun entry => entry.1 ≠ name⟩

/-- The function that a name stands for. -/
def find? (lib : Library) (name : Text) : Option Function := lib.entries.lookup name

/-- Whether a name stands for a function (`FunctionRegistry::contains`). -/
def contains (lib : Library) (name : Text) : Bool := (lib.find? name).isSome

/-- Calls a function by name (`FunctionRegistry::call`). -/
def call (lib : Library) (name : Text) (args : List Value) : Except CallError Value :=
  match lib.find? name with
  | some function => function args
  | none => .error (.refused ("unknown function: ".toList ++ name))

/-- The names of the functions in the order of their characters. -/
def names (lib : Library) : List Text :=
  (lib.entries.map Prod.fst).mergeSort Text.precedes

/-- A library described by its names (the `Debug` of `functions::FunctionRegistry`). -/
def describe (lib : Library) : Text :=
  "FunctionRegistry \x7b functions: [".toList ++
    Text.joinWith [',', ' '] (lib.names.map Text.quoted) ++ "] \x7d".toList

theorem find?_register (lib : Library) (name other : Text) (function : Function) :
    (lib.register name function).find? other =
      if other = name then some function else lib.find? other := by
  unfold register find?
  by_cases h : other = name
  · rw [if_pos h, h, List.lookup_cons_self]
  · rw [if_neg h, List.lookup_cons, beq_false_of_ne h]
    dsimp only
    induction lib.entries with
    | nil => rfl
    | cons entry rest ih =>
      obtain ⟨key, value⟩ := entry
      by_cases hk : key = name
      · rw [List.filter_cons_of_neg (by simpa using hk), List.lookup_cons,
          beq_false_of_ne (hk ▸ h)]
        exact ih
      · rw [List.filter_cons_of_pos (by simpa using hk), List.lookup_cons, List.lookup_cons, ih]

end Library

end EdgeInclude
