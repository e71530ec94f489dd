import EdgeInclude.Integer

/-!
# Values

What a variable holds and an expression yields: texts, integers, booleans,
lists, dictionaries and nothing at all.

A model of `variables::Value`.
-/

namespace EdgeInclude

/-- A value (`variables::Value`). The keys of a dictionary are distinct. -/
inductive Value where
  | string (s : Text)
  | integer (n : Int64)
  | boolean (b : Bool)
  | list (items : List Value)
  | dictionary (entries : List (Text × Value))
  | null

namespace Value

instance : Inhabited Value := ⟨null⟩

/-- Whether a value is the null value. -/
def isNull : Value → Bool
  | null => true
  | _ => false

/-- Whether a value counts as true (`Value::to_bool`). -/
def isTruthy : Value → Bool
  | string s => !s.isEmpty
  | integer n => n != 0
  | boolean b => b
  | list _ => true
  | dictionary _ => true
  | null => false

mutual

/-- The text that a value is shown as (the `Display` of `variables::Value`). A list is shown by its
    items with commas between them, a dictionary by nothing. -/
def display : Value → Text
  | string s => s
  | integer n => Integer.toText n
  | boolean true => ['t', 'r', 'u', 'e']
  | boolean false => ['f', 'a', 'l', 's', 'e']
  | list items => Text.joinWith [','] (displayAll items)
  | dictionary _ => []
  | null => []

/-- The texts that values are shown as. -/
def displayAll : List Value → List Text
  | [] => []
  | v :: vs => display v :: displayAll vs

end

/-- The part of a dictionary under a key, or of a list at a decimal index (`Value::subfield`). -/
def field? (key : Text) : Value → Option Value
  | dictionary entries => entries.lookup key
  | list items => (Integer.parseIndex? key).bind fun i => items[i]?
  | _ => none

theorem displayAll_eq_map (vs : List Value) : displayAll vs = vs.map display := by
  induction vs with
  | nil => rfl
  | cons v vs ih => rw [displayAll, ih, List.map_cons]

theorem isNull_iff {v : Value} : v.isNull = true ↔ v = null := by
  cases v <;> simp [isNull]

end Value

end EdgeInclude
