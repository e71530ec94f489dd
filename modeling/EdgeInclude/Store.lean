import EdgeInclude.Scope

/-!
# Stores

The variables of levels. Each level has a cell, which is empty while the level is
planned and is sealed with the variables that planning leaves. What belongs to
the level holds its cell instead of its variables, and reads it later. A cell is
sealed once; after that it never changes.

A model of `document::Scope`, a variable that is set once and shared by what a
level leaves for later.

Results:
* `get?_allocate`: a new cell is empty, and allocating it changes no other.
* `get?_fill`: sealing an empty cell fills it, and changes no other.
* `get?_fill_of_sealed`: a sealed cell stays as it is.
-/

namespace EdgeInclude

/-- A place for the variables of a level (`document::Scope`). -/
structure Cell where
  index : Nat
  deriving DecidableEq

/-- The cells that have been allocated, with the variables of those that are sealed. -/
structure Store where
  cells : List (Option Scope)

namespace Store

/-- The store without cells. -/
def empty : Store := ⟨[]⟩

/-- The variables in a cell, if it has been sealed. -/
def get? (s : Store) (cell : Cell) : Option Scope := s.cells[cell.index]?.join

/-- The cell that is allocated next. -/
def nextCell (s : Store) : Cell := ⟨s.cells.length⟩

/-- The store with one more cell, which is empty. -/
def allocate (s : Store) : Store := ⟨s.cells ++ [none]⟩

/-- Seals a cell with variables, unless it has been sealed before (`Task::seal_scope`). -/
def fill (s : Store) (cell : Cell) (scope : Scope) : Store :=
  if (s.get? cell).isSome then s else ⟨s.cells.set cell.index (some scope)⟩

/-- An empty layer over the variables in a cell, or over nothing as long as it is empty (the child
    that `Processor::fetch_include` and `Processor::try_block` take of the sealed scope). -/
def child (s : Store) (cell : Cell) : Scope :=
  match s.get? cell with
  | some scope => scope.child
  | none => Scope.empty

theorem get?_nextCell (s : Store) : s.get? s.nextCell = none := by
  simp [get?, nextCell]

theorem get?_allocate (s : Store) (cell : Cell) : s.allocate.get? cell = s.get? cell := by
  by_cases h : cell.index < s.cells.length
  · rw [get?, allocate, List.getElem?_append_left h, get?]
  · have hnone : ([none] : List (Option Scope))[cell.index - s.cells.length]?.join = none := by
      cases cell.index - s.cells.length <;> rfl
    rw [get?, allocate, List.getElem?_append_right (Nat.le_of_not_lt h), hnone, get?,
      List.getElem?_eq_none (Nat.le_of_not_lt h)]
    rfl

theorem get?_fill {s : Store} {cell : Cell} (hcell : cell.index < s.cells.length)
    (hempty : s.get? cell = none) (scope : Scope) (other : Cell) :
    (s.fill cell scope).get? other = if other = cell then some scope else s.get? other := by
  rw [fill, hempty, if_neg (by simp)]
  by_cases h : other = cell
  · rw [if_pos h, h, get?, List.getElem?_set_self hcell]
    rfl
  · have hindex : cell.index ≠ other.index := by
      intro heq
      apply h
      obtain ⟨index⟩ := other
      exact congrArg Cell.mk heq.symm
    rw [if_neg h, get?, List.getElem?_set_ne hindex, get?]

theorem get?_fill_of_sealed {s : Store} {cell : Cell} {scope : Scope}
    (h : s.get? cell = some scope) (other : Cell) (later : Scope) :
    (s.fill other later).get? cell = some scope := by
  unfold fill
  split
  · exact h
  · next hother =>
    have hne : other.index ≠ cell.index := by
      intro heq
      apply hother
      rw [get?, heq, ← get?, h]
      rfl
    rw [get?, List.getElem?_set_ne hne, ← get?, h]

theorem child_of_get? {s : Store} {cell : Cell} {scope : Scope} (h : s.get? cell = some scope) :
    s.child cell = scope.child := by
  rw [child, h]

end Store

end EdgeInclude
