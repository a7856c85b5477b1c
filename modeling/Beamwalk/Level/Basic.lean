/-
Module: Beamwalk.Level.Basic
Purpose: Playable levels and the reasons why a level is not playable.
Main exports: LevelError, LevelError.message, Level, Level.flaw?, Level.ofGrid,
  Level.coinCount
-/
import Beamwalk.Grid
import Beamwalk.Roster
import Beamwalk.Level.Budget
import Beamwalk.Level.Cell
import Beamwalk.Text.Quoted

namespace Beamwalk

/-- Why a drawing is no level. -/
inductive LevelError where
  /-- There is no cell at all. -/
  | empty
  /-- A row is not as long as the first one. -/
  | ragged (row expected found : Nat)
  /-- A symbol is not in the legend. -/
  | unknownSymbol (symbol : Char) (pos : Pos)
  | noStart
  | tooManyStarts (found max : Nat)
deriving Repr, Inhabited, DecidableEq

namespace LevelError

/-- The sentence shown to the author of the level. -/
def message : LevelError → String
  | .empty => "level has no rows"
  | .ragged row expected found => s!"row {row} has {found} cells, expected {expected}"
  | .unknownSymbol symbol pos =>
      s!"unknown cell symbol {Text.quoteChar symbol} at {pos.text}"
  | .noStart => "level has no start marker"
  | .tooManyStarts found max =>
      s!"level has {found} start markers, at most {max} actors are supported"

end LevelError

/-- The number of coins on a grid. -/
def Grid.coins (cells : Grid CellKind) : Nat := cells.count (· == .coin)

/-- The number of start markers on a grid. -/
def Grid.starts (cells : Grid CellKind) : Nat := cells.count CellKind.isStart

/-- A level that can be played: it has cells, and its start markers are at
least one and no more than the roster can serve. -/
structure Level where
  name : Option String
  cells : Grid CellKind
  /-- The groups that are on when a run starts. -/
  enabled : Switches
  budgets : Budgets
  width_ne_zero : cells.width ≠ 0
  height_ne_zero : cells.height ≠ 0
  starts_ne_zero : cells.starts ≠ 0
  starts_le : cells.starts ≤ roster.length
deriving Repr, DecidableEq

namespace Level

/-- The first reason against a grid of a size with so many start markers. -/
def flaw? (width height starts : Nat) : Option LevelError :=
  if height = 0 ∨ width = 0 then some .empty
  else if starts = 0 then some .noStart
  else if roster.length < starts then some (.tooManyStarts starts roster.length)
  else none

theorem flaw?_eq_none_iff {width height starts : Nat} :
    flaw? width height starts = none ↔
      width ≠ 0 ∧ height ≠ 0 ∧ starts ≠ 0 ∧ starts ≤ roster.length := by
  unfold flaw?
  split
  · next hempty => simp; omega
  · next hempty =>
    split
    · next hnone => simp [hnone]
    · next hnone =>
      split
      · next hmany => simp; omega
      · next hmany => simp; omega

/-- The level without a name on a grid, or the first reason against it. -/
def ofGrid (cells : Grid CellKind) (enabled : Switches) (budgets : Budgets) :
    Except LevelError Level :=
  match h : flaw? cells.width cells.height cells.starts with
  | some flaw => .error flaw
  | none =>
    have sound := flaw?_eq_none_iff.1 h
    .ok {
      name := none
      cells := cells
      enabled := enabled
      budgets := budgets
      width_ne_zero := sound.1
      height_ne_zero := sound.2.1
      starts_ne_zero := sound.2.2.1
      starts_le := sound.2.2.2 }

/-- The number of coins to be eaten. -/
def coinCount (level : Level) : Nat := level.cells.coins

end Level

end Beamwalk
