/-
Module: Beamwalk.Level.Blueprint
Purpose: Levels as their authors draw them: rows of symbols with settings.
Main exports: Blueprint, Blueprint.build
-/
import Beamwalk.Level.Basic

namespace Beamwalk

/-!
A blueprint is read row by row.  Of two defects the one in the earlier row is
reported; within a row an unknown symbol comes before a wrong length, and the
leftmost unknown symbol comes first.  Defects of the whole drawing are looked
for only when every row has been read.
-/

/-- A drawn level, not yet checked. -/
structure Blueprint where
  name : Option String := none
  /-- One text for each row, one character for each cell. -/
  rows : List String
  enabled : Switches := .allOff
  budgets : Budgets := {}
deriving Repr, Inhabited, DecidableEq

namespace Blueprint

/-- The cells of the symbols from column `col` of a row onwards. -/
def readSymbols (row : Nat) : (col : Nat) → List Char → Except LevelError (List CellKind)
  | _, [] => .ok []
  | col, symbol :: rest =>
      match CellKind.ofSymbol? symbol with
      | none => .error (.unknownSymbol symbol ⟨row, col⟩)
      | some kind => (readSymbols row (col + 1) rest).map (kind :: ·)

/-- The cells of the rows from number `row` onwards, all `expected` long. -/
def readRows (expected : Nat) :
    (row : Nat) → List String →
      Except LevelError { rows : List (List CellKind) // ∀ r ∈ rows, r.length = expected }
  | _, [] => .ok ⟨[], by simp⟩
  | row, line :: rest =>
      match readSymbols row 0 line.toList with
      | .error e => .error e
      | .ok cells =>
          if h : cells.length = expected then
            match readRows expected (row + 1) rest with
            | .error e => .error e
            | .ok ⟨rows, hrows⟩ =>
                .ok ⟨cells :: rows, by
                  intro r hr
                  rcases List.mem_cons.1 hr with rfl | hr
                  · exact h
                  · exact hrows r hr⟩
          else .error (.ragged row expected cells.length)

theorem rectangular_of_forall {n : Nat} {rows : List (List CellKind)}
    (h : ∀ r ∈ rows, r.length = n) : Grid.Rectangular rows := by
  intro r hr
  cases rows with
  | nil => simp at hr
  | cons first rest => simp [h r hr, h first (by simp)]

/-- The length that the first row sets for all. -/
def expectedWidth (b : Blueprint) : Nat := (b.rows.head?.map String.length).getD 0

/-- Read the drawing and check the level. -/
def build (b : Blueprint) : Except LevelError Level :=
  match readRows b.expectedWidth 0 b.rows with
  | .error e => .error e
  | .ok ⟨rows, h⟩ =>
      match Level.ofGrid (Grid.ofRows rows (rectangular_of_forall h)) b.enabled b.budgets with
      | .error e => .error e
      | .ok level => .ok { level with name := b.name }

end Blueprint

end Beamwalk
