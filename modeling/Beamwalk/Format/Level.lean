/-
Module: Beamwalk.Format.Level
Purpose: Groups, cells, budgets and blueprints as JSON.
Main exports: Format.groupSet, Format.cellKind, Format.budgets, Format.blueprint and their writers
-/
import Beamwalk.Hazard.Order
import Beamwalk.Json.Reader
import Beamwalk.Json.Value
import Beamwalk.Level.Blueprint

namespace Beamwalk.Format

open Json (Reader Source ReadError mismatch)
open Json.Reader

/-! ### Directions and groups -/

/-- The names of the directions. -/
def directionNames : List (String × Direction) :=
  [("north", .north), ("east", .east), ("south", .south), ("west", .west)]

/-- Read a direction. -/
def direction : Reader Direction := name directionNames

/-- The name of a direction. -/
def directionName : Direction → String
  | .north => "north"
  | .east => "east"
  | .south => "south"
  | .west => "west"

/-- The names of the groups. -/
def groupNames : List (String × Group) := [("red", .red), ("blue", .blue), ("green", .green)]

/-- Read a group. -/
def group : Reader Group := name groupNames

/-- The name of a group. -/
def groupName : Group → String
  | .red => "red"
  | .blue => "blue"
  | .green => "green"

/-- Read a set of groups: a list that names at least one. -/
def groupSet : Reader GroupSet := fun source node =>
  match list group source node with
  | .error e => .error e
  | .ok groups =>
      match GroupSet.ofGroups? groups with
      | some set => .ok set
      | none => refuse .noGroups

/-- Several groups. -/
def writeGroups (groups : List Group) : Json := .strings (groups.map groupName)

/-- A set of groups. -/
def writeGroupSet (set : GroupSet) : Json := writeGroups set.toList

/-- Read the states of the three groups. -/
def switches : Reader Switches := fun source node =>
  (triple bool source node).map fun (red, blue, green) => ⟨red, blue, green⟩

/-- The states of the three groups. -/
def writeSwitches (s : Switches) : Json := .array (s.toList.map .bool)

/-- Read an order of precedence. -/
def groupOrder : Reader GroupOrder := fun source node =>
  (triple group source node).map fun (first, second, third) => ⟨[first, second, third]⟩

/-! ### Cells -/

/-- Read the content of a cell. -/
def cellKind : Reader CellKind :=
  oneOf [
    ("empty", .unit .empty),
    ("coin", .unit .coin),
    ("start_facing", .value (map CellKind.start direction)),
    ("horizontal_hazard_source", .value (map CellKind.horizontalSource group)),
    ("vertical_hazard_source", .value (map CellKind.verticalSource group)),
    ("toggle_button", .value (map CellKind.button groupSet))]

/-- The content of a cell. -/
def writeCellKind : CellKind → Json
  | .empty => .string "empty"
  | .coin => .string "coin"
  | .start facing => .object [("start_facing", .string (directionName facing))]
  | .horizontalSource g => .object [("horizontal_hazard_source", .string (groupName g))]
  | .verticalSource g => .object [("vertical_hazard_source", .string (groupName g))]
  | .button set => .object [("toggle_button", writeGroupSet set)]

/-! ### Budgets -/

/-- Read a count. -/
def count : Reader Count := map (fun n => ⟨n.val, n.property⟩) (natBelow Count.limit "u32")

/-- A count. -/
def writeCount (count : Count) : Json := .nat count.val

/-- Read a cap: a number, or `null` for none. -/
def budget : Reader Budget := fun source node =>
  (option count source node).map fun
    | some max => .limited max
    | none => .unlimited

/-- A cap. -/
def writeBudget : Budget → Json
  | .unlimited => .null
  | .limited max => writeCount max

/-- Budgets while they are read. -/
structure BudgetsDraft where
  jumps : Option Budget := none
  loops : Option Budget := none
  turns : Option Budget := none
deriving Repr, Inhabited, DecidableEq

/-- The three caps, all of which may be absent. -/
def budgetSlots : List (Slot BudgetsDraft) := [
  slot "max_jumps" false budget (·.jumps) fun draft value => { draft with jumps := some value },
  slot "max_loop_blocks" false budget (·.loops)
    fun draft value => { draft with loops := some value },
  slot "max_turns" false budget (·.turns) fun draft value => { draft with turns := some value }]

/-- An absent cap is no cap. -/
def BudgetsDraft.finish (draft : BudgetsDraft) : Budgets where
  jumps := draft.jumps.getD .unlimited
  loops := draft.loops.getD .unlimited
  turns := draft.turns.getD .unlimited

/-- Read the caps of a level. -/
def budgets : Reader Budgets :=
  record "struct Budgets" budgetSlots {} fun draft => .ok draft.finish

/-- The fields of the caps. -/
def budgetFields (b : Budgets) : List (String × Json) :=
  [("max_jumps", writeBudget b.jumps), ("max_loop_blocks", writeBudget b.loops),
    ("max_turns", writeBudget b.turns)]

/-! ### Blueprints

The caps of a level stand among its own fields.  A reader of levels takes its
own fields as they come and buffers the others; when the object has been read,
the caps are looked for in the buffer.
-/

/-- A blueprint while it is read. -/
structure BlueprintDraft where
  name : Option (Option String) := none
  rows : Option (List String) := none
  enabled : Option Switches := none
deriving Repr, Inhabited, DecidableEq

/-- The fields of a level that are its own. -/
def blueprintSlots : List (Slot BlueprintDraft) := [
  slot "name" false (option string) (·.name) fun draft value => { draft with name := some value },
  slot "rows" true (list string) (·.rows) fun draft value => { draft with rows := some value },
  slot "hazards_enabled" false switches (·.enabled)
    fun draft value => { draft with enabled := some value }]

/-- Take the own fields of a level into a draft and buffer the others. -/
def fillBlueprint (source : Source) :
    List (Option String × Node) → BlueprintDraft →
      Except ReadError (BlueprintDraft × List (Option String × Node))
  | [], draft => .ok (draft, [])
  | (none, _) :: _, _ => malformed
  | (some key, value) :: rest, draft =>
      match blueprintSlots.find? (·.name = key) with
      | some slot =>
          if slot.isFilled draft then refuse (.duplicateField key)
          else
            match slot.fill source value draft with
            | .error e => .error e
            | .ok draft => fillBlueprint source rest draft
      | none =>
          match toBuffer source value with
          | .error e => .error e
          | .ok () =>
              (fillBlueprint source rest draft).map fun (draft, fields) =>
                (draft, (some key, value) :: fields)

/-- Read a blueprint. -/
def blueprint : Reader Blueprint
  | source, .object fields closed =>
      match fillBlueprint source fields {} with
      | .error e => .error e
      | .ok (draft, others) =>
          if !closed then malformed
          else
            match need "rows" draft.rows with
            | .error e => .error e
            | .ok rows =>
                match fillFields budgetSlots .buffer others {} with
                | .error e => .error e
                | .ok caps =>
                    .ok {
                      name := draft.name.getD none
                      rows := rows
                      enabled := draft.enabled.getD .allOff
                      budgets := caps.finish }
  | _, .misKeyed => malformed
  | _, node => .error (mismatch "struct LevelSource" node)

/-- A blueprint.  A level without a name has no field for it. -/
def writeBlueprint (b : Blueprint) : Json :=
  .object (
    (b.name.map fun name => ("name", Json.string name)).toList
      ++ [("rows", .strings b.rows), ("hazards_enabled", writeSwitches b.enabled)]
      ++ budgetFields b.budgets)

end Beamwalk.Format
