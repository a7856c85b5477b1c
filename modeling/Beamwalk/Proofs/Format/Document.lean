/-
Module: Beamwalk.Proofs.Format.Document
Purpose: Blueprints and programs are read back from what they are written as.
Main exports: Format.reads_blueprint, Format.reads_program
-/
import Beamwalk.Format.Program
import Beamwalk.Proofs.Json.Reads
import Beamwalk.Proofs.Program.Editing

namespace Beamwalk

/-- A count has fewer bits than the numbers that readers take. -/
theorem Count.lt_wordLimit (c : Count) : c.val < Numeral.wordLimit :=
  Nat.lt_of_lt_of_le c.lt_limit (by decide)

namespace Format

open Json (Buffers buffers_nat fieldNodes Source)
open Json.Reader

/-! ### Directions and groups -/

theorem reads_direction (d : Direction) : Reads direction (.string (directionName d)) d :=
  reads_name (by cases d <;> rfl)

theorem reads_group (g : Group) : Reads group (.string (groupName g)) g :=
  reads_name (by cases g <;> rfl)

theorem reads_groupSet (set : GroupSet) : Reads groupSet (writeGroupSet set) set := by
  intro source
  have hlist : list group source (writeGroupSet set).node = .ok set.toList := by
    rw [writeGroupSet, writeGroups, Json.strings, List.map_map]
    exact reads_list (fun g _ => reads_group g) source
  rw [groupSet, hlist]
  simp only [GroupSet.ofGroups?_toList]

theorem reads_switches (s : Switches) : Reads switches (writeSwitches s) s := by
  intro source
  have htriple : triple bool source (writeSwitches s).node = .ok (s.red, s.blue, s.green) :=
    reads_triple reads_bool source
  rw [switches, htriple]
  rfl

theorem buffers_writeGroupSet (set : GroupSet) (levels : Nat) :
    Buffers (levels + 1) (writeGroupSet set) := by
  simp [writeGroupSet, writeGroups, Json.strings]

theorem buffers_writeSwitches (s : Switches) (levels : Nat) :
    Buffers (levels + 1) (writeSwitches s) := by
  simp [writeSwitches, Switches.toList]

/-! ### Budgets -/

theorem reads_count (c : Count) : Reads count (writeCount c) c :=
  (reads_natBelow "u32" c.lt_wordLimit c.lt_limit).map
    fun n => (⟨n.val, n.property⟩ : Count)

theorem reads_budget (b : Budget) : Reads budget (writeBudget b) b := by
  intro source
  cases b with
  | unlimited =>
      rw [budget, writeBudget, reads_none source]
      rfl
  | limited max =>
      have hcount := (reads_count max).some (by simp [writeCount, Json.nat]) source
      rw [budget, writeBudget, hcount]
      rfl

theorem buffers_writeBudget {levels : Nat} (b : Budget) : Buffers levels (writeBudget b) := by
  cases b with
  | unlimited => simp [writeBudget]
  | limited max => exact buffers_nat max.lt_wordLimit

/-- The caps as they stand after all their fields. -/
theorem fills_budgetFields (b : Budgets) :
    Fills budgetSlots (budgetFields b) {} ⟨some b.jumps, some b.loops, some b.turns⟩ :=
  .slot (reads_budget b.jumps) rfl rfl <| .slot (reads_budget b.loops) rfl rfl <|
    .slot (reads_budget b.turns) rfl rfl .nil

theorem buffers_budgetFields (b : Budgets) :
    ∀ field ∈ budgetFields b, Buffers bufferLevels field.2 := by
  simp [budgetFields, buffers_writeBudget]

/-! ### Blueprints -/

theorem fieldNodes_append (front back : List (String × Json)) :
    fieldNodes (front ++ back) = fieldNodes front ++ fieldNodes back := by
  induction front with
  | nil => rfl
  | cons field front ih => simp only [List.cons_append, fieldNodes, ih]

variable {fields : List (String × Json)} {draft final : BlueprintDraft}

/-- The own fields of a level are taken as those of any record. -/
theorem fillBlueprint_own (h : Fills blueprintSlots fields draft final) (source : Source)
    (others : List (Option String × Node)) :
    fillBlueprint source (fieldNodes fields ++ others) draft =
      fillBlueprint source others final := by
  induction h with
  | nil => rfl
  | cons known unfilled fill rest ih =>
      simp only [fieldNodes, List.cons_append, fillBlueprint, known, unfilled, fill source, ih,
        Bool.false_eq_true, if_false]

/-- The other fields are kept for later. -/
theorem fillBlueprint_others (source : Source)
    (others : ∀ field ∈ fields, blueprintSlots.find? (·.name = field.1) = none)
    (buffered : ∀ field ∈ fields, Buffers bufferLevels field.2) :
    fillBlueprint source (fieldNodes fields) draft = .ok (draft, fieldNodes fields) := by
  induction fields with
  | nil => rfl
  | cons field fields ih =>
      rw [List.forall_mem_cons] at others buffered
      simp only [fieldNodes, fillBlueprint, others.1, toBuffer_node source buffered.1,
        ih others.2 buffered.2]
      rfl

/-- The own fields of a blueprint. -/
def ownFields (b : Blueprint) : List (String × Json) :=
  (b.name.map fun name => ("name", Json.string name)).toList
    ++ [("rows", .strings b.rows), ("hazards_enabled", writeSwitches b.enabled)]

theorem reads_strings (items : List String) : Reads (list string) (.strings items) items :=
  reads_list fun s _ => reads_string s

/-- A name is there or not; rows and switches always are. -/
theorem fills_ownFields (b : Blueprint) :
    Fills blueprintSlots (ownFields b) {} ⟨b.name.map some, some b.rows, some b.enabled⟩ := by
  have hrest {name : Option (Option String)} :
      Fills blueprintSlots
        [("rows", .strings b.rows), ("hazards_enabled", writeSwitches b.enabled)]
        ⟨name, none, none⟩ ⟨name, some b.rows, some b.enabled⟩ :=
    .slot (reads_strings b.rows) rfl rfl <| .slot (reads_switches b.enabled) rfl rfl .nil
  unfold ownFields
  cases b.name with
  | none => exact hrest
  | some name => exact .slot ((reads_string name).some nofun) rfl rfl hrest

/-- A blueprint is read back. -/
theorem reads_blueprint (b : Blueprint) : Reads blueprint (writeBlueprint b) b := by
  intro source
  have hothers : ∀ field ∈ budgetFields b.budgets,
      blueprintSlots.find? (·.name = field.1) = none := by
    simp [budgetFields, blueprintSlots, slot]
  have hfill : fillBlueprint source (fieldNodes (ownFields b ++ budgetFields b.budgets)) {} =
      .ok (⟨b.name.map some, some b.rows, some b.enabled⟩, fieldNodes (budgetFields b.budgets)) := by
    rw [fieldNodes_append, fillBlueprint_own (fills_ownFields b) source,
      fillBlueprint_others source hothers (buffers_budgetFields b.budgets)]
  have hcaps := (fills_budgetFields b.budgets).fillFields .buffer
  have hname : (b.name.map some).getD none = b.name := by cases b.name <;> rfl
  change blueprint source (.object (fieldNodes (ownFields b ++ budgetFields b.budgets)) true) = _
  simp only [blueprint, hfill, hcaps, need, Bool.not_true, Bool.false_eq_true, if_false,
    BudgetsDraft.finish, Option.getD_some, hname]

/-! ### Programs -/

theorem reads_command (c : Command) : Reads command (writeCommand c) c := by
  cases c with
  | loopStart n => exact ((reads_count n).map Command.loopStart).value rfl
  | _ => exact reads_unit rfl

/-- A program is read back with the depths it had. -/
theorem reads_program {p : Program} (made : p.Made) : Reads program (writeProgram p) p := by
  have hcommands : Reads (list command) (writeProgram p) p.commands :=
    reads_list fun c _ => reads_command c
  have hprogram := hcommands.map Program.ofCommands
  rwa [← made.eq_ofCommands] at hprogram

end Format

end Beamwalk
