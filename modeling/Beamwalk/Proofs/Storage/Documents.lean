/-
Module: Beamwalk.Proofs.Storage.Documents
Purpose: Programs and levels survive being kept in files.
Main exports: loadProgram_of_saved, loadLevel_of_text, documents_reload
-/
import Beamwalk.Proofs.Format.Document
import Beamwalk.Proofs.Storage.FileTree
import Beamwalk.Storage.Documents

namespace Beamwalk

open Json.Reader (readText)

variable {t t' : FileTree} {path text : String} {p : Program} {b : Blueprint} {entry : FileEntry}

/-! ### Programs -/

theorem saveProgram_ok_iff :
    saveProgram t path p = .ok t' ↔ t.write path (programText p) = .ok t' := by
  unfold saveProgram
  cases t.write path (programText p) <;> simp

/-- Only a directory stands in the way of a path that leads somewhere. -/
theorem exists_place_iff : (∃ place, entry.place? = some place) ↔ entry ≠ .directory := by
  cases entry <;> simp [FileEntry.place?]

/-- A program can be saved where a path leads to a file or to where one could be made. -/
theorem exists_saveProgram_iff :
    (∃ t', saveProgram t path p = .ok t') ↔
      ∃ entry, t.resolve path = .ok entry ∧ entry ≠ .directory := by
  simp only [saveProgram_ok_iff, FileTree.write_ok_iff]
  constructor
  · rintro ⟨_, entry, place, hresolve, hplace, -⟩
    exact ⟨entry, hresolve, exists_place_iff.mp ⟨place, hplace⟩⟩
  · rintro ⟨entry, hresolve, hentry⟩
    obtain ⟨place, hplace⟩ := exists_place_iff.mpr hentry
    exact ⟨_, entry, place, hresolve, hplace, rfl⟩

/-- A file that spells a program loads as the program. -/
theorem loadProgram_of_text {place : List String} (made : p.Made)
    (hresolve : t.resolve path = .ok (.file place text))
    (hspells : (Format.writeProgram p).Spells text.toList []) : loadProgram t path = .ok p := by
  have hread := (Format.reads_program made).readText hspells
  simp only [loadProgram, FileTree.holds, FileTree.read, hresolve, if_true, hread]

theorem loadProgram_of_saved (made : p.Made) (h : saveProgram t path p = .ok t') :
    loadProgram t' path = .ok p := by
  obtain ⟨place, hresolve⟩ := FileTree.resolve_write (saveProgram_ok_iff.mp h)
  exact loadProgram_of_text made hresolve (Json.spells_pretty _)

/-! ### Levels -/

/-- A file that spells a blueprint loads as the level that the blueprint builds, or is
refused with the defect that the blueprint has. -/
theorem loadLevel_of_text (hread : t.read path = .ok text)
    (hspells : (Format.writeBlueprint b).Spells text.toList []) :
    loadLevel t path = b.build.mapError (.invalidLevel path) := by
  have htext := (Format.reads_blueprint b).readText hspells
  simp only [loadLevel, hread, htext]
  cases b.build <;> rfl

/-! ### Both -/

/-- What is written to a file is what the file is read as.  A program can be saved
wherever its path leads to a file or to where one could be made, and from then on the
path loads the same commands with the same depths.  A blueprint is read as it was from
both of its written forms, and a file with either of them loads as what the blueprint
builds, be it a level or a defect. -/
theorem documents_reload (made : p.Made) (b : Blueprint) (t : FileTree) (path : String) :
    ((∃ t', saveProgram t path p = .ok t') ↔
      ∃ entry, t.resolve path = .ok entry ∧ entry ≠ .directory) ∧
    (∀ t', saveProgram t path p = .ok t' → loadProgram t' path = .ok p) ∧
    ∀ text ∈ [(Format.writeBlueprint b).compact, (Format.writeBlueprint b).pretty],
      readText Format.blueprint text = .ok b ∧
      (t.read path = .ok text → loadLevel t path = b.build.mapError (.invalidLevel path)) := by
  refine ⟨exists_saveProgram_iff, fun t' => loadProgram_of_saved made, fun text htext => ?_⟩
  have hspells : (Format.writeBlueprint b).Spells text.toList [] := by
    simp only [List.mem_cons, List.not_mem_nil, or_false] at htext
    obtain rfl | rfl := htext
    · exact Json.spells_compact _
    · exact Json.spells_pretty _
  exact ⟨(Format.reads_blueprint b).readText hspells, fun hread => loadLevel_of_text hread hspells⟩

/-- A closer without an opener, and an opener without a closer, with the largest count. -/
def Program.misnested : Program :=
  .ofCommands [.loopEnd, .loopStart ⟨4294967295, by decide⟩, .ifElse, .uTurn]

/-- A name with a quote and a line break over rows of which the second has a tab. -/
def Blueprint.smudged : Blueprint where
  name := some "the \"narrow\"\nway"
  rows := [">o", ".\t"]
  enabled := ⟨true, false, true⟩
  budgets := { jumps := .limited ⟨4294967295, by decide⟩ }

/-- A working directory with one file, which holds a level. -/
def FileTree.desk : FileTree :=
  (empty ["home"]).put ["home", "p"] (Format.writeBlueprint .smudged).pretty

/-- Splitting does not compute, so it is unfolded step by step. -/
theorem FileTree.names_p : names "p" = ["p"] := by
  rw [names, String.splitOn, if_neg (by decide), String.splitOnAux, if_neg (by decide),
    if_neg (by decide), String.splitOnAux, if_pos (by decide)]
  rfl

theorem FileTree.resolve_desk :
    desk.resolve "p" = .ok (.file ["home", "p"] (Format.writeBlueprint .smudged).pretty) := by
  rw [resolve, if_neg (by decide), if_neg (by decide), names_p]
  rfl

theorem documents_reload_desk :
    loadLevel .desk "p" = .error (.invalidLevel "p" (.unknownSymbol '\t' ⟨1, 1⟩)) ∧
    ∃ t', saveProgram .desk "p" .misnested = .ok t' ∧ loadProgram t' "p" = .ok .misnested ∧
      Program.misnested.steps.map Step.depth = [0, 0, 1, 1] := by
  obtain ⟨hsaves, hloads, hlevels⟩ :=
    documents_reload (p := .misnested) (.built _) .smudged .desk "p"
  obtain ⟨t', ht'⟩ := hsaves.mpr ⟨_, FileTree.resolve_desk, nofun⟩
  have hread : FileTree.desk.read "p" = .ok (Format.writeBlueprint .smudged).pretty := by
    rw [FileTree.read, FileTree.resolve_desk]
  refine ⟨?_, t', ht', hloads t' ht', by decide⟩
  rw [(hlevels _ (by simp)).2 hread]
  rfl

end Beamwalk
