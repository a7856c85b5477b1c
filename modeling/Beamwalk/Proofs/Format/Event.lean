/-
Module: Beamwalk.Proofs.Format.Event
Purpose: Events and outcomes are read back from what they are written as.
Main exports: RunEvent.Addressable, Outcome.Addressable, Format.reads_runEvent,
  Format.reads_failureReason, Format.reads_outcome
-/
import Beamwalk.Format.Event
import Beamwalk.Proofs.Format.Document

namespace Beamwalk

open Numeral (wordLimit)

/-! ### Numbers of 64 bits

Positions and actors have numbers without bounds here.  What is written with a
number of more than 64 bits is well-formed, but no reader takes it.
-/

/-- The numbers of the obstacle have 64 bits. -/
def Obstacle.Addressable : Obstacle → Prop
  | .offGrid => True
  | .solid p => p.addressable = true

/-- The numbers of the event have 64 bits. -/
def RunEvent.Addressable : RunEvent → Prop
  | .actorAdvanced actor source target | .actorJumped actor source target =>
      actor < wordLimit ∧ source.addressable = true ∧ target.addressable = true
  | .actorTurned actor _ _ => actor < wordLimit
  | .actorBlocked actor _ source obstacle =>
      actor < wordLimit ∧ source.addressable = true ∧ obstacle.Addressable
  | .actorStruck actor p _ | .coinCollected actor p => actor < wordLimit ∧ p.addressable = true
  | .hazardsToggled _ _ => True
  | .coinsUneaten remaining => remaining < wordLimit

/-- The numbers of the reason have 64 bits. -/
def FailureReason.Addressable : FailureReason → Prop
  | .offGrid actor p | .blocked actor p | .struck actor p =>
      actor < wordLimit ∧ p.addressable = true
  | .coinsUneaten remaining => remaining < wordLimit

/-- The numbers of the outcome have 64 bits. -/
def Outcome.Addressable : Outcome → Prop
  | .failure reason => reason.Addressable
  | .success | .cancelled => True

namespace Format

open Json (Buffers buffers_nat buffers_string)
open Json.Reader

/-! ### Parts of events -/

theorem reads_turn (t : Turn) : Reads turn (.string (turnName t)) t :=
  reads_name (by cases t <;> rfl)

theorem reads_stride (s : Stride) : Reads stride (.string (strideName s)) s :=
  reads_name (by cases s <;> rfl)

theorem reads_timing (t : StrikeTiming) : Reads timing (.string (timingName t)) t :=
  reads_name (by cases t <;> rfl)

theorem lt_wordLimit_of_addressable {p : Pos} (h : p.addressable = true) :
    p.row < wordLimit ∧ p.col < wordLimit := by
  rw [Pos.addressable, Bool.and_eq_true, decide_eq_true_eq, decide_eq_true_eq] at h
  exact h

theorem reads_pos {p : Pos} (h : p.addressable = true) : Reads pos (writePos p) p := by
  obtain ⟨hrow, hcol⟩ := lt_wordLimit_of_addressable h
  exact (Fills.slot (reads_size hrow) rfl rfl <| .slot (reads_size hcol) rfl rfl .nil).reads rfl

theorem buffers_writePos {p : Pos} (h : p.addressable = true) (levels : Nat) :
    Buffers (levels + 1) (writePos p) := by
  obtain ⟨hrow, hcol⟩ := lt_wordLimit_of_addressable h
  simp [writePos, buffers_nat hrow, buffers_nat hcol]

theorem reads_obstacle {o : Obstacle} (h : o.Addressable) :
    Reads obstacle (writeObstacle o) o := by
  cases o with
  | offGrid => exact reads_nothingMore.tagged rfl (by simp) (by simp)
  | solid p =>
      refine Reads.tagged ?_ rfl (by simp) (by simp [bufferLevels, buffers_writePos h])
      exact (Fills.slot (reads_pos h) rfl rfl .nil).reads rfl

theorem buffers_writeObstacle {o : Obstacle} (h : o.Addressable) (levels : Nat) :
    Buffers (levels + 2) (writeObstacle o) := by
  cases o with
  | offGrid => simp [writeObstacle]
  | solid p => simp [writeObstacle, buffers_writePos h]

/-! ### Events and outcomes -/

/-- An event with numbers of 64 bits is read back. -/
theorem reads_runEvent {e : RunEvent} (h : e.Addressable) :
    Reads runEvent (writeRunEvent e) e := by
  cases e with
  | actorAdvanced actor source target | actorJumped actor source target =>
      obtain ⟨hactor, hsource, htarget⟩ := h
      refine Reads.tagged ?_ rfl (by simp)
        (by simp [bufferLevels, buffers_nat hactor, buffers_writePos hsource,
          buffers_writePos htarget])
      exact Fills.reads (.slot (reads_size hactor) rfl rfl <| .slot (reads_pos hsource) rfl rfl <|
        .slot (reads_pos htarget) rfl rfl .nil) rfl
  | actorTurned actor turn facing =>
      refine Reads.tagged ?_ rfl (by simp) (by simp [buffers_nat h])
      exact Fills.reads (.slot (reads_size h) rfl rfl <| .slot (reads_turn turn) rfl rfl <|
        .slot (reads_direction facing) rfl rfl .nil) rfl
  | actorBlocked actor stride source obstacle =>
      obtain ⟨hactor, hsource, hobstacle⟩ := h
      refine Reads.tagged ?_ rfl (by simp)
        (by simp [bufferLevels, buffers_nat hactor, buffers_writePos hsource,
          buffers_writeObstacle hobstacle])
      exact Fills.reads (.slot (reads_size hactor) rfl rfl <|
        .slot (reads_stride stride) rfl rfl <| .slot (reads_pos hsource) rfl rfl <|
        .slot (reads_obstacle hobstacle) rfl rfl .nil) rfl
  | actorStruck actor p timing =>
      obtain ⟨hactor, hp⟩ := h
      refine Reads.tagged ?_ rfl (by simp)
        (by simp [bufferLevels, buffers_nat hactor, buffers_writePos hp])
      exact Fills.reads (.slot (reads_size hactor) rfl rfl <| .slot (reads_pos hp) rfl rfl <|
        .slot (reads_timing timing) rfl rfl .nil) rfl
  | coinCollected actor p =>
      obtain ⟨hactor, hp⟩ := h
      refine Reads.tagged ?_ rfl (by simp)
        (by simp [bufferLevels, buffers_nat hactor, buffers_writePos hp])
      exact Fills.reads (.slot (reads_size hactor) rfl rfl <| .slot (reads_pos hp) rfl rfl .nil) rfl
  | hazardsToggled groups enabled =>
      refine Reads.tagged ?_ rfl (by simp)
        (by simp [bufferLevels, buffers_writeGroupSet, buffers_writeSwitches])
      exact Fills.reads (.slot (reads_groupSet groups) rfl rfl <|
        .slot (reads_switches enabled) rfl rfl .nil) rfl
  | coinsUneaten remaining =>
      refine Reads.tagged ?_ rfl (by simp) (by simp [buffers_nat h])
      exact Fills.reads (.slot (reads_size h) rfl rfl .nil) rfl

/-- The fields of a reason can be buffered. -/
theorem buffers_failureFields {reason : FailureReason} (h : reason.Addressable) :
    ∀ field ∈ failureFields reason, Buffers bufferLevels field.2 := by
  cases reason with
  | offGrid actor p | blocked actor p | struck actor p =>
      obtain ⟨hactor, hp⟩ := h
      simp [failureFields, bufferLevels, buffers_nat hactor, buffers_writePos hp]
  | coinsUneaten remaining => simp [failureFields, buffers_nat h]

/-- A reason with numbers of 64 bits is read back. -/
theorem reads_failureReason {reason : FailureReason} (h : reason.Addressable) :
    Reads failureReason (writeFailureReason reason) reason := by
  have hbuffers := buffers_failureFields h
  cases reason with
  | offGrid actor p | blocked actor p | struck actor p =>
      obtain ⟨hactor, hp⟩ := h
      refine Reads.tagged ?_ rfl (by simp) (List.forall_mem_cons.mp hbuffers).2
      exact Fills.reads (.slot (reads_size hactor) rfl rfl <| .slot (reads_pos hp) rfl rfl .nil) rfl
  | coinsUneaten remaining =>
      refine Reads.tagged ?_ rfl (by simp) (List.forall_mem_cons.mp hbuffers).2
      exact Fills.reads (.slot (reads_size h) rfl rfl .nil) rfl

/-- An outcome with numbers of 64 bits is read back, the reason of a failure among the
fields of the outcome. -/
theorem reads_outcome {o : Outcome} (h : o.Addressable) : Reads outcome (writeOutcome o) o := by
  cases o with
  | success | cancelled => exact reads_nothingMore.tagged rfl (by simp) (by simp)
  | failure reason =>
      refine Reads.tagged ((reads_failureReason h).map Outcome.failure) rfl ?_
        (buffers_failureFields h)
      cases reason <;> simp [failureFields]

end Format

end Beamwalk
