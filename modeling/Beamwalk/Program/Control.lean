/-
Module: Beamwalk.Program.Control
Purpose: How loops steer a run, whatever the commands between the markers do.
Main exports: Machine, Halt, Flow, Control.repeatBody, Control.skip, Control.block, Control.loop
-/
import Beamwalk.Program.Nesting

namespace Beamwalk

/-!
The order in which commands run depends on the loop markers and on nothing
else, so it is defined over any machine that can perform the other commands.
Before each command the machine is asked whether to stop.  A missing partner of
a marker is a defect only when control arrives at the place where it shows: the
end of the program for an open loop, the closer itself for a stray one, and the
opener for a loop that is to be skipped.
-/

/-- Why a machine gives up before the program ends. -/
inductive Halt (φ : Type) where
  /-- It was asked to stop. -/
  | stopped
  /-- A command failed. -/
  | failed (reason : φ)
deriving Repr, Inhabited, DecidableEq

/-- Something that performs commands on a state. -/
structure Machine (σ φ : Type) where
  /-- Whether the state asks to stop. -/
  stopped : σ → Bool
  /-- The effect of a command that is no loop marker. -/
  perform : Command → σ → σ × Option (Halt φ)

/-- How a stretch of program hands control back.  A stretch that starts at the
index `low` never resumes before it, which is what makes running a program
terminate. -/
inductive Flow (σ φ : Type) (low : Nat) where
  /-- Resume at the command with index `cursor`. -/
  | next (cursor : Nat) (le : low ≤ cursor) (state : σ)
  /-- The run is over. -/
  | halted (why : Halt φ) (state : σ)
  /-- A marker without a partner was reached. -/
  | malformed (error : ProgramError) (state : σ)

namespace Control

variable {σ φ : Type} {low : Nat}

/-- Run a body once and then `more` times again, as long as it hands control
back normally.  The cursor after the last round counts. -/
def repeatBody (body : σ → Flow σ φ low) : (more : Nat) → σ → Flow σ φ low
  | 0, s => body s
  | more + 1, s =>
      match body s with
      | .next _ _ s' => repeatBody body more s'
      | stop => stop

/-- Pass over the loop that opens at `start` without running its body. -/
def skip (commands : List Command) (start : Nat) (s : σ) : Flow σ φ (start + 1) :=
  match h : Nesting.matchingEnd commands start with
  | some e => .next (e + 1) (Nat.succ_le_succ (Nesting.le_of_matchingEnd h)) s
  | none => .malformed (.unclosedLoop start) s

/-- Deal with the loop that opens at `start`: its body runs as often as the count
says, and a loop that is to run zero times is passed over. -/
def around (commands : List Command) (start : Nat) (count : Count)
    (body : σ → Flow σ φ (start + 1)) (s : σ) : Flow σ φ (start + 1) :=
  match count.val with
  | 0 => skip commands start s
  | more + 1 => repeatBody body more s

/-- Run the commands from `cursor` until the block that `opener` opened is
closed, or until the program ends when no loop is open. -/
def block (m : Machine σ φ) (commands : List Command) (low cursor : Nat) (le : low ≤ cursor)
    (opener : Option Nat) (s : σ) : Flow σ φ low :=
  if m.stopped s then .halted .stopped s
  else
    match _hc : commands[cursor]? with
    | none =>
        match opener with
        | some start => .malformed (.unclosedLoop start) s
        | none => .next cursor le s
    | some .loopEnd =>
        match opener with
        | some _ => .next (cursor + 1) (Nat.le_succ_of_le le) s
        | none => .malformed (.unmatchedLoopEnd cursor) s
    | some (.loopStart count) =>
        match around commands cursor count
            (block m commands (cursor + 1) (cursor + 1) (Nat.le_refl _) (some cursor)) s with
        | .next resumed hr s' =>
            block m commands low resumed (Nat.le_trans (Nat.le_succ_of_le le) hr) opener s'
        | .halted why s' => .halted why s'
        | .malformed error s' => .malformed error s'
    | some command =>
        match m.perform command s with
        | (s', some why) => .halted why s'
        | (s', none) =>
            block m commands low (cursor + 1) (Nat.le_succ_of_le le) opener s'
termination_by commands.length - cursor
decreasing_by
  all_goals
    have inside : cursor < commands.length := (List.getElem?_eq_some_iff.1 _hc).1
    omega

/-- Run the loop that opens at `start` as often as its count says. -/
def loop (m : Machine σ φ) (commands : List Command) (start : Nat) (count : Count) (s : σ) :
    Flow σ φ (start + 1) :=
  around commands start count
    (block m commands (start + 1) (start + 1) (Nat.le_refl _) (some start)) s

/-! ### How a block goes on, by the command at the cursor -/

variable {m : Machine σ φ} {commands : List Command} {cursor : Nat} {le : low ≤ cursor}
  {opener : Option Nat} {s : σ}

theorem block_of_stopped (h : m.stopped s = true) :
    block m commands low cursor le opener s = .halted .stopped s := by
  rw [block.eq_def, if_pos h]

/-- The program ends while no loop is open. -/
theorem block_end (h : m.stopped s = false) (hc : commands[cursor]? = none) :
    block m commands low cursor le none s = .next cursor le s := by
  rw [block.eq_def, if_neg (by simp [h])]
  split <;> simp_all

/-- The program ends inside a loop. -/
theorem block_end_open {start : Nat} (h : m.stopped s = false) (hc : commands[cursor]? = none) :
    block m commands low cursor le (some start) s = .malformed (.unclosedLoop start) s := by
  rw [block.eq_def, if_neg (by simp [h])]
  split <;> simp_all

/-- A closer ends the block of its opener. -/
theorem block_loopEnd {start : Nat} (h : m.stopped s = false)
    (hc : commands[cursor]? = some .loopEnd) :
    block m commands low cursor le (some start) s =
      .next (cursor + 1) (Nat.le_succ_of_le le) s := by
  rw [block.eq_def, if_neg (by simp [h])]
  split <;> simp_all

/-- A closer that closes nothing is a defect. -/
theorem block_loopEnd_stray (h : m.stopped s = false) (hc : commands[cursor]? = some .loopEnd) :
    block m commands low cursor le none s = .malformed (.unmatchedLoopEnd cursor) s := by
  rw [block.eq_def, if_neg (by simp [h])]
  split <;> simp_all

/-- A loop is dealt with as a whole, and the block goes on behind it. -/
theorem block_loopStart {count : Count} (h : m.stopped s = false)
    (hc : commands[cursor]? = some (.loopStart count)) :
    block m commands low cursor le opener s =
      match loop m commands cursor count s with
      | .next resumed hr s' =>
          block m commands low resumed (Nat.le_trans (Nat.le_succ_of_le le) hr) opener s'
      | .halted why s' => .halted why s'
      | .malformed error s' => .malformed error s' := by
  rw [block.eq_def, if_neg (by simp [h])]
  split <;> simp_all
  rfl

/-- Every other command is performed, and the block goes on behind it. -/
theorem block_command {command : Command} (h : m.stopped s = false)
    (hc : commands[cursor]? = some command) (hstart : ∀ count, command ≠ .loopStart count)
    (hend : command ≠ .loopEnd) :
    block m commands low cursor le opener s =
      match m.perform command s with
      | (s', some why) => .halted why s'
      | (s', none) =>
          block m commands low (cursor + 1) (Nat.le_succ_of_le le) opener s' := by
  rw [block.eq_def, if_neg (by simp [h])]
  split
  case h_1 heq => simp [hc] at heq
  case h_2 heq => exact absurd (Option.some.inj (hc.symm.trans heq)) hend
  case h_3 count heq => exact absurd (Option.some.inj (hc.symm.trans heq)) (hstart count)
  case h_4 heq => cases Option.some.inj (hc.symm.trans heq); rfl

end Control

end Beamwalk
