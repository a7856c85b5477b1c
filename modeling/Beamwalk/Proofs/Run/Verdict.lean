/-
Module: Beamwalk.Proofs.Run.Verdict
Purpose: What executing a program comes to, from its outline alone: loops are
  as good as their copies, and defects show as the balance check foretells.
Main exports: Execution.verdict, Execution.run_script, Execution.ends_run, Execution.run_balanced,
  Run.Interrupted, Run.execute_malformed
-/
import Beamwalk.Run.Basic
import Beamwalk.Proofs.Run.Step

namespace Beamwalk

namespace Execution

variable {watcher : Watcher}

/-- How a run ends after all commands of a balanced program. -/
def verdict (watcher : Watcher) (performed : Execution × Option (Halt FailureReason)) :
    Execution × Except ProgramError Outcome :=
  match performed with
  | (x, some .stopped) => (x, .ok .cancelled)
  | (x, some (.failed reason)) => (x, .ok (.failure reason))
  | (x, none) => ((x.settle watcher).1, .ok (x.settle watcher).2)

/-- How a run ends after all commands of the script of a program. -/
def conclude (watcher : Watcher) (defect? : Option ProgramError)
    (performed : Execution × Option (Halt FailureReason)) :
    Execution × Except ProgramError Outcome :=
  match performed, defect? with
  | (x, none), some error => (x, .error error)
  | performed, _ => verdict watcher performed

/-- A run performs the script of its program, and then it meets the defect of the
program or the verdict falls. -/
theorem run_script (p : Program) (x : Execution) :
    run watcher p x = conclude watcher p.defect? ((machine watcher).performAll p.script x) := by
  obtain ⟨cursor, le, hblock⟩ := Control.block_program (passesReserved_machine watcher) p x
  rw [run, hblock]
  rcases hperformed : (machine watcher).performAll p.script x with ⟨y, _ | why⟩
  · have hy : y.stopped = false := Machine.not_stopped_of_performAll hperformed
    cases p.defect? with
    | none => simp [Flow.follow, hy, conclude, verdict]
    | some error => rfl
  · rw [Flow.follow, conclude]
    · cases why with
      | stopped => rfl
      | failed reason => rfl
    · simp

/-- The ways in which a run can end once its script has been performed, as far as it
was. -/
inductive Ends (watcher : Watcher) (p : Program) (x : Execution) :
    Execution × Except ProgramError Outcome → Prop where
  | solved (y : Execution) (performed : (machine watcher).performAll p.script x = (y, none))
      (eaten : y.state.world.coinsRemaining = 0) : Ends watcher p x (y, .ok .success)
  | uneaten (y : Execution) (performed : (machine watcher).performAll p.script x = (y, none))
      (remaining : 0 < y.state.world.coinsRemaining) :
      Ends watcher p x (y.emit watcher (.coinsUneaten y.state.world.coinsRemaining),
        .ok (.failure (.coinsUneaten y.state.world.coinsRemaining)))
  | malformed (y : Execution) (performed : (machine watcher).performAll p.script x = (y, none))
      (error : ProgramError) : Ends watcher p x (y, .error error)
  | stopped (y : Execution)
      (performed : (machine watcher).performAll p.script x = (y, some .stopped)) :
      Ends watcher p x (y, .ok .cancelled)
  | failed (y : Execution) (reason : FailureReason)
      (performed : (machine watcher).performAll p.script x = (y, some (.failed reason))) :
      Ends watcher p x (y, .ok (.failure reason))

theorem ends_run (watcher : Watcher) (p : Program) (x : Execution) :
    Ends watcher p x (run watcher p x) := by
  rw [run_script]
  rcases hperformed : (machine watcher).performAll p.script x with ⟨y, _ | _ | reason⟩
  · cases p.defect? with
    | some error => exact .malformed y hperformed error
    | none =>
        rw [conclude, verdict, settle]
        · split
          · next heaten => exact .solved y hperformed heaten
          · next remaining hremaining =>
              have huneaten : Ends watcher p x _ :=
                .uneaten y hperformed (hremaining ▸ Nat.succ_pos remaining)
              rw [hremaining] at huneaten
              exact huneaten
        · simp
  · cases p.defect? <;> exact .stopped y hperformed
  · cases p.defect? <;> exact .failed y reason hperformed

/-- A balanced program performs its flat form, and then the verdict falls. -/
theorem run_balanced {p : Program} (balanced : p.check = .ok ()) (x : Execution) :
    run watcher p x = verdict watcher ((machine watcher).performAll p.outline.head.flat x) := by
  obtain ⟨hscript, hdefect⟩ := Program.script_of_check balanced
  rw [run_script, hscript, hdefect, conclude]
  simp

end Execution

namespace Program

/-- A flat program is balanced, and it is its own flat form. -/
theorem outline_unrolled (p : Program) :
    ∃ b : Block, p.unrolled.outline = ⟨b, []⟩ ∧ b.flat = p.outline.head.flat := by
  have hplain : ∀ c ∈ p.outline.head.flat, c.isMarker = false := fun c hc =>
    (Block.mem_flat hc).1
  have hacts : ∀ c ∈ p.outline.head.flat, c.isReserved = false := fun c hc =>
    (Block.mem_flat hc).2
  have houtline : p.unrolled.outline = ⟨.ofPlain p.outline.head.flat hplain, []⟩ := by
    rw [outline, unrolled, commands_ofCommands]
    conv => lhs; rw [← Block.commands_ofPlain p.outline.head.flat hplain]
    exact Outline.read_block _
  exact ⟨_, houtline, Block.flat_ofPlain _ hplain hacts⟩

/-- Where the check finds an opener without a closer, no stray closer comes
first. -/
theorem tail_of_unclosed {p : Program} {index : Nat} (h : p.check = .error (.unclosedLoop index)) :
    ∃ count b rest, p.outline.tail = (.opener count, b) :: rest ∧ p.outline.head.size = index := by
  rw [check_eq_outline] at h
  match htail : p.outline.tail with
  | [] => simp [htail] at h
  | (.closer, b) :: rest => simp [htail] at h
  | (.opener count, b) :: rest =>
      simp only [htail, Except.error.injEq, ProgramError.unclosedLoop.injEq] at h
      exact ⟨count, b, rest, rfl, h⟩

theorem check_unrolled (p : Program) : p.unrolled.check = .ok () := by
  obtain ⟨b, houtline, _⟩ := p.outline_unrolled
  rw [check_eq_outline, houtline]

end Program

/-- A corridor: an actor who faces two coins, one cell of floor between them. -/
def Level.corridor : Level where
  name := none
  cells := .ofRows [[.start .east, .coin, .empty, .coin]] (by decide)
  enabled := .allOff
  budgets := {}
  width_ne_zero := by decide
  height_ne_zero := by decide
  starts_ne_zero := by decide
  starts_le := by decide

/-- A loop that runs and a loop that is passed over. -/
def Program.twoLoops : Program :=
  .ofCommands [.loopStart ⟨2, by decide⟩, .advance, .ifThen, .loopEnd, .loopStart .zero, .jump,
    .loopEnd]

/-- Two loops that are not closed, the inner one with a count of zero. -/
def Program.twoUnclosed : Program :=
  .ofCommands [.advance, .loopStart ⟨2, by decide⟩, .uTurn, .loopStart .zero]

namespace Run

/-! ### Loops are as good as their copies -/

/-- A balanced program and its flat form do the same from every run, whatever
the listener asks for: same outcome, same events, same state, same stop request. -/
theorem execute_unrolled {p : Program} (balanced : p.check = .ok ()) (run : Run)
    (watcher : Watcher) : run.execute p watcher = run.execute p.unrolled watcher := by
  obtain ⟨b, houtline, hflat⟩ := p.outline_unrolled
  have hrun : Execution.run watcher p ⟨run.state, [], run.stopped⟩ =
      Execution.run watcher p.unrolled ⟨run.state, [], run.stopped⟩ := by
    rw [Execution.run_balanced balanced, Execution.run_balanced p.check_unrolled, houtline, hflat]
  rw [execute, execute, hrun]

theorem execute_unrolled_twoLoops :
    Program.twoLoops.check = .ok () ∧
      (Run.ofLevel .corridor).execute .twoLoops (fun heard => heard.length == 2) =
        (Run.ofLevel .corridor).execute (.ofCommands [.advance, .advance])
          (fun heard => heard.length == 2) :=
  ⟨rfl, execute_unrolled rfl _ _⟩

/-! ### Defects show as the balance check foretells -/

/-- A stop or a mishap put an end to the run before it met a defect or came to
the end of the program. -/
def Interrupted (result : Except ProgramError Outcome) : Prop :=
  result = .ok .cancelled ∨ ∃ reason, reason.Mishap ∧ result = .ok (.failure reason)

/-- A balanced program is never in error. -/
theorem execute_balanced {p : Program} (balanced : p.check = .ok ()) (run : Run)
    (watcher : Watcher) : ∃ outcome, (run.execute p watcher).result = .ok outcome := by
  rw [execute, Execution.run_balanced balanced]
  rcases (Execution.machine watcher).performAll p.outline.head.flat _ with
    ⟨y, _ | (_ | reason)⟩
  · exact ⟨_, rfl⟩
  · exact ⟨_, rfl⟩
  · exact ⟨_, rfl⟩

/-- A program with a defect is in error there. -/
theorem execute_defect {p : Program} {error : ProgramError} (h : p.defect? = some error) (run : Run)
    (watcher : Watcher) :
    (run.execute p watcher).result = .error error ∨
      Interrupted (run.execute p watcher).result := by
  rw [execute, Execution.run_script, h]
  rcases hperformed : (Execution.machine watcher).performAll p.script _ with ⟨y, _ | why⟩
  · exact .inl rfl
  · have hwhy := Machine.performAll_halt (Execution.failsFor_machine watcher) hperformed
    cases why with
    | stopped => exact .inr (.inl rfl)
    | failed reason => exact .inr (.inr ⟨reason, hwhy, rfl⟩)

/-- A program with a stray closer is in error there. -/
theorem execute_stray_closer {p : Program} {index : Nat}
    (h : p.check = .error (.unmatchedLoopEnd index)) (run : Run) (watcher : Watcher) :
    (run.execute p watcher).result = .error (.unmatchedLoopEnd index) ∨
      Interrupted (run.execute p watcher).result :=
  execute_defect (Program.defect?_of_stray h) run watcher

/-- A program with an opener that no closer ends is in error at an opener that
depends on the program alone. -/
theorem execute_unclosed {p : Program} {index : Nat}
    (h : p.check = .error (.unclosedLoop index)) :
    Nesting.FirstUnclosed p.commands index ∧
      ∃ reported, Nesting.ReportedUnclosed p.commands reported ∧
        ∀ (run : Run) (watcher : Watcher),
          (run.execute p watcher).result = .error (.unclosedLoop reported) ∨
            Interrupted (run.execute p watcher).result := by
  obtain ⟨count, b, rest, htail, hindex⟩ := Program.tail_of_unclosed h
  have hopeners : (Outline.read p.commands).openers = Outline.openersFrom p.outline.head.size
      ((.opener count, b) :: rest) := by
    rw [← htail]
    rfl
  have hdefect : p.defect? = some (.unclosedLoop
      (Outline.culprit p.outline.head.size (Outline.read p.commands).openers)) := by
    rw [hopeners, Program.defect?, htail]
    rfl
  refine ⟨Nesting.firstUnclosed_of_openers (hopeners.trans (by rw [hindex])),
    Outline.culprit p.outline.head.size (Outline.read p.commands).openers,
    Nesting.reported_culprit _ (by simp [hopeners, Outline.openersFrom]), ?_⟩
  intro run watcher
  exact execute_defect hdefect run watcher

/-- Every execution of a program that is not balanced meets the same defect,
unless it is interrupted before. -/
theorem execute_malformed {p : Program} (h : p.check ≠ .ok ()) :
    ∃ error, ∀ (run : Run) (watcher : Watcher),
      (run.execute p watcher).result = .error error ∨
        Interrupted (run.execute p watcher).result := by
  cases hcheck : p.check with
  | ok _ => exact absurd hcheck h
  | error error =>
      cases error with
      | unmatchedLoopEnd index => exact ⟨_, execute_stray_closer hcheck⟩
      | unclosedLoop index =>
          obtain ⟨_, reported, _, hreported⟩ := execute_unclosed hcheck
          exact ⟨_, hreported⟩

theorem not_interrupted_error {error : ProgramError} : ¬ Interrupted (.error error) := by
  intro h
  rcases h with h | ⟨reason, _, h⟩
  · cases h
  · cases h

/-- The defects that runs come upon are those that the balance check finds.  A
balanced program is never in error; a stray closer is reported where the check
reports it; of the loops that are not closed, the check reports the first, and a
run the first with a count of zero or else the last.  A program with a defect
does not come to a verdict about coins, and all its errors are one. -/
theorem execute_agrees_with_check (p : Program) :
    (p.check = .ok () → ∀ (run : Run) (watcher : Watcher),
      ∃ outcome, (run.execute p watcher).result = .ok outcome) ∧
    (∀ index, p.check = .error (.unmatchedLoopEnd index) → ∀ (run : Run) (watcher : Watcher),
      (run.execute p watcher).result = .error (.unmatchedLoopEnd index) ∨
        Interrupted (run.execute p watcher).result) ∧
    (∀ index, p.check = .error (.unclosedLoop index) →
      Nesting.FirstUnclosed p.commands index ∧
        ∃ reported, Nesting.ReportedUnclosed p.commands reported ∧
          ∀ (run : Run) (watcher : Watcher),
            (run.execute p watcher).result = .error (.unclosedLoop reported) ∨
              Interrupted (run.execute p watcher).result) ∧
    (p.check ≠ .ok () → ∀ (run : Run) (watcher : Watcher),
      (run.execute p watcher).result ≠ .ok .success ∧
        ∀ remaining, (run.execute p watcher).result ≠ .ok (.failure (.coinsUneaten remaining))) ∧
    (∀ (run run' : Run) (watcher watcher' : Watcher) (error error' : ProgramError),
      (run.execute p watcher).result = .error error →
        (run'.execute p watcher').result = .error error' → error = error') := by
  refine ⟨execute_balanced, fun index => execute_stray_closer, fun index => execute_unclosed,
    fun h run watcher => ?_, fun run run' watcher watcher' error error' herror herror' => ?_⟩
  · obtain ⟨error, herror⟩ := execute_malformed h
    rcases herror run watcher with hresult | hresult | ⟨reason, hreason, hresult⟩
    · simp [hresult]
    · simp [hresult]
    · rw [hresult]
      refine ⟨by simp, fun remaining hremaining => ?_⟩
      cases hremaining
      exact hreason
  · have h : p.check ≠ .ok () := by
      intro balanced
      obtain ⟨outcome, houtcome⟩ := execute_balanced balanced run watcher
      simp [houtcome] at herror
    obtain ⟨found, hfound⟩ := execute_malformed h
    have hone : ∀ (run : Run) (watcher : Watcher) (error : ProgramError),
        (run.execute p watcher).result = .error error → error = found := by
      intro run watcher error herror
      rcases hfound run watcher with hresult | hresult
      · rw [herror] at hresult
        cases hresult
        rfl
      · rw [herror] at hresult
        exact absurd hresult not_interrupted_error
    rw [hone run watcher error herror, hone run' watcher' error' herror']

/-- The check finds the outer loop, and a run comes upon the inner one, unless it has been
asked to stop or the actor is halted before. -/
theorem execute_agrees_with_check_twoUnclosed :
    Program.twoUnclosed.check = .error (.unclosedLoop 1) ∧
      Nesting.FirstUnclosed Program.twoUnclosed.commands 1 ∧
      Nesting.ReportedUnclosed Program.twoUnclosed.commands 3 ∧
      ((ofLevel .corridor).execute .twoUnclosed .silent).result = .error (.unclosedLoop 3) ∧
      ((ofLevel .corridor).cancel.execute .twoUnclosed .silent).result = .ok .cancelled ∧
      ∀ (run : Run) (watcher : Watcher),
        (run.execute .twoUnclosed watcher).result = .error (.unclosedLoop 3) ∨
          Interrupted (run.execute .twoUnclosed watcher).result := by
  obtain ⟨hfirst, reported, hreported, hresult⟩ :=
    (execute_agrees_with_check .twoUnclosed).2.2.1 1 rfl
  have herror :
      ((ofLevel .corridor).execute .twoUnclosed .silent).result = .error (.unclosedLoop 3) := by
    simp only [execute, Execution.run_script]
    rfl
  have hstopped :
      ((ofLevel .corridor).cancel.execute .twoUnclosed .silent).result = .ok .cancelled := by
    simp only [execute, Execution.run_script]
    rfl
  have hthree : reported = 3 := by
    rcases hresult (ofLevel .corridor) .silent with h | h
    · rw [herror] at h
      cases h
      rfl
    · rw [herror] at h
      exact absurd h not_interrupted_error
  subst hthree
  exact ⟨rfl, hfirst, hreported, herror, hstopped, hresult⟩

end Run

end Beamwalk
