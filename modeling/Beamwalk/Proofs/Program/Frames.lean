/-
Module: Beamwalk.Proofs.Program.Frames
Purpose: Running a program step by step, with the blocks that are being run on a stack.
Main exports: Frames, Frames.height, Stage, Stage.step, Stage.Reaches, Stage.runs_block,
  Frames.Fits, Frames.Fits.height_eq, Stage.Fits.step, Stage.exists_finished, Program.deepest,
  Program.Made.height_eq, Program.Made.height_le
-/
import Mathlib.Data.List.MinMax
import Mathlib.Logic.Function.Iterate
import Beamwalk.Proofs.Program.Pairing
import Beamwalk.Proofs.Program.Unrolling

namespace Beamwalk

/-!
Running a block calls for running the bodies of the loops in it, so blocks are
being run inside one another.  Here they stand on a stack, and a step does with the
command at the cursor of the innermost block what is to be done with it: nothing
is recursive, and nothing guarantees that the steps come to an end.
-/

/-- The blocks that are being run, the innermost first. -/
inductive Frames where
  /-- The program as a whole. -/
  | program (cursor : Nat)
  /-- The body of the loop that opens at `opener`, which has `more` rounds to go after
  this one, inside other blocks. -/
  | body (cursor opener more : Nat) (outer : Frames)
deriving Repr, Inhabited, DecidableEq

namespace Frames

/-- The place in the innermost block.  A block around another one stays at the opener
of that one. -/
def cursor : Frames → Nat
  | .program cursor | .body cursor _ _ _ => cursor

/-- The opener of the innermost block, if it is the body of a loop. -/
def opener? : Frames → Option Nat
  | .program _ => none
  | .body _ opener _ _ => some opener

/-- How many blocks are being run. -/
def height : Frames → Nat
  | .program _ => 1
  | .body _ _ _ outer => outer.height + 1

/-- Go on with another command of the innermost block. -/
def moveTo (frames : Frames) (cursor : Nat) : Frames :=
  match frames with
  | .program _ => .program cursor
  | .body _ opener more outer => .body cursor opener more outer

@[simp] theorem cursor_moveTo (frames : Frames) (cursor : Nat) :
    (frames.moveTo cursor).cursor = cursor := by
  cases frames <;> rfl

@[simp] theorem opener?_moveTo (frames : Frames) (cursor : Nat) :
    (frames.moveTo cursor).opener? = frames.opener? := by
  cases frames <;> rfl

@[simp] theorem height_moveTo (frames : Frames) (cursor : Nat) :
    (frames.moveTo cursor).height = frames.height := by
  cases frames <;> rfl

end Frames

/-- How far a run has come. -/
inductive Stage (σ φ : Type) where
  | running (frames : Frames) (state : σ)
  | finished (flow : Flow σ φ 0)

namespace Stage

variable {σ φ : Type} {low : Nat}

/-- The innermost block is done, and control goes on at `cursor`: with the next round
of its loop, or behind the loop, or nowhere if the block is the program. -/
def resume (cursor : Nat) (s : σ) : Frames → Stage σ φ
  | .program _ => .finished (.next cursor (Nat.zero_le cursor) s)
  | .body _ opener (more + 1) outer => .running (.body (opener + 1) opener more outer) s
  | .body _ _ 0 outer => .running (outer.moveTo cursor) s

/-- Hand the result of the innermost block to the block around it. -/
def deliver (frames : Frames) : Flow σ φ low → Stage σ φ
  | .next cursor _ s => resume cursor s frames
  | .halted why s => .finished (.halted why s)
  | .malformed error s => .finished (.malformed error s)

/-- Deal with the command at the cursor of the innermost block. -/
def step (m : Machine σ φ) (commands : List Command) : Stage σ φ → Stage σ φ
  | .finished flow => .finished flow
  | .running frames s =>
      if m.stopped s then .finished (.halted .stopped s)
      else
        match commands[frames.cursor]?, frames.opener? with
        | none, none => resume frames.cursor s frames
        | none, some start => .finished (.malformed (.unclosedLoop start) s)
        | some .loopEnd, none => .finished (.malformed (.unmatchedLoopEnd frames.cursor) s)
        | some .loopEnd, some _ => resume (frames.cursor + 1) s frames
        | some (.loopStart count), _ =>
            match count.val, Nesting.matchingEnd commands frames.cursor with
            | 0, some close => .running (frames.moveTo (close + 1)) s
            | 0, none => .finished (.malformed (.unclosedLoop frames.cursor) s)
            | more + 1, _ => .running (.body (frames.cursor + 1) frames.cursor more frames) s
        | some command, _ =>
            match m.perform command s with
            | (t, none) => .running (frames.moveTo (frames.cursor + 1)) t
            | (t, some why) => .finished (.halted why t)

/-- Some steps lead from one stage to another. -/
def Reaches (m : Machine σ φ) (commands : List Command) (here there : Stage σ φ) : Prop :=
  ∃ n, (step m commands)^[n] here = there

variable {m : Machine σ φ} {commands : List Command} {frames : Frames} {s : σ}

/-! ### What a step does, by the command at the cursor -/

theorem step_of_stopped (h : m.stopped s = true) :
    step m commands (.running frames s) = .finished (.halted .stopped s) := by
  simp [step, h]

/-- The program ends in a block. -/
theorem step_end (h : m.stopped s = false) (hc : commands[frames.cursor]? = none) :
    step m commands (.running frames s) =
      match frames.opener? with
      | none => resume frames.cursor s frames
      | some start => .finished (.malformed (.unclosedLoop start) s) := by
  simp only [step, h, hc, Bool.false_eq_true, if_false]
  cases frames.opener? <;> rfl

/-- A closer ends a block, unless it closes nothing. -/
theorem step_loopEnd (h : m.stopped s = false) (hc : commands[frames.cursor]? = some .loopEnd) :
    step m commands (.running frames s) =
      match frames.opener? with
      | none => .finished (.malformed (.unmatchedLoopEnd frames.cursor) s)
      | some _ => resume (frames.cursor + 1) s frames := by
  simp only [step, h, hc, Bool.false_eq_true, if_false]
  cases frames.opener? <;> rfl

/-- An opener puts the body of its loop on the stack, unless the loop is to be passed
over. -/
theorem step_loopStart {count : Count} (h : m.stopped s = false)
    (hc : commands[frames.cursor]? = some (.loopStart count)) :
    step m commands (.running frames s) =
      match count.val, Nesting.matchingEnd commands frames.cursor with
      | 0, some close => .running (frames.moveTo (close + 1)) s
      | 0, none => .finished (.malformed (.unclosedLoop frames.cursor) s)
      | more + 1, _ => .running (.body (frames.cursor + 1) frames.cursor more frames) s := by
  simp only [step, h, hc, Bool.false_eq_true, if_false]

/-- Every other command is performed. -/
theorem step_plain {c : Command} (h : m.stopped s = false)
    (hc : commands[frames.cursor]? = some c) (plain : c.isMarker = false) :
    step m commands (.running frames s) =
      match m.perform c s with
      | (t, none) => .running (frames.moveTo (frames.cursor + 1)) t
      | (t, some why) => .finished (.halted why t) := by
  simp only [step, h, hc, Bool.false_eq_true, if_false]
  cases c <;> first | rfl | cases plain

/-! ### A block is run by steps -/

theorem Reaches.refl (stage : Stage σ φ) : Reaches m commands stage stage := ⟨0, rfl⟩

theorem Reaches.trans {here there beyond : Stage σ φ} (h : Reaches m commands here there)
    (h' : Reaches m commands there beyond) : Reaches m commands here beyond := by
  obtain ⟨n, rfl⟩ := h
  obtain ⟨k, rfl⟩ := h'
  exact ⟨k + n, Function.iterate_add_apply ..⟩

/-- The first step leads where the others begin. -/
theorem Reaches.head {here there beyond : Stage σ φ} (h : step m commands here = there)
    (h' : Reaches m commands there beyond) : Reaches m commands here beyond :=
  Reaches.trans ⟨1, h⟩ h'

theorem deliver_moveTo (frames : Frames) (cursor : Nat) (flow : Flow σ φ low) :
    deliver (frames.moveTo cursor) flow = deliver frames flow := by
  cases flow with
  | next resumed le t =>
      cases frames with
      | program => rfl
      | body place opener more outer => cases more <;> rfl
  | halted why t => rfl
  | malformed error t => rfl

theorem deliver_program (cursor : Nat) (flow : Flow σ φ 0) :
    deliver (.program cursor) flow = .finished flow := by
  cases flow <;> rfl

/-- If a body is run by steps in every round, so are all rounds together. -/
theorem reaches_repeatBody {start : Nat} {body : σ → Flow σ φ (start + 1)}
    (hbody : ∀ more s, Reaches m commands (.running (.body (start + 1) start more frames) s)
      (deliver (.body (start + 1) start more frames) (body s)))
    (more : Nat) (s : σ) :
    Reaches m commands (.running (.body (start + 1) start more frames) s)
      (deliver (.body (start + 1) start 0 frames) (Control.repeatBody body more s)) := by
  induction more generalizing s with
  | zero => exact hbody 0 s
  | succ more ih =>
      have hround := hbody (more + 1) s
      rw [Control.repeatBody]
      cases hflow : body s with
      | next resumed le t =>
          rw [hflow] at hround
          exact hround.trans (ih t)
      | halted why t =>
          rw [hflow] at hround
          exact hround
      | malformed error t =>
          rw [hflow] at hround
          exact hround

/-- A loop whose body is run by steps is run by steps itself, whether it is repeated or
passed over. -/
theorem reaches_loop {count : Count} (hs : m.stopped s = false)
    (hc : commands[frames.cursor]? = some (.loopStart count))
    (hbody : ∀ more t,
      Reaches m commands (.running (.body (frames.cursor + 1) frames.cursor more frames) t)
        (deliver (.body (frames.cursor + 1) frames.cursor more frames)
          (Control.block m commands (frames.cursor + 1) (frames.cursor + 1) (Nat.le_refl _)
            (some frames.cursor) t))) :
    Reaches m commands (.running frames s)
      (deliver (.body (frames.cursor + 1) frames.cursor 0 frames)
        (Control.loop m commands frames.cursor count s)) := by
  have hstep := step_loopStart hs hc
  unfold Control.loop Control.around
  rcases hcount : count.val with _ | more
  · rw [hcount] at hstep
    cases hclose : Nesting.matchingEnd commands frames.cursor with
    | none =>
        rw [hclose] at hstep
        simp only [Control.skip_of_open hclose]
        exact .head hstep (.refl _)
    | some close =>
        rw [hclose] at hstep
        simp only [Control.skip_of_matchingEnd hclose]
        exact .head hstep (.refl _)
  · rw [hcount] at hstep
    exact .head hstep (reaches_repeatBody hbody more s)

/-- Steps run the innermost block, which is at `cursor`, and hand its result to the block
around it. -/
def Runs (m : Machine σ φ) (commands : List Command) (frames : Frames) (s : σ) : Prop :=
  ∀ (low cursor : Nat) (_ : frames.cursor = cursor) (le : low ≤ cursor),
    Reaches m commands (.running frames s)
      (deliver frames (Control.block m commands low cursor le frames.opener? s))

/-- What runs a block from a later command on hands its result to the same block. -/
theorem Runs.behind {cursor : Nat} (h : Runs m commands (frames.moveTo cursor) s)
    (le : low ≤ cursor) :
    Reaches m commands (.running (frames.moveTo cursor) s)
      (deliver frames (Control.block m commands low cursor le frames.opener? s)) := by
  have hbehind := h low cursor (Frames.cursor_moveTo frames cursor) le
  rwa [deliver_moveTo, Frames.opener?_moveTo] at hbehind

theorem runs_of_stopped (hs : m.stopped s = true) : Runs m commands frames s := by
  intro low cursor _ le
  rw [Control.block_of_stopped hs]
  exact .head (step_of_stopped hs) (.refl _)

theorem runs_end (hs : m.stopped s = false) (hc : commands[frames.cursor]? = none) :
    Runs m commands frames s := by
  rintro low _ rfl le
  have hstep := step_end hs hc
  cases hopener : frames.opener? with
  | none =>
      rw [hopener] at hstep
      rw [Control.block_end hs hc]
      exact .head hstep (.refl _)
  | some start =>
      rw [hopener] at hstep
      rw [Control.block_end_open hs hc]
      exact .head hstep (.refl _)

theorem runs_loopEnd (hs : m.stopped s = false) (hc : commands[frames.cursor]? = some .loopEnd) :
    Runs m commands frames s := by
  rintro low _ rfl le
  have hstep := step_loopEnd hs hc
  cases hopener : frames.opener? with
  | none =>
      rw [hopener] at hstep
      rw [Control.block_loopEnd_stray hs hc]
      exact .head hstep (.refl _)
  | some start =>
      rw [hopener] at hstep
      rw [Control.block_loopEnd hs hc]
      exact .head hstep (.refl _)

theorem runs_loopStart {count : Count} (hs : m.stopped s = false)
    (hc : commands[frames.cursor]? = some (.loopStart count))
    (hbody : ∀ more t,
      Runs m commands (.body (frames.cursor + 1) frames.cursor more frames) t)
    (hbehind : ∀ resumed t, frames.cursor < resumed →
      Runs m commands (frames.moveTo resumed) t) :
    Runs m commands frames s := by
  rintro low _ rfl le
  have hloop := reaches_loop hs hc fun more t =>
    hbody more t (frames.cursor + 1) (frames.cursor + 1) rfl (Nat.le_refl _)
  rw [Control.block_loopStart hs hc]
  cases hflow : Control.loop m commands frames.cursor count s with
  | next resumed hresumed t =>
      rw [hflow] at hloop
      exact hloop.trans ((hbehind resumed t hresumed).behind _)
  | halted why t =>
      rw [hflow] at hloop
      exact hloop
  | malformed error t =>
      rw [hflow] at hloop
      exact hloop

theorem runs_plain {c : Command} (hs : m.stopped s = false)
    (hc : commands[frames.cursor]? = some c) (plain : c.isMarker = false)
    (hbehind : ∀ t, Runs m commands (frames.moveTo (frames.cursor + 1)) t) :
    Runs m commands frames s := by
  rintro low _ rfl le
  have hstep := step_plain hs hc plain
  rw [Control.block_unmarked hs hc plain]
  rcases hperform : m.perform c s with ⟨t, _ | why⟩
  · rw [hperform] at hstep
    exact .head hstep ((hbehind t).behind _)
  · rw [hperform] at hstep
    exact .head hstep (.refl _)

/-- Every block is run by steps.  The induction is on what is left of the program, which a
body has less of than the block around it, and so has the block behind a loop. -/
theorem runs_block (m : Machine σ φ) (commands : List Command) (frames : Frames) (s : σ) :
    Runs m commands frames s := by
  induction hleft : commands.length - frames.cursor using Nat.strongRecOn
    generalizing frames s with
  | ind left ih =>
  have hmoved (cursor : Nat) (t : σ) (hinside : frames.cursor < commands.length)
      (hlt : frames.cursor < cursor) : Runs m commands (frames.moveTo cursor) t :=
    ih _ (by rw [Frames.cursor_moveTo]; omega) (frames.moveTo cursor) t rfl
  cases hs : m.stopped s with
  | true => exact runs_of_stopped hs
  | false =>
      rcases Nesting.at_cases commands frames.cursor with hpast | ⟨count, hc⟩ | hc | ⟨c, hc, plain⟩
      · exact runs_end hs (List.getElem?_eq_none hpast)
      · have hinside := (List.getElem?_eq_some_iff.1 hc).1
        refine runs_loopStart hs hc (fun more t => ?_) fun resumed t => hmoved resumed t hinside
        exact ih _ (by rw [Frames.cursor]; omega) _ t rfl
      · exact runs_loopEnd hs hc
      · have hinside := (List.getElem?_eq_some_iff.1 hc).1
        exact runs_plain hs hc plain fun t => hmoved _ t hinside (Nat.lt_succ_self _)

end Stage

/-! ### The height of the stack

Each block on the stack but the lowest is the body of a loop that waits for its
closer, and all loops that wait have their bodies on the stack.
-/

open Nesting (Opens waiting)

namespace Frames

variable {commands : List Command} {frames : Frames} {close : Nat}

/-- The openers of the blocks are those that wait at the cursor, and the block around a
body stays at the opener of the body. -/
def Fits (commands : List Command) : Frames → Prop
  | .program cursor => waiting commands cursor = []
  | .body cursor opener _ outer =>
      waiting commands cursor = opener :: waiting commands opener ∧
        Opens commands opener ∧ outer.cursor = opener ∧ outer.Fits commands

theorem Fits.height_eq (h : frames.Fits commands) :
    frames.height = (waiting commands frames.cursor).length + 1 := by
  induction frames with
  | program place =>
      have hnone : waiting commands place = [] := h
      rw [height, Frames.cursor, hnone, List.length_nil]
  | body cursor opener more outer ih =>
      obtain ⟨hwaiting, _, rfl, houter⟩ := h
      rw [height, ih houter, Frames.cursor, hwaiting, List.length_cons]

/-- Blocks go on fitting where the same openers wait. -/
theorem Fits.moveTo (h : frames.Fits commands) {cursor : Nat}
    (hsame : waiting commands cursor = waiting commands frames.cursor) :
    (frames.moveTo cursor).Fits commands := by
  cases frames with
  | program place => exact hsame.trans h
  | body place opener more outer =>
      obtain ⟨hwaiting, hrest⟩ := h
      exact ⟨hsame.trans hwaiting, hrest⟩

/-- The body of the loop at the cursor fits on top. -/
theorem Fits.push (h : frames.Fits commands) {count : Count}
    (hc : commands[frames.cursor]? = some (.loopStart count)) (more : Nat) :
    (Frames.body (frames.cursor + 1) frames.cursor more frames).Fits commands :=
  ⟨Nesting.waiting_loopStart hc, ⟨count, hc⟩, rfl, h⟩

end Frames

namespace Stage

variable {σ φ : Type} {m : Machine σ φ} {commands : List Command} {frames : Frames} {s : σ}

/-- The blocks that are being run, if any, fit. -/
def Fits (commands : List Command) : Stage σ φ → Prop
  | .running frames _ => frames.Fits commands
  | .finished _ => True

/-- Behind the closer of a block the next round fits, or what is below. -/
theorem fits_resume (h : frames.Fits commands) (hc : commands[frames.cursor]? = some .loopEnd) :
    (resume (frames.cursor + 1) s frames : Stage σ φ).Fits commands := by
  cases frames with
  | program cursor => trivial
  | body cursor opener more outer =>
      obtain ⟨hwaiting, ⟨count, hopens⟩, rfl, houter⟩ := h
      cases more with
      | zero =>
          have hbehind : waiting commands (cursor + 1) = (waiting commands cursor).tail :=
            Nesting.waiting_loopEnd hc
          rw [hwaiting, List.tail_cons] at hbehind
          exact houter.moveTo hbehind
      | succ more => exact houter.push hopens more

theorem Fits.step {stage : Stage σ φ} (h : stage.Fits commands) :
    (stage.step m commands).Fits commands := by
  cases stage with
  | finished flow => trivial
  | running frames s =>
      have hfits : frames.Fits commands := h
      cases hs : m.stopped s with
      | true =>
          rw [step_of_stopped hs]
          trivial
      | false =>
          rcases Nesting.at_cases commands frames.cursor with
            hpast | ⟨count, hc⟩ | hc | ⟨c, hc, plain⟩
          · rw [step_end hs (List.getElem?_eq_none hpast)]
            cases frames <;> trivial
          · rw [step_loopStart hs hc]
            rcases count.val with _ | more
            · cases hclose : Nesting.matchingEnd commands frames.cursor with
              | none => trivial
              | some close =>
                  exact hfits.moveTo (Nesting.Pairs.waiting_eq ⟨⟨count, hc⟩, hclose⟩)
            · exact hfits.push hc more
          · rw [step_loopEnd hs hc]
            split
            · trivial
            · exact fits_resume hfits hc
          · rw [step_plain hs hc plain]
            split
            · exact hfits.moveTo (Nesting.waiting_plain hc plain)
            · trivial

/-- All along a run the blocks fit. -/
theorem fits_run (m : Machine σ φ) (commands : List Command) (s : σ) (n : Nat) :
    ((step m commands)^[n] (.running (.program 0) s)).Fits commands := by
  induction n with
  | zero => rfl
  | succ n ih =>
      rw [Function.iterate_succ_apply']
      exact ih.step

/-- A run comes to an end after some steps, and it comes to what running the program
comes to. -/
theorem exists_finished (m : Machine σ φ) (commands : List Command) (s : σ) :
    ∃ n, (step m commands)^[n] (.running (.program 0) s) =
      .finished (Control.block m commands 0 0 (Nat.le_refl 0) none s) := by
  have hreaches : Reaches m commands (.running (.program 0) s) _ :=
    runs_block m commands (.program 0) s 0 0 rfl (Nat.le_refl 0)
  rwa [deliver_program] at hreaches

end Stage

namespace Program

variable {p : Program} {frames : Frames}

/-- The largest depth of a step. -/
def deepest (p : Program) : Nat := (p.steps.map Step.depth).foldr max 0

theorem depth_le_deepest {index : Nat} {step : Step} (hstep : p.get? index = some step) :
    step.depth ≤ p.deepest := by
  have hmem : step.depth ∈ p.steps.map Step.depth :=
    List.mem_map_of_mem (List.mem_of_getElem? hstep)
  exact List.le_max_of_le' 0 hmem (Nat.le_refl _)

/-- A block that comes to a command is one of as many blocks as the command is deep, and
of the program. -/
theorem Made.height_eq (made : p.Made) (h : frames.Fits p.commands) {step : Step}
    (hstep : p.get? frames.cursor = some step) : frames.height = step.depth + 1 := by
  rw [h.height_eq, made.depth_eq hstep]

/-- No more loops wait at the end than there are around the last command, and one that the
last command opens. -/
theorem Made.length_waiting_size_le (made : p.Made) :
    (Nesting.waiting p.commands p.size).length ≤ p.deepest + 1 := by
  cases hsize : p.size with
  | zero => exact Nat.zero_le _
  | succ last =>
      have hinside : last < p.size := hsize ▸ Nat.lt_succ_self last
      obtain ⟨step, hstep⟩ : ∃ step, p.get? last = some step :=
        ⟨_, List.getElem?_eq_getElem hinside⟩
      have hlast := Nesting.length_waiting_succ_le p.commands last
      rw [← made.depth_eq hstep] at hlast
      exact hlast.trans (Nat.succ_le_succ (depth_le_deepest hstep))

/-- As many blocks are being run as the deepest command is deep, and the program; one more
may be, at the end of the program inside a loop that is not closed. -/
theorem Made.height_le (made : p.Made) (h : frames.Fits p.commands) :
    frames.height ≤ p.deepest + 1 ∨
      (p.size ≤ frames.cursor ∧ (∃ start count, Nesting.Unclosed p.commands start count) ∧
        frames.height ≤ p.deepest + 2) := by
  by_cases hinside : frames.cursor < p.size
  · obtain ⟨step, hstep⟩ : ∃ step, p.get? frames.cursor = some step :=
      ⟨_, List.getElem?_eq_getElem hinside⟩
    rw [made.height_eq h hstep]
    exact .inl (Nat.succ_le_succ (depth_le_deepest hstep))
  · have hend : p.size ≤ frames.cursor := Nat.le_of_not_lt hinside
    have hheight : frames.height = (Nesting.waiting p.commands p.size).length + 1 := by
      rw [h.height_eq, Nesting.waiting_of_le (by rwa [length_commands]), length_commands]
    have hlength := made.length_waiting_size_le
    cases hstack : Nesting.waiting p.commands p.size with
    | nil =>
        rw [hheight, hstack]
        exact .inl (Nat.succ_le_succ (Nat.zero_le _))
    | cons innermost rest =>
        have hopen : innermost ∈ Nesting.waiting p.commands p.commands.length := by
          rw [length_commands, hstack]
          exact List.mem_cons_self
        exact .inr ⟨hend, ⟨innermost, Nesting.mem_waiting_length_iff.1 hopen⟩, by omega⟩

end Program

end Beamwalk
