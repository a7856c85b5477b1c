/-
Module: Beamwalk.Proofs.Program.Script
Purpose: Every program, balanced or not, performs a fixed sequence of commands and then comes
  to its end or to a fixed defect.
Main exports: Outline.scriptFrom, Outline.defectFrom?, Program.script, Program.defect?,
  Control.block_open, Control.block_program, Machine.FailsFor
-/
import Beamwalk.Proofs.Program.Defects
import Beamwalk.Proofs.Program.Unrolling

namespace Beamwalk

/-!
Which command comes next does not depend on the machine, only whether the
machine gives up before.  Behind a marker without a partner little is left to
perform: a stray closer is a defect at once, and so is the opener of a loop that
is to be passed over, while the body of any other loop without a closer runs on
to the end of the program and never comes to a second round.
-/

namespace Outline

/-- The commands that are performed from the first stray marker on. -/
def scriptFrom : List (Stray × Block) → List Command
  | (.opener count, b) :: rest => if count.val = 0 then [] else b.flat ++ scriptFrom rest
  | _ => []

/-- The defect at which stray markers that begin at `index` end a run. -/
def defectFrom? (index : Nat) : List (Stray × Block) → Option ProgramError
  | [] => none
  | (.closer, _) :: _ => some (.unmatchedLoopEnd index)
  | tail => some (.unclosedLoop (culprit index (openersFrom index tail)))

end Outline

namespace Program

/-- The commands that a program performs unless something stops it. -/
def script (p : Program) : List Command :=
  p.outline.head.flat ++ Outline.scriptFrom p.outline.tail

/-- The defect in which a program ends unless something stops it before. -/
def defect? (p : Program) : Option ProgramError :=
  Outline.defectFrom? p.outline.head.size p.outline.tail

end Program

namespace Outline

/-- Only commands that act on actors are performed. -/
theorem mem_scriptFrom {tail : List (Stray × Block)} {c : Command} (h : c ∈ scriptFrom tail) :
    c.isMarker = false ∧ c.isReserved = false := by
  fun_induction scriptFrom tail with
  | case1 count b rest hzero => cases h
  | case2 count b rest hcount ih =>
      rcases List.mem_append.1 h with hbody | hrest
      · exact Block.mem_flat hbody
      · exact ih hrest
  | case3 tail hnone => cases h

end Outline

namespace Program

theorem mem_script {p : Program} {c : Command} (h : c ∈ p.script) :
    c.isMarker = false ∧ c.isReserved = false := by
  rcases List.mem_append.1 h with hhead | htail
  · exact Block.mem_flat hhead
  · exact Outline.mem_scriptFrom htail

/-- A balanced program performs its flat form and has no defect. -/
theorem script_of_check {p : Program} (h : p.check = .ok ()) :
    p.script = p.outline.head.flat ∧ p.defect? = none := by
  rw [script, defect?, tail_outline_of_check h]
  exact ⟨List.append_nil _, rfl⟩

/-- A stray closer that the check reports is the defect. -/
theorem defect?_of_stray {p : Program} {index : Nat}
    (h : p.check = .error (.unmatchedLoopEnd index)) :
    p.defect? = some (.unmatchedLoopEnd index) := by
  rw [check_eq_outline] at h
  rw [defect?]
  match htail : p.outline.tail with
  | [] => simp [htail] at h
  | (.opener count, b) :: rest => simp [htail] at h
  | (.closer, b) :: rest =>
      simp only [htail, Except.error.injEq] at h
      rw [Outline.defectFrom?, h]

end Program

namespace Flow

variable {σ φ : Type} {low : Nat} {m : Machine σ φ} {s : σ}

/-- What follows matters only in states that do not ask to stop. -/
theorem follow_congr {commands : List Command} {next next' : σ → Flow σ φ low}
    (h : ∀ t, m.stopped t = false → next t = next' t) :
    follow (m.performAll commands s) next = follow (m.performAll commands s) next' := by
  rcases hperformed : m.performAll commands s with ⟨t, _ | why⟩
  · exact h t (Machine.not_stopped_of_performAll hperformed)
  · rfl

theorem follow_append (front back : List Command) (next : σ → Flow σ φ low) :
    follow (m.performAll (front ++ back) s) next =
      follow (m.performAll front s) fun t => follow (m.performAll back t) next := by
  rw [Machine.performAll_append]
  rcases m.performAll front s with ⟨t, _ | why⟩
  · rfl
  · rfl

end Flow

namespace Control

open Outline

variable {σ φ : Type} {m : Machine σ φ} {commands : List Command} {low cursor : Nat}
  {opener : Option Nat}

/-- A body that ends in a defect runs once at most. -/
theorem repeatBody_malformed {body : σ → Flow σ φ low} {flat : List Command} {error : ProgramError}
    (hbody : ∀ s, body s = Flow.follow (m.performAll flat s) (.malformed error)) (more : Nat)
    (s : σ) : repeatBody body more s = Flow.follow (m.performAll flat s) (.malformed error) := by
  cases more with
  | zero => exact hbody s
  | succ more =>
      rw [repeatBody, hbody]
      rcases m.performAll flat s with ⟨t, _ | why⟩
      · rfl
      · rfl

/-- A loop without a closer is a defect itself when it is to be passed over;
otherwise the run ends in its body. -/
theorem loop_open {start : Nat} (count : Count) {flat : List Command} {error : ProgramError} {s : σ}
    (hs : m.stopped s = false) (hopen : Nesting.matchingEnd commands start = none)
    (hbody : ∀ t, block m commands (start + 1) (start + 1) (Nat.le_refl _) (some start) t =
      Flow.follow (m.performAll flat t) (.malformed error)) :
    loop m commands start count s =
      Flow.follow (m.performAll (if count.val = 0 then [] else flat) s)
        (.malformed (if count.val = 0 then .unclosedLoop start else error)) := by
  rcases hcount : count.val with _ | more
  · simp only [loop, around, hcount, if_true, Machine.performAll_nil hs]
    exact skip_of_open hopen s
  · simp only [loop, around, hcount, Nat.add_eq_zero_iff, Nat.one_ne_zero, and_false, if_false]
    exact repeatBody_malformed hbody more s

/-- A block goes the way of a loop in it that ends in a defect. -/
theorem block_of_loop {count : Count} {flat : List Command} {error : ProgramError}
    {le : low ≤ cursor} {s : σ} (hs : m.stopped s = false)
    (hget : commands[cursor]? = some (.loopStart count))
    (hloop : loop m commands cursor count s =
      Flow.follow (m.performAll flat s) (.malformed error)) :
    block m commands low cursor le opener s =
      Flow.follow (m.performAll flat s) (.malformed error) := by
  rw [block_loopStart hs hget, hloop]
  rcases m.performAll flat s with ⟨t, _ | why⟩
  · rfl
  · rfl

/-- A block that comes to an opener without a closer ends there, or in the body
of that loop. -/
theorem block_to_opener (passes : m.PassesReserved) {rest : List (Stray × Block)}
    (hopen : ∀ entry ∈ rest, entry.1 ≠ .closer) {b inner : Block} {count : Count}
    (le : low ≤ cursor) (opener : Option Nat) (default : Nat) (s : σ)
    (h : commands.drop cursor = b.commands ++ tailCommands ((.opener count, inner) :: rest))
    (hbody : ∀ t,
      commands.drop (cursor + b.size + 1) = inner.commands ++ tailCommands rest →
      block m commands (cursor + b.size + 1) (cursor + b.size + 1) (Nat.le_refl _)
          (some (cursor + b.size)) t =
        Flow.follow (m.performAll (inner.flat ++ scriptFrom rest) t)
          (.malformed (.unclosedLoop (culprit (cursor + b.size)
            (openersFrom (cursor + b.size + 1 + inner.size) rest))))) :
    block m commands low cursor le opener s =
      Flow.follow (m.performAll (b.flat ++ scriptFrom ((.opener count, inner) :: rest)) s)
        (.malformed (.unclosedLoop (culprit default
          (openersFrom (cursor + b.size) ((.opener count, inner) :: rest))))) := by
  have hdrop : commands.drop (cursor + b.size) =
      .loopStart count :: (inner.commands ++ tailCommands rest) := drop_eq_append h
  obtain ⟨hget, hinner⟩ := drop_eq_cons hdrop
  rw [block_segment passes b le s h, Flow.follow_append]
  apply Flow.follow_congr
  intro t ht
  have hloop := loop_open count ht (Nesting.matchingEnd_opener hopen hdrop)
    (fun u => hbody u hinner)
  simp only [scriptFrom, openersFrom, culprit]
  by_cases hzero : count.val = 0
  · simp only [hzero, if_true] at hloop ⊢
    exact block_of_loop ht hget hloop
  · simp only [hzero, if_false] at hloop ⊢
    exact block_of_loop ht hget hloop

/-- Inside a loop that is not closed, the run ends at the opener that the loops
entered on the way single out. -/
theorem block_open (passes : m.PassesReserved) {tail : List (Stray × Block)}
    (hopen : ∀ entry ∈ tail, entry.1 ≠ .closer) (b : Block) (le : low ≤ cursor) (start : Nat)
    (s : σ) (h : commands.drop cursor = b.commands ++ tailCommands tail) :
    block m commands low cursor le (some start) s =
      Flow.follow (m.performAll (b.flat ++ scriptFrom tail) s)
        (.malformed (.unclosedLoop (culprit start (openersFrom (cursor + b.size) tail)))) := by
  induction tail generalizing low cursor b start s with
  | nil =>
      have hend : commands[cursor + b.size]? = none := by
        have hdrop := drop_eq_append h
        simpa [tailCommands, Block.size] using hdrop
      rw [block_segment passes b le s h, scriptFrom, List.append_nil]
      apply Flow.follow_congr
      · intro t ht
        exact block_end_open ht hend
      · simp
  | cons entry rest ih =>
      obtain ⟨marker, inner⟩ := entry
      cases marker with
      | closer => exact absurd rfl (hopen (.closer, inner) (by simp))
      | opener count =>
          have hrest : ∀ entry ∈ rest, entry.1 ≠ .closer := fun entry hentry =>
            hopen entry (by simp [hentry])
          apply block_to_opener passes hrest le (some start) start s h
          intro t hinner
          exact ih hrest inner (Nat.le_refl _) (cursor + b.size) t hinner

/-- A closer without an opener is met as soon as control arrives there. -/
theorem block_stray_closer (passes : m.PassesReserved) {b : Block} {rest : List Command}
    (le : low ≤ cursor) (s : σ) (h : commands.drop cursor = b.commands ++ .loopEnd :: rest) :
    block m commands low cursor le none s =
      Flow.follow (m.performAll b.flat s) (.malformed (.unmatchedLoopEnd (cursor + b.size))) := by
  have hclose : commands[cursor + b.size]? = some .loopEnd := (drop_eq_cons (drop_eq_append h)).1
  rw [block_segment passes b le s h]
  apply Flow.follow_congr
  intro t ht
  exact block_loopEnd_stray ht hclose

/-- Running a program is performing its script, and then its end or its defect
is reached. -/
theorem block_program (passes : m.PassesReserved) (p : Program) (s : σ) :
    ∃ (cursor : Nat) (le : 0 ≤ cursor),
      block m p.commands 0 0 (Nat.le_refl _) none s =
        Flow.follow (m.performAll p.script s)
          (match p.defect? with
          | none => .next cursor le
          | some error => .malformed error) := by
  have hcommands : p.commands.drop 0 =
      p.outline.head.commands ++ tailCommands p.outline.tail :=
    (Outline.commands_read p.commands).symm
  have hordered : ClosersFirst p.outline.tail := Outline.closersFirst_read p.commands
  refine ⟨0 + p.outline.head.size, Nat.zero_le _, ?_⟩
  rw [Program.script, Program.defect?]
  match htail : p.outline.tail with
  | [] =>
      have hend : p.commands[0 + p.outline.head.size]? = none := by
        have hdrop := drop_eq_append hcommands
        simpa [htail, tailCommands, Block.size] using hdrop
      rw [block_segment passes _ _ s hcommands, scriptFrom, List.append_nil]
      apply Flow.follow_congr
      · intro t ht
        exact block_end ht hend
      · simp
  | (.closer, b) :: rest =>
      rw [htail] at hcommands
      rw [scriptFrom, List.append_nil, block_stray_closer passes (Nat.le_refl 0) s hcommands,
        Nat.zero_add]
      · rfl
      · simp
  | (.opener count, b) :: rest =>
      rw [htail] at hcommands hordered
      have hblock := block_to_opener passes hordered (Nat.le_refl 0) none p.outline.head.size s
        hcommands fun t hinner => block_open passes hordered b (Nat.le_refl _) _ t hinner
      rw [Nat.zero_add] at hblock
      exact hblock

end Control

/-- The machine gives up for a reason of the given kind, or because it was asked
to stop. -/
def Halt.Of {φ : Type} (kind : φ → Prop) : Halt φ → Prop
  | .stopped => True
  | .failed reason => kind reason

namespace Machine

variable {σ φ : Type} {m : Machine σ φ} {kind : φ → Prop} {s s' : σ}

/-- All failures of commands are of one kind. -/
def FailsFor (m : Machine σ φ) (kind : φ → Prop) : Prop :=
  ∀ c s s' why, m.perform c s = (s', some why) → Halt.Of kind why

theorem performAll_halt (fails : m.FailsFor kind) {commands : List Command} {why : Halt φ}
    (h : m.performAll commands s = (s', some why)) : Halt.Of kind why := by
  induction commands generalizing s with
  | nil =>
      cases hs : m.stopped s with
      | true =>
          rw [performAll_of_stopped hs] at h
          cases h
          trivial
      | false => simp [performAll_nil hs] at h
  | cons c rest ih =>
      cases hs : m.stopped s with
      | true =>
          rw [performAll_of_stopped hs] at h
          cases h
          trivial
      | false =>
          rw [performAll_cons hs] at h
          rcases hc : m.perform c s with ⟨t, _ | why'⟩
          · rw [hc] at h
            exact ih h
          · rw [hc] at h
            cases h
            exact fails c s _ _ hc

end Machine

end Beamwalk
