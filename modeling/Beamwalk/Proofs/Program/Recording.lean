/-
Module: Beamwalk.Proofs.Program.Recording
Purpose: The states that a machine passes through while it runs a program, kept by a machine
  that records them.
Main exports: Machine.visits, Machine.Preserves, Machine.recording, Machine.boundaries,
  Machine.boundaries_eq, Machine.Preserves.boundaries
-/
import Beamwalk.Proofs.Program.Script

namespace Beamwalk

namespace Flow

variable {σ φ : Type} {low : Nat}

/-- The state in which a stretch of program hands control back. -/
def state : Flow σ φ low → σ
  | .next _ _ s | .halted _ s | .malformed _ s => s

theorem state_follow {performed : σ × Option (Halt φ)} {next : σ → Flow σ φ low}
    (h : ∀ s, (next s).state = s) : (follow performed next).state = performed.1 := by
  rcases performed with ⟨s, _ | why⟩
  · exact h s
  · rfl

end Flow

namespace Machine

variable {σ φ : Type} {m : Machine σ φ} {I : σ → Prop} {s : σ} {commands : List Command}

/-- The states in which commands leave the machine when they are performed one
after the other. -/
def visits (m : Machine σ φ) : List Command → σ → List σ
  | [], _ => []
  | c :: rest, s =>
      if m.stopped s then []
      else
        match m.perform c s with
        | (t, some _) => [t]
        | (t, none) => t :: visits m rest t

theorem visits_of_stopped (h : m.stopped s = true) (commands : List Command) :
    m.visits commands s = [] := by
  cases commands <;> simp [visits, h]

theorem visits_cons (h : m.stopped s = false) (c : Command) (rest : List Command) :
    m.visits (c :: rest) s =
      match m.perform c s with
      | (t, some _) => [t]
      | (t, none) => t :: m.visits rest t := by
  simp [visits, h]

/-- Performing ends in the last state visited. -/
theorem getLastD_visits (commands : List Command) (s : σ) :
    (m.visits commands s).getLastD s = (m.performAll commands s).1 := by
  induction commands generalizing s with
  | nil =>
      cases hs : m.stopped s with
      | true => simp [visits, performAll_of_stopped hs]
      | false => simp [visits, performAll_nil hs]
  | cons c rest ih =>
      cases hs : m.stopped s with
      | true => simp [visits_of_stopped hs, performAll_of_stopped hs]
      | false =>
          rw [visits_cons hs, performAll_cons hs]
          rcases m.perform c s with ⟨t, _ | why⟩
          · rw [List.getLastD_cons]
            exact ih t
          · rfl

/-- A property of states that no command destroys. -/
def Preserves (m : Machine σ φ) (I : σ → Prop) : Prop := ∀ c s, I s → I (m.perform c s).1

theorem Preserves.visits (h : m.Preserves I) (hs : I s) : ∀ t ∈ m.visits commands s, I t := by
  induction commands generalizing s with
  | nil => simp [Machine.visits]
  | cons c rest ih =>
      intro t ht
      cases hstopped : m.stopped s with
      | true => simp [visits_of_stopped hstopped] at ht
      | false =>
          rw [visits_cons hstopped] at ht
          have hc := h c s hs
          rcases hperform : m.perform c s with ⟨u, _ | why⟩
          · rw [hperform] at ht hc
            rcases List.mem_cons.1 ht with rfl | hrest
            · exact hc
            · exact ih hc t hrest
          · rw [hperform] at ht hc
            cases List.mem_singleton.1 ht
            exact hc

theorem Preserves.performAll (h : m.Preserves I) (hs : I s) : I (m.performAll commands s).1 := by
  rw [← getLastD_visits]
  cases hlast : (m.visits commands s).getLast? with
  | none => simpa [List.getLastD_eq_getLast?, hlast] using hs
  | some t =>
      have ht := h.visits hs t (List.mem_of_getLast? hlast)
      simpa [List.getLastD_eq_getLast?, hlast] using ht

/-- What is on record at a visit is still on record in the end. -/
theorem suffix_of_mem_visits {ι : Type} {log : σ → List ι}
    (grows : ∀ c s, log s <:+ log (m.perform c s).1) {t : σ} (ht : t ∈ m.visits commands s) :
    log t <:+ log (m.performAll commands s).1 := by
  have hkept : ∀ u, m.Preserves fun v => log u <:+ log v :=
    fun u c v hv => hv.trans (grows c v)
  induction commands generalizing s with
  | nil => cases ht
  | cons c rest ih =>
      cases hstopped : m.stopped s with
      | true => simp [visits_of_stopped hstopped] at ht
      | false =>
          rw [visits_cons hstopped] at ht
          rw [performAll_cons hstopped]
          rcases hperform : m.perform c s with ⟨u, _ | why⟩
          · rw [hperform] at ht
            rcases List.mem_cons.1 ht with rfl | hrest
            · exact (hkept t).performAll (List.suffix_refl _)
            · exact ih hrest
          · rw [hperform] at ht
            cases List.mem_singleton.1 ht
            exact List.suffix_refl _

/-! ### A machine that keeps a record -/

/-- The machine with a record of the states in which its commands left it, the
latest first.  The reserved markers, which do nothing, leave no trace in it. -/
def recording (m : Machine σ φ) : Machine (σ × List σ) φ where
  stopped s := m.stopped s.1
  perform c s :=
    let (t, halt) := m.perform c s.1
    ((t, if c.isReserved then s.2 else t :: s.2), halt)

theorem passesReserved_recording (passes : m.PassesReserved) : m.recording.PassesReserved := by
  intro c s h
  simp [recording, passes c s.1 h, h]

/-- Keeping a record does not change what is recorded. -/
theorem performAll_recording (acts : ∀ c ∈ commands, c.isReserved = false) (s : σ)
    (seen : List σ) :
    m.recording.performAll commands (s, seen) =
      (((m.performAll commands s).1, (m.visits commands s).reverse ++ seen),
        (m.performAll commands s).2) := by
  induction commands generalizing s seen with
  | nil => cases hs : m.stopped s <;> simp [Machine.performAll, visits, recording, hs]
  | cons c rest ih =>
      have hc : c.isReserved = false := acts c (List.mem_cons_self ..)
      cases hs : m.stopped s with
      | true =>
          have hrecording : m.recording.stopped (s, seen) = true := hs
          simp [performAll_of_stopped hs, performAll_of_stopped hrecording, visits_of_stopped hs]
      | false =>
          have hrecording : m.recording.stopped (s, seen) = false := hs
          rw [performAll_cons hs, performAll_cons hrecording, visits_cons hs]
          have hperform : m.recording.perform c (s, seen) =
              (((m.perform c s).1, (m.perform c s).1 :: seen), (m.perform c s).2) := by
            simp [recording, hc]
          rw [hperform]
          rcases m.perform c s with ⟨t, _ | why⟩
          · have hrest := ih (fun c' hc' => acts c' (List.mem_cons_of_mem c hc')) t (t :: seen)
            simpa using hrest
          · rfl

/-- The record of running the commands from an index on. -/
def recordFrom (m : Machine σ φ) (commands : List Command) (start : Nat) (s : σ) : List σ :=
  (Control.block m.recording commands start start (Nat.le_refl start) none (s, [])).state.2

/-- The states at the boundaries of the commands when a machine runs a program:
the one it starts in, and those in which the commands leave it. -/
def boundaries (m : Machine σ φ) (p : Program) (s : σ) : List σ :=
  s :: (m.recordFrom p.commands 0 s).reverse

/-- The boundaries are those of the script of the program. -/
theorem boundaries_eq (passes : m.PassesReserved) (p : Program) (s : σ) :
    m.boundaries p s = s :: m.visits p.script s := by
  obtain ⟨cursor, le, hblock⟩ :=
    Control.block_program (passesReserved_recording passes) p (s, ([] : List σ))
  have hacts : ∀ c ∈ p.script, c.isReserved = false := fun c hc => (Program.mem_script hc).2
  rw [boundaries, recordFrom, hblock, Flow.state_follow, performAll_recording hacts]
  · simp
  · intro t
    cases p.defect? with
    | none => rfl
    | some error => rfl

theorem Preserves.boundaries (h : m.Preserves I) (passes : m.PassesReserved) (hs : I s)
    (p : Program) : ∀ t ∈ m.boundaries p s, I t := by
  intro t ht
  rw [boundaries_eq passes] at ht
  rcases List.mem_cons.1 ht with rfl | hvisited
  · exact hs
  · exact h.visits hs t hvisited

end Machine

end Beamwalk
