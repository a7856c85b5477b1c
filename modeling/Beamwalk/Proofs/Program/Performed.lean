/-
Module: Beamwalk.Proofs.Program.Performed
Purpose: The commands that a machine performs while it runs a program, told by a machine that
  recalls its last command.
Main exports: Machine.recalling, Machine.performed, Machine.reached, Machine.performed_eq,
  Machine.performed_prefix
-/
import Beamwalk.Proofs.Program.Recording

namespace Beamwalk.Machine

variable {σ φ : Type} {m : Machine σ φ} {s : σ} {commands : List Command}

/-- The machine with the command that it performed last.  The reserved markers,
which do nothing, are not recalled. -/
def recalling (m : Machine σ φ) : Machine (σ × Option Command) φ where
  stopped s := m.stopped s.1
  perform c s :=
    let (t, halt) := m.perform c s.1
    ((t, if c.isReserved then s.2 else some c), halt)

/-- The commands that a machine performs when it runs a program, the one at which
it gives up included: those that lead to its boundaries. -/
def performed (m : Machine σ φ) (p : Program) (s : σ) : List Command :=
  (m.recalling.boundaries p (s, none)).filterMap Prod.snd

/-- How far a machine gets with commands that it is to perform one after the
other. -/
def reached (m : Machine σ φ) : List Command → σ → List Command
  | [], _ => []
  | c :: rest, s =>
      if m.stopped s then []
      else
        match m.perform c s with
        | (_, some _) => [c]
        | (t, none) => c :: reached m rest t

theorem reached_of_stopped (h : m.stopped s = true) (commands : List Command) :
    m.reached commands s = [] := by
  cases commands <;> simp [reached, h]

theorem reached_cons (h : m.stopped s = false) (c : Command) (rest : List Command) :
    m.reached (c :: rest) s =
      match m.perform c s with
      | (_, some _) => [c]
      | (t, none) => c :: m.reached rest t := by
  simp [reached, h]

/-- A machine skips nothing of what it is to perform. -/
theorem reached_prefix (commands : List Command) (s : σ) : m.reached commands s <+: commands := by
  induction commands generalizing s with
  | nil => exact List.prefix_refl _
  | cons c rest ih =>
      cases hs : m.stopped s with
      | true =>
          rw [reached_of_stopped hs]
          exact List.nil_prefix
      | false =>
          rw [reached_cons hs]
          rcases m.perform c s with ⟨t, _ | why⟩
          · exact List.cons_prefix_cons.2 ⟨rfl, ih t⟩
          · exact List.cons_prefix_cons.2 ⟨rfl, List.nil_prefix⟩

theorem passesReserved_recalling (passes : m.PassesReserved) : m.recalling.PassesReserved := by
  intro c s h
  simp [recalling, passes c s.1 h, h]

/-- What is recalled at the visits are the commands that led to them. -/
theorem visits_recalling (acts : ∀ c ∈ commands, c.isReserved = false) (s : σ)
    (last : Option Command) :
    (m.recalling.visits commands (s, last)).filterMap Prod.snd = m.reached commands s := by
  induction commands generalizing s last with
  | nil => rfl
  | cons c rest ih =>
      obtain ⟨hc, hrest⟩ := List.forall_mem_cons.1 acts
      cases hs : m.stopped s with
      | true =>
          have hrecalling : m.recalling.stopped (s, last) = true := hs
          rw [visits_of_stopped hrecalling, reached_of_stopped hs, List.filterMap_nil]
      | false =>
          have hrecalling : m.recalling.stopped (s, last) = false := hs
          have hperform : m.recalling.perform c (s, last) =
              (((m.perform c s).1, some c), (m.perform c s).2) := by
            simp [recalling, hc]
          rw [visits_cons hrecalling, reached_cons hs, hperform]
          rcases m.perform c s with ⟨t, _ | why⟩
          · exact congrArg (c :: ·) (ih hrest t (some c))
          · rfl

/-- What a machine performs is the script of the program, as far as it gets with
it. -/
theorem performed_eq (passes : m.PassesReserved) (p : Program) (s : σ) :
    m.performed p s = m.reached p.script s := by
  have hacts : ∀ c ∈ p.script, c.isReserved = false := fun c hc => (Program.mem_script hc).2
  rw [performed, boundaries_eq (passesReserved_recalling passes)]
  exact visits_recalling hacts s none

theorem performed_prefix (passes : m.PassesReserved) (p : Program) (s : σ) :
    m.performed p s <+: p.script := by
  rw [performed_eq passes]
  exact reached_prefix _ _

end Beamwalk.Machine
