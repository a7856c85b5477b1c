/-
Module: Beamwalk.Proofs.Program.Splicing
Purpose: What may be put into a balanced program, or taken out of it, at any place.
Main exports: Nesting.climb, Nesting.climb_append, Nesting.climb_block, Nesting.lift_of_climb,
  Program.check_iff_climb, Program.check_iff_of_block_between,
  Program.both_checked_iff, Program.check_iff_of_put, Program.check_iff_of_taken
-/
import Beamwalk.Proofs.Program.Pairing

namespace Beamwalk

namespace Command

/-- A command opens a loop, closes one, or is no marker. -/
theorem marker_cases (c : Command) :
    (∃ count, c = .loopStart count) ∨ c = .loopEnd ∨ c.isMarker = false := by
  cases c with
  | loopStart count => exact .inl ⟨count, rfl⟩
  | loopEnd => exact .inr (.inl rfl)
  | _ => exact .inr (.inr rfl)

theorem lift_plain {c : Command} (plain : c.isMarker = false) : c.lift = 0 := by
  cases c <;> simp [lift, isMarker] at plain ⊢

theorem lift_ne_zero {c : Command} (marker : c.isMarker = true) : c.lift ≠ 0 := by
  cases c <;> simp [lift, isMarker] at marker ⊢

end Command

namespace Nesting

/-!
The balance check remembers the indices of the openers that wait, since it reports one of
them.  Whether it finds anything depends on their number alone; and the number, unlike the
indices, stays the same behind a place where something is put in that opens as many loops
as it closes.
-/

/-- How many openers wait behind the commands if `depth` wait in front of them; `none` if
one of the closers closes nothing. -/
def climb : (depth : Nat) → List Command → Option Nat
  | depth, [] => some depth
  | depth, .loopStart _ :: rest => climb (depth + 1) rest
  | 0, .loopEnd :: _ => none
  | depth + 1, .loopEnd :: rest => climb depth rest
  | depth, _ :: rest => climb depth rest

theorem climb_plain {c : Command} (plain : c.isMarker = false) (depth : Nat)
    (rest : List Command) : climb depth (c :: rest) = climb depth rest := by
  cases c <;> simp [climb, Command.isMarker] at plain ⊢

/-- What stands behind a place depends on how many openers wait there. -/
theorem climb_append (depth : Nat) (front back : List Command) :
    climb depth (front ++ back) = (climb depth front).bind fun height => climb height back := by
  induction front generalizing depth with
  | nil => rfl
  | cons c rest ih =>
      rcases c.marker_cases with ⟨count, rfl⟩ | rfl | plain
      · exact ih (depth + 1)
      · cases depth with
        | zero => rfl
        | succ depth => exact ih depth
      · rw [List.cons_append, climb_plain plain, climb_plain plain, ih]

/-- Behind a balanced stretch as many openers wait as in front of it. -/
theorem climb_block (b : Block) (depth : Nat) : climb depth b.commands = some depth := by
  induction b generalizing depth with
  | done => rfl
  | step command plain rest ih => rw [Block.commands, climb_plain plain, ih]
  | loop count body rest ihBody ihRest =>
      rw [Block.commands, climb, climb_append, ihBody, Option.bind_some, climb, ihRest]

/-- The number of openers that wait rises by one at each opener and falls by one at each
closer. -/
theorem lift_of_climb {depth height : Nat} {commands : List Command}
    (h : climb depth commands = some height) :
    (height : Int) = depth + (commands.map Command.lift).sum := by
  induction commands generalizing depth with
  | nil =>
      obtain rfl : depth = height := Option.some.inj h
      simp
  | cons c rest ih =>
      rcases c.marker_cases with ⟨count, rfl⟩ | rfl | plain
      · have hrest := ih h
        simp only [List.map_cons, List.sum_cons, Command.lift]
        omega
      · cases depth with
        | zero => cases h
        | succ depth =>
            have hrest := ih h
            simp only [List.map_cons, List.sum_cons, Command.lift]
            omega
      · rw [climb_plain plain] at h
        simpa [Command.lift_plain plain] using ih h

/-- The balance check finds nothing if the openers that wait, and those that come, are all
closed in the end. -/
theorem checkFrom_iff_climb (waiting : List Nat) (index : Nat) (commands : List Command) :
    checkFrom waiting index commands = .ok () ↔ climb waiting.length commands = some 0 := by
  induction commands generalizing waiting index with
  | nil =>
      cases waiting with
      | nil => exact ⟨fun _ => rfl, fun _ => rfl⟩
      | cons innermost waiting =>
          rw [checkFrom, List.getLast?_cons]
          simp [climb]
  | cons c rest ih =>
      rcases c.marker_cases with ⟨count, rfl⟩ | rfl | plain
      · exact ih (index :: waiting) (index + 1)
      · cases waiting with
        | nil => simp [checkFrom, climb]
        | cons innermost waiting => exact ih waiting (index + 1)
      · rw [checkFrom_plain plain, climb_plain plain]
        exact ih waiting (index + 1)

end Nesting

namespace Program

open Nesting

variable {p q : Program} {front back : List Command} {command : Command}

theorem check_iff_climb : p.check = .ok () ↔ climb 0 p.commands = some 0 :=
  checkFrom_iff_climb [] 0 p.commands

/-- A balanced program opens as many loops as it closes. -/
theorem sum_lift_of_check (balanced : p.check = .ok ()) :
    (p.commands.map Command.lift).sum = 0 := by
  have hsum := lift_of_climb (check_iff_climb.1 balanced)
  omega

/-- A balanced stretch makes no difference to the balance of a program, wherever it
stands. -/
theorem check_iff_of_block_between (b : Block) (hp : p.commands = front ++ back)
    (hq : q.commands = front ++ (b.commands ++ back)) :
    q.check = .ok () ↔ p.check = .ok () := by
  have hclimb : climb 0 q.commands = climb 0 p.commands := by
    simp only [hp, hq, climb_append, climb_block, Option.bind_some]
  rw [check_iff_climb, check_iff_climb, hclimb]

/-- Of two programs that differ by a single marker, wherever it stands, at most one is
balanced. -/
theorem not_both_checked_of_marker_between (marker : command.isMarker = true)
    (hp : p.commands = front ++ back) (hq : q.commands = front ++ command :: back) :
    ¬ (p.check = .ok () ∧ q.check = .ok ()) := by
  rintro ⟨hbalanced, hbalanced'⟩
  have hsum := sum_lift_of_check hbalanced
  have hsum' := sum_lift_of_check hbalanced'
  rw [hp, List.map_append, List.sum_append] at hsum
  rw [hq, List.map_append, List.sum_append, List.map_cons, List.sum_cons] at hsum'
  apply Command.lift_ne_zero marker
  omega

/-- Of two programs that differ by one command, if one is balanced, so is the other unless
the command is a marker. -/
theorem both_checked_iff (hp : p.commands = front ++ back)
    (hq : q.commands = front ++ command :: back) (one : p.check = .ok () ∨ q.check = .ok ()) :
    p.check = .ok () ∧ q.check = .ok () ↔ command.isMarker = false := by
  constructor
  · intro both
    by_contra marker
    rw [Bool.not_eq_false] at marker
    exact not_both_checked_of_marker_between marker hp hq both
  · intro plain
    have hsame : q.check = .ok () ↔ p.check = .ok () :=
      check_iff_of_block_between (.step command plain .done) hp hq
    rcases one with hbalanced | hbalanced
    · exact ⟨hbalanced, hsame.2 hbalanced⟩
    · exact ⟨hsame.1 hbalanced, hbalanced⟩

/-- A command that is put into a balanced program leaves it balanced unless it is a
marker. -/
theorem check_iff_of_put (hp : p.commands = front ++ back)
    (hq : q.commands = front ++ command :: back) (balanced : p.check = .ok ()) :
    q.check = .ok () ↔ command.isMarker = false := by
  rw [← both_checked_iff hp hq (.inl balanced)]
  exact (and_iff_right balanced).symm

/-- A command that is taken out of a balanced program leaves it balanced unless it is a
marker. -/
theorem check_iff_of_taken (hp : p.commands = front ++ command :: back)
    (hq : q.commands = front ++ back) (balanced : p.check = .ok ()) :
    q.check = .ok () ↔ command.isMarker = false := by
  rw [← both_checked_iff hq hp (.inr balanced)]
  exact (and_iff_left balanced).symm

/-! ### Places of edits -/

/-- A command is put in between two parts of a program. -/
theorem exists_insert_between (p : Program) (index : Nat) (command : Command) :
    ∃ front back, p.commands = front ++ back ∧ front.length = min index p.size ∧
      (p.insert index command).commands = front ++ command :: back := by
  have hlength : (p.commands.take (min index p.size)).length = min index p.size := by
    rw [List.length_take, length_commands]
    omega
  refine ⟨p.commands.take (min index p.size), p.commands.drop (min index p.size),
    (List.take_append_drop _ _).symm, hlength, ?_⟩
  have hinsert := insertIdx_length_append (p.commands.take (min index p.size))
    (p.commands.drop (min index p.size)) command
  rwa [hlength, List.take_append_drop, ← commands_insert] at hinsert

/-- A command that is taken out stood between two parts of a program. -/
theorem exists_remove_between {index : Nat} (h : (p.remove index).2 = some command) :
    ∃ front back, p.commands = front ++ command :: back ∧
      (p.remove index).1.commands = front ++ back := by
  rw [removed_remove] at h
  refine ⟨p.commands.take index, p.commands.drop (index + 1), ?_, ?_⟩
  · rw [← drop_of_getElem? h, List.take_append_drop]
  · rw [commands_remove, List.eraseIdx_eq_take_drop_succ]

end Program

end Beamwalk
