/-
Module: Beamwalk.Proofs.Run.Resumption
Purpose: Where a run goes on behind a loop, whether the loop was repeated or passed over.
Main exports: Flow.Behind, Control.behind_block, Control.Rounds, Control.rounds_of_repeatBody,
  Program.recount, Control.loop_resumes
-/
import Beamwalk.Proofs.Program.Pairing
import Beamwalk.Proofs.Program.Unrolling
import Beamwalk.Proofs.Run.Verdict

namespace Beamwalk

/-!
A loop that is repeated finds its closer by running into it: inner loops are run or
passed over on the way, and the innermost block that comes to a closer ends there.  A
loop that is passed over finds its closer by counting markers.  That both find the same
one holds of any machine, so it does not depend on what the commands do, on the state in
which the loop is come to, or on who listens.
-/

open Nesting (Opens Pairs matchingEnd waiting)

/-- If control is handed back, it resumes behind the closer of the loop that opens at
`start`. -/
def Flow.Behind {σ φ : Type} {low : Nat} (commands : List Command) (start : Nat) :
    Flow σ φ low → Prop
  | .next cursor _ _ => ∃ close, Pairs commands start close ∧ cursor = close + 1
  | .halted _ _ | .malformed _ _ => True

namespace Control

variable {σ φ : Type} {m : Machine σ φ} {commands : List Command} {low start cursor : Nat}

/-! ### A block ends behind the closer of its opener -/

theorem behind_skip (opens : Opens commands start) (s : σ) :
    (skip commands start s : Flow σ φ (start + 1)).Behind commands start := by
  cases hclose : matchingEnd commands start with
  | none =>
      rw [skip_of_open hclose]
      trivial
  | some close =>
      rw [skip_of_matchingEnd hclose]
      exact ⟨close, ⟨opens, hclose⟩, rfl⟩

/-- The last round decides where control resumes, and it resumes where every round does. -/
theorem behind_repeatBody {body : σ → Flow σ φ low} (hbody : ∀ s, (body s).Behind commands start)
    (more : Nat) (s : σ) : (repeatBody body more s).Behind commands start := by
  induction more generalizing s with
  | zero => exact hbody s
  | succ more ih =>
      rw [repeatBody]
      cases hflow : body s with
      | next resumed le t => exact ih t
      | halted why t => trivial
      | malformed error t => trivial

theorem behind_around (opens : Opens commands start) (count : Count)
    {body : σ → Flow σ φ (start + 1)} (hbody : ∀ s, (body s).Behind commands start) (s : σ) :
    (around commands start count body s).Behind commands start := by
  unfold around
  cases count.val with
  | zero => exact behind_skip opens s
  | succ more => exact behind_repeatBody hbody more s

/-- Control leaves a block behind the closer of its opener.  The opener is the innermost
one that waits wherever the block has come to: a loop in the block that is left behind
has taken its own opener and closer along.  The induction is on what is left of the
program, as for the recursion of `block`. -/
theorem behind_block {rest : List Nat} (le : low ≤ cursor)
    (hinside : waiting commands cursor = start :: rest) (s : σ) :
    (block m commands low cursor le (some start) s).Behind commands start := by
  induction hleft : commands.length - cursor using Nat.strongRecOn
    generalizing low start cursor rest s with
  | ind left ih =>
  cases hs : m.stopped s with
  | true =>
      rw [block_of_stopped hs]
      trivial
  | false =>
      rcases Nesting.at_cases commands cursor with hpast | ⟨count, hc⟩ | hc | ⟨c, hc, plain⟩
      · rw [block_end_open hs (List.getElem?_eq_none hpast)]
        trivial
      · have hlt := (List.getElem?_eq_some_iff.1 hc).1
        have hbody (t : σ) : (block m commands (cursor + 1) (cursor + 1) (Nat.le_refl _)
            (some cursor) t).Behind commands cursor :=
          ih _ (by omega) (Nat.le_refl _) (Nesting.waiting_loopStart hc) t rfl
        have hloop : (loop m commands cursor count s).Behind commands cursor :=
          behind_around ⟨count, hc⟩ count hbody s
        rw [block_loopStart hs hc]
        cases hflow : loop m commands cursor count s with
        | next resumed hresumed t =>
            rw [hflow] at hloop
            obtain ⟨close, hpair, rfl⟩ := hloop
            -- the same openers wait behind the inner loop as in front of it
            exact ih _ (by omega) _ (hpair.waiting_eq.trans hinside) t rfl
        | halted why t => trivial
        | malformed error t => trivial
      · rw [block_loopEnd hs hc]
        exact ⟨cursor, Nesting.pairs_iff_waiting.2 ⟨hc, by rw [hinside]; rfl⟩, rfl⟩
      · have hlt := (List.getElem?_eq_some_iff.1 hc).1
        rw [block_unmarked hs hc plain]
        rcases m.perform c s with ⟨t, _ | why⟩
        · exact ih _ (by omega) _ ((Nesting.waiting_plain hc plain).trans hinside) t rfl
        · trivial

/-- Control leaves a body behind the closer of its loop. -/
theorem behind_body (opens : Opens commands start) (s : σ) :
    (block m commands (start + 1) (start + 1) (Nat.le_refl _) (some start) s).Behind
      commands start := by
  obtain ⟨count, hc⟩ := opens
  exact behind_block (Nat.le_refl _) (Nesting.waiting_loopStart hc) s

theorem behind_loop (opens : Opens commands start) (count : Count) (s : σ) :
    (loop m commands start count s).Behind commands start :=
  behind_around opens count (behind_body opens) s

/-! ### The rounds of a loop -/

/-- So many rounds of a body lead from one state to another, and in each of them the body
hands control back at `resumed`. -/
inductive Rounds (body : σ → Flow σ φ low) (resumed : Nat) : Nat → σ → σ → Prop where
  | none (s : σ) : Rounds body resumed 0 s s
  | round {n : Nat} {s t u : σ} {le : low ≤ resumed} (first : body s = .next resumed le t)
      (later : Rounds body resumed n t u) : Rounds body resumed (n + 1) s u

/-- If a body can resume at one place only, it does so in every round. -/
theorem rounds_of_repeatBody {body : σ → Flow σ φ low} {more resumed : Nat} {le : low ≤ resumed}
    {s u : σ}
    (hplace : ∀ s t other hother, body s = .next other hother t → other = resumed)
    (h : repeatBody body more s = .next resumed le u) : Rounds body resumed (more + 1) s u := by
  induction more generalizing s with
  | zero => exact .round h (.none u)
  | succ more ih =>
      rw [repeatBody] at h
      cases hflow : body s with
      | next other hother t =>
          rw [hflow] at h
          obtain rfl := hplace s t other hother hflow
          exact .round hflow (ih h)
      | halted why t =>
          rw [hflow] at h
          cases h
      | malformed error t =>
          rw [hflow] at h
          cases h

/-! ### The loop as a whole -/

/-- Where control resumes behind a loop. -/
theorem pairs_of_loop (opens : Opens commands start) {count : Count} {s t : σ} {resumed : Nat}
    {le : start + 1 ≤ resumed} (h : loop m commands start count s = .next resumed le t) :
    ∃ close, Pairs commands start close ∧ resumed = close + 1 := by
  have hbehind := behind_loop (m := m) opens count s
  rwa [h] at hbehind

/-- A loop that resumes has run as many rounds as its count says. -/
theorem rounds_of_loop (opens : Opens commands start) {count : Count} {s t : σ} {resumed : Nat}
    {le : start + 1 ≤ resumed} (h : loop m commands start count s = .next resumed le t) :
    Rounds (block m commands (start + 1) (start + 1) (Nat.le_refl _) (some start)) resumed
      count.val s t := by
  obtain ⟨close, hpair, rfl⟩ := pairs_of_loop opens h
  rw [loop, around] at h
  cases hcount : count.val with
  | zero =>
      rw [hcount] at h
      cases (skip_of_matchingEnd hpair.2 s).symm.trans h
      exact .none s
  | succ more =>
      rw [hcount] at h
      refine rounds_of_repeatBody (fun s t other hother hbody => ?_) h
      have hround := behind_body (m := m) opens s
      rw [hbody] at hround
      obtain ⟨close', hpair', rfl⟩ := hround
      rw [Option.some.inj (hpair'.2.symm.trans hpair.2)]

/-- A loop that is to run zero times does nothing but resume behind its closer. -/
theorem loop_zero {close : Nat} (hclose : matchingEnd commands start = some close) (s : σ) :
    loop m commands start .zero s =
      .next (close + 1) (Nat.succ_le_succ (Nesting.le_of_matchingEnd hclose)) s :=
  skip_of_matchingEnd hclose s

end Control

namespace Program

variable {p : Program} {start close : Nat} {count : Count}

/-- The program with another count at the opener at `start`. -/
def recount (p : Program) (start : Nat) (count : Count) : Program :=
  .ofCommands (p.commands.set start (.loopStart count))

theorem getElem?_recount (opens : Opens p.commands start) :
    (p.recount start count).commands[start]? = some (.loopStart count) := by
  obtain ⟨before, hc⟩ := opens
  rw [recount, commands_ofCommands]
  exact List.getElem?_set_self (List.getElem?_eq_some_iff.1 hc).1

/-- The search for a closer does not look at the count of the opener. -/
theorem matchingEnd_recount (opens : Opens p.commands start) :
    matchingEnd (p.recount start count).commands start = matchingEnd p.commands start := by
  obtain ⟨before, hc⟩ := opens
  have hbehind : (p.recount start count).commands.drop (start + 1) =
      p.commands.drop (start + 1) := by
    rw [recount, commands_ofCommands]
    exact List.drop_set_of_lt (Nat.lt_succ_self start)
  rw [matchingEnd, matchingEnd, Nesting.drop_of_getElem? (getElem?_recount ⟨before, hc⟩),
    Nesting.drop_of_getElem? hc, hbehind, Nesting.closerFrom, Nesting.closerFrom]

end Program

namespace Control

/-- A loop that is repeated resumes where it would resume if it were passed over.  Whatever
the machine, the state and the count: if the loop hands control back, it does so behind the
closer that the search finds, which is inside the program, and each of its rounds did so at
the same place; if the search finds no closer, the loop never hands control back; and with a
count of zero at its opener the run would go on with the same command. -/
theorem loop_resumes {σ φ : Type} (m : Machine σ φ) (p : Program) {start : Nat}
    (opens : Opens p.commands start) :
    (∀ count s resumed le t, loop m p.commands start count s = .next resumed le t →
      matchingEnd p.commands start = some (resumed - 1) ∧
      Rounds (block m p.commands (start + 1) (start + 1) (Nat.le_refl _) (some start))
        resumed count.val s t ∧
      start < resumed ∧ resumed ≤ p.size) ∧
    (matchingEnd p.commands start = none →
      ∀ count s resumed le t, loop m p.commands start count s ≠ .next resumed le t) ∧
    ∀ count s resumed le t,
      loop m (p.recount start count).commands start count s = .next resumed le t →
        ∀ other, loop m (p.recount start .zero).commands start .zero other =
          .next resumed le other := by
  refine ⟨fun count s resumed le t h => ?_, fun hopen count s resumed le t h => ?_,
    fun count s resumed le t h other => ?_⟩
  · have hrounds := rounds_of_loop opens h
    obtain ⟨close, hpair, rfl⟩ := pairs_of_loop opens h
    have hinside := (List.getElem?_eq_some_iff.1 (Nesting.pairs_iff_waiting.1 hpair).1).1
    rw [Program.length_commands] at hinside
    exact ⟨hpair.2, hrounds, le, hinside⟩
  · obtain ⟨close, hpair, _⟩ := pairs_of_loop opens h
    cases hopen.symm.trans hpair.2
  · obtain ⟨close, hpair, rfl⟩ := pairs_of_loop ⟨count, Program.getElem?_recount opens⟩ h
    have hclose := hpair.2
    rw [Program.matchingEnd_recount opens] at hclose
    exact loop_zero ((Program.matchingEnd_recount opens).trans hclose) other

end Control

/-- A loop that is passed over, inside one that is repeated. -/
def Program.inset : Program :=
  .ofCommands [.loopStart (.clamp 2), .loopStart .zero, .jump, .loopEnd, .advance, .loopEnd, .uTurn]

/-- Two rounds in a corridor resume at the sixth command, and so would none; a loop that is
not closed does not resume. -/
theorem Control.loop_resumes_inset :
    let m := Execution.machine .silent
    let x : Execution := ⟨(Run.ofLevel .corridor).state, [], false⟩
    let two : Count := .clamp 2
    (∃ le y, Opens Program.inset.commands 0 ∧
      loop m Program.inset.commands 0 two x = .next 6 le y ∧
      matchingEnd Program.inset.commands 0 = some 5 ∧
      Rounds (block m Program.inset.commands 1 1 (Nat.le_refl 1) (some 0)) 6 2 x y ∧
      loop m (Program.inset.recount 0 .zero).commands 0 .zero x = .next 6 le x) ∧
    matchingEnd Program.twoUnclosed.commands 1 = none ∧
      ∀ resumed le y, loop m Program.twoUnclosed.commands 1 two x ≠ .next resumed le y := by
  intro m x two
  let body : Block := .loop .zero (.step .jump rfl .done) (.step .advance rfl .done)
  have hround (t : Execution) :
      block m Program.inset.commands 1 1 (Nat.le_refl 1) (some 0) t =
        Flow.follow (m.performAll body.flat t) (Flow.next 6 (by decide)) :=
    block_body rfl (block_segment (Execution.passesReserved_machine .silent) body (Nat.le_refl 1)
      t rfl)
  obtain ⟨y, hperformed⟩ : ∃ y, m.performAll
      (List.replicate (Count.clamp 2).val body.flat).flatten x = (y, none) := ⟨_, rfl⟩
  have hloop : loop m Program.inset.commands 0 two x = .next 6 (by decide) y := by
    rw [loop_closed rfl rfl hround, hperformed]
    rfl
  have opens : Opens Program.inset.commands 0 := ⟨two, rfl⟩
  obtain ⟨hnext, _, hzero⟩ := loop_resumes m .inset opens
  obtain ⟨hclose, hrounds, _, _⟩ := hnext two x 6 _ y hloop
  have opens' : Opens Program.twoUnclosed.commands 1 := ⟨two, rfl⟩
  obtain ⟨_, hunclosed, _⟩ := loop_resumes m .twoUnclosed opens'
  exact ⟨⟨_, y, opens, hloop, hclose, hrounds, hzero two x 6 _ y hloop x⟩, rfl,
    hunclosed rfl two x⟩

end Beamwalk
