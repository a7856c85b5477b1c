/-
Module: Beamwalk.Proofs.Program.Unrolling
Purpose: Running a balanced stretch of program is performing its flat form.
Main exports: Machine.performAll, Machine.performAll_append, Flow.follow, Control.loop_closed,
  Control.block_segment
-/
import Beamwalk.Program.Control
import Beamwalk.Proofs.Program.Balance

namespace Beamwalk

namespace Machine

variable {σ φ : Type} {m : Machine σ φ} {s s' : σ}

/-- Perform commands one after the other.  The machine is asked whether to stop
before each of them and behind the last. -/
def performAll (m : Machine σ φ) : List Command → σ → σ × Option (Halt φ)
  | [], s => if m.stopped s then (s, some .stopped) else (s, none)
  | c :: rest, s =>
      if m.stopped s then (s, some .stopped)
      else
        match m.perform c s with
        | (s', some why) => (s', some why)
        | (s', none) => performAll m rest s'

/-- The machine passes over the reserved markers. -/
def PassesReserved (m : Machine σ φ) : Prop :=
  ∀ c s, c.isReserved = true → m.perform c s = (s, none)

theorem performAll_of_stopped (h : m.stopped s = true) (commands : List Command) :
    m.performAll commands s = (s, some .stopped) := by
  cases commands <;> simp [performAll, h]

theorem performAll_nil (h : m.stopped s = false) : m.performAll [] s = (s, none) := by
  simp [performAll, h]

theorem performAll_cons (h : m.stopped s = false) (c : Command) (rest : List Command) :
    m.performAll (c :: rest) s =
      match m.perform c s with
      | (s', some why) => (s', some why)
      | (s', none) => m.performAll rest s' := by
  simp [performAll, h]

/-- Performing comes to its end only where no stop is asked for. -/
theorem not_stopped_of_performAll {commands : List Command}
    (h : m.performAll commands s = (s', none)) : m.stopped s' = false := by
  induction commands generalizing s with
  | nil =>
      cases hs : m.stopped s with
      | true => simp [performAll_of_stopped hs] at h
      | false =>
          rw [performAll_nil hs] at h
          cases h
          exact hs
  | cons c rest ih =>
      cases hs : m.stopped s with
      | true => simp [performAll_of_stopped hs] at h
      | false =>
          rw [performAll_cons hs] at h
          rcases hc : m.perform c s with ⟨t, _ | why⟩
          · rw [hc] at h
            exact ih h
          · simp [hc] at h

/-- One sequence after the other. -/
theorem performAll_append (front back : List Command) (s : σ) :
    m.performAll (front ++ back) s =
      match m.performAll front s with
      | (s', some why) => (s', some why)
      | (s', none) => m.performAll back s' := by
  induction front generalizing s with
  | nil =>
      cases hs : m.stopped s with
      | true => simp [performAll_of_stopped hs]
      | false => simp [performAll_nil hs]
  | cons c rest ih =>
      cases hs : m.stopped s with
      | true => simp [performAll_of_stopped hs]
      | false =>
          rw [List.cons_append, performAll_cons hs, performAll_cons hs]
          rcases hc : m.perform c s with ⟨t, _ | why⟩
          · exact ih t
          · rfl

end Machine

namespace Flow

variable {σ φ : Type} {low : Nat}

/-- Go on as `next` says, unless performing has been given up. -/
def follow (performed : σ × Option (Halt φ)) (next : σ → Flow σ φ low) : Flow σ φ low :=
  match performed with
  | (s, none) => next s
  | (s, some why) => .halted why s

end Flow

namespace Control

variable {σ φ : Type} {m : Machine σ φ} {commands : List Command} {low cursor : Nat}
  {opener : Option Nat}

/-- The command at a cursor and what follows it. -/
theorem drop_eq_cons {c : Command} {rest : List Command} (h : commands.drop cursor = c :: rest) :
    commands[cursor]? = some c ∧ commands.drop (cursor + 1) = rest := by
  constructor
  · have hget : (commands.drop cursor)[0]? = some c := by rw [h]; rfl
    simpa using hget
  · rw [← List.drop_drop, h]
    rfl

theorem drop_eq_append {front rest : List Command} (h : commands.drop cursor = front ++ rest) :
    commands.drop (cursor + front.length) = rest := by
  rw [← List.drop_drop, h, List.drop_left]

/-- Only the value of the cursor matters. -/
theorem follow_block_congr {performed : σ × Option (Halt φ)} {cursor' : Nat} (e : cursor = cursor')
    (le : low ≤ cursor) (le' : low ≤ cursor') :
    Flow.follow performed (block m commands low cursor le opener) =
      Flow.follow performed (block m commands low cursor' le' opener) := by
  subst e
  rfl

theorem block_follow_of_stopped {s : σ} (h : m.stopped s = true) (le : low ≤ cursor)
    (flat : List Command) (next : σ → Flow σ φ low) :
    block m commands low cursor le opener s = Flow.follow (m.performAll flat s) next := by
  rw [block_of_stopped h, Machine.performAll_of_stopped h]
  rfl

theorem skip_of_matchingEnd {start e : Nat} (h : Nesting.matchingEnd commands start = some e)
    (s : σ) : (skip commands start s : Flow σ φ (start + 1)) =
      .next (e + 1) (Nat.succ_le_succ (Nesting.le_of_matchingEnd h)) s := by
  unfold skip
  split
  · rename_i e' he'
    cases he'.symm.trans h
    rfl
  · rename_i he'
    cases he'.symm.trans h

theorem skip_of_open {start : Nat} (h : Nesting.matchingEnd commands start = none) (s : σ) :
    (skip commands start s : Flow σ φ (start + 1)) = .malformed (.unclosedLoop start) s := by
  unfold skip
  split <;> simp_all

/-- A body that performs a flat form and resumes at one place does so in every
round. -/
theorem repeatBody_follow {body : σ → Flow σ φ low} {flat : List Command} {resumed : Nat}
    {le : low ≤ resumed}
    (hbody : ∀ s, body s = Flow.follow (m.performAll flat s) (Flow.next resumed le))
    (more : Nat) (s : σ) :
    repeatBody body more s =
      Flow.follow (m.performAll (List.replicate (more + 1) flat).flatten s)
        (Flow.next resumed le) := by
  induction more generalizing s with
  | zero => simpa [repeatBody] using hbody s
  | succ more ih =>
      rw [List.replicate_succ, List.flatten_cons, Machine.performAll_append, repeatBody, hbody]
      rcases hflat : m.performAll flat s with ⟨t, _ | why⟩
      · exact ih t
      · rfl

/-- A closed loop performs its body as often as its count says, whether it is
repeated or passed over, and resumes behind its closer. -/
theorem loop_closed {start : Nat} {count : Count} {body : Block} {rest : List Command} {s : σ}
    (h : commands.drop start = .loopStart count :: (body.commands ++ .loopEnd :: rest))
    (hs : m.stopped s = false)
    (hbody : ∀ t, block m commands (start + 1) (start + 1) (Nat.le_refl _) (some start) t =
      Flow.follow (m.performAll body.flat t)
        (Flow.next (start + 1 + body.size + 1) (by omega))) :
    loop m commands start count s =
      Flow.follow (m.performAll (List.replicate count.val body.flat).flatten s)
        (Flow.next (start + 1 + body.size + 1) (by omega)) := by
  unfold loop around
  split
  · rename_i hcount
    rw [skip_of_matchingEnd (Nesting.matchingEnd_loop h), hcount, List.replicate_zero,
      List.flatten_nil, Machine.performAll_nil hs]
    rfl
  · rename_i more hcount
    rw [repeatBody_follow hbody, hcount]

/-- A body that leads to its closer leads behind it. -/
theorem block_body {start : Nat} {body : Block}
    (hclose : commands[start + 1 + body.size]? = some .loopEnd) {t : σ}
    (hbody : block m commands (start + 1) (start + 1) (Nat.le_refl _) (some start) t =
      Flow.follow (m.performAll body.flat t)
        (block m commands (start + 1) (start + 1 + body.size) (Nat.le_add_right _ _)
          (some start))) :
    block m commands (start + 1) (start + 1) (Nat.le_refl _) (some start) t =
      Flow.follow (m.performAll body.flat t)
        (Flow.next (start + 1 + body.size + 1) (by omega)) := by
  rw [hbody]
  rcases hflat : m.performAll body.flat t with ⟨t', _ | why⟩
  · exact block_loopEnd (Machine.not_stopped_of_performAll hflat) hclose
  · rfl

/-- A command that is no marker is handed to the machine, and the block goes on behind it. -/
theorem block_unmarked {c : Command} {le : low ≤ cursor} {s : σ} (hs : m.stopped s = false)
    (hget : commands[cursor]? = some c) (plain : c.isMarker = false) :
    block m commands low cursor le opener s =
      match m.perform c s with
      | (t, some why) => .halted why t
      | (t, none) => block m commands low (cursor + 1) (Nat.le_succ_of_le le) opener t := by
  have hstart : ∀ count, c ≠ .loopStart count := by
    rintro count rfl
    cases plain
  have hend : c ≠ .loopEnd := by
    rintro rfl
    cases plain
  exact block_command hs hget hstart hend

/-- A command that is no marker is performed, unless it is reserved. -/
theorem block_plain (passes : m.PassesReserved) {c : Command} (plain : c.isMarker = false)
    (le : low ≤ cursor) {s : σ} (hs : m.stopped s = false) (hget : commands[cursor]? = some c)
    {flat : List Command} {next : σ → Flow σ φ low}
    (hnext : ∀ t, block m commands low (cursor + 1) (Nat.le_succ_of_le le) opener t =
      Flow.follow (m.performAll flat t) next) :
    block m commands low cursor le opener s =
      Flow.follow (m.performAll (if c.isReserved then flat else c :: flat) s) next := by
  rw [block_unmarked hs hget plain]
  by_cases hreserved : c.isReserved = true
  · rw [passes c s hreserved, if_pos hreserved]
    exact hnext s
  · rw [if_neg hreserved, Machine.performAll_cons hs]
    rcases m.perform c s with ⟨t, _ | why⟩
    · exact hnext t
    · rfl

/-- A balanced stretch of program performs its flat form, and control goes on
behind it.  Markers are places where a stop can be noticed, but the next command
or the end of the program would notice it in the same state. -/
theorem block_segment (passes : m.PassesReserved) (b : Block) {rest : List Command}
    (le : low ≤ cursor) (s : σ) (h : commands.drop cursor = b.commands ++ rest) :
    block m commands low cursor le opener s =
      Flow.follow (m.performAll b.flat s)
        (block m commands low (cursor + b.size) (Nat.le_add_right_of_le le) opener) := by
  induction b generalizing low cursor opener rest s with
  | done =>
      cases hs : m.stopped s with
      | true => exact block_follow_of_stopped hs le _ _
      | false =>
          rw [Block.flat, Machine.performAll_nil hs]
          rfl
  | step command plain next ih =>
      obtain ⟨hget, hdrop⟩ := drop_eq_cons h
      cases hs : m.stopped s with
      | true => exact block_follow_of_stopped hs le _ _
      | false =>
          apply block_plain passes plain le hs hget
          intro t
          rw [ih (Nat.le_succ_of_le le) t hdrop]
          exact follow_block_congr (by rw [Block.size_step]; omega) _ _
  | loop count body next ihBody ihNext =>
      have hsplit : commands.drop cursor =
          .loopStart count :: (body.commands ++ .loopEnd :: (next.commands ++ rest)) := by
        rw [h]
        simp [Block.commands]
      obtain ⟨hget, hdrop⟩ := drop_eq_cons hsplit
      obtain ⟨hclose, hbehind⟩ := drop_eq_cons (drop_eq_append hdrop)
      cases hs : m.stopped s with
      | true => exact block_follow_of_stopped hs le _ _
      | false =>
          rw [block_loopStart hs hget, loop_closed hsplit hs fun t =>
            block_body hclose (ihBody (Nat.le_refl _) t hdrop), Block.flat,
            Machine.performAll_append]
          rcases m.performAll (List.replicate count.val body.flat).flatten s with ⟨t, _ | why⟩
          · calc block m commands low (cursor + 1 + body.size + 1) _ opener t
                = Flow.follow (m.performAll next.flat t)
                    (block m commands low (cursor + 1 + body.size + 1 + next.size)
                      (by omega) opener) := ihNext (by omega) t hbehind
              _ = _ := follow_block_congr (by rw [Block.size_loop]; omega) _ _
          · rfl

end Control

end Beamwalk
