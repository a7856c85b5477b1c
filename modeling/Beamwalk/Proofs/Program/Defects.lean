/-
Module: Beamwalk.Proofs.Program.Defects
Purpose: The openers that no closer ends, and which of them a run comes upon.
Main exports: Nesting.Unclosed, Nesting.FirstUnclosed, Nesting.ReportedUnclosed,
  Outline.openers, Outline.openersFrom_add, Nesting.unclosed_iff_mem_openers, Outline.culprit,
  Nesting.reported_culprit
-/
import Beamwalk.Proofs.Program.Balance

namespace Beamwalk

namespace Nesting

/-- The command at `index` opens a loop of the given count, and no closer ends
that loop. -/
def Unclosed (commands : List Command) (index : Nat) (count : Count) : Prop :=
  commands[index]? = some (.loopStart count) ∧ matchingEnd commands index = none

/-- The first of the loops that are not closed. -/
def FirstUnclosed (commands : List Command) (index : Nat) : Prop :=
  (∃ count, Unclosed commands index count) ∧
    ∀ other count, Unclosed commands other count → index ≤ other

/-- Of the loops that are not closed the first one with a count of zero, or the
last one if every count is positive. -/
def ReportedUnclosed (commands : List Command) (index : Nat) : Prop :=
  (∃ count, Unclosed commands index count ∧ count.val = 0 ∧
      ∀ other count, Unclosed commands other count → count.val = 0 → index ≤ other) ∨
    (∃ count, Unclosed commands index count ∧
      ∀ other count, Unclosed commands other count → count.val ≠ 0 ∧ other ≤ index)

end Nesting

namespace Outline

/-- The stray openers among stray markers that begin at `index`, with their
places and counts. -/
def openersFrom (index : Nat) : List (Stray × Block) → List (Nat × Count)
  | [] => []
  | (.closer, b) :: rest => openersFrom (index + 1 + b.size) rest
  | (.opener count, b) :: rest => (index, count) :: openersFrom (index + 1 + b.size) rest

/-- The openers without a partner. -/
def openers (o : Outline) : List (Nat × Count) := openersFrom o.head.size o.tail

theorem le_of_mem_openersFrom {index : Nat} {tail : List (Stray × Block)} {entry : Nat × Count}
    (h : entry ∈ openersFrom index tail) : index ≤ entry.1 := by
  fun_induction openersFrom index tail with
  | case1 => simp at h
  | case2 index b rest ih =>
      have := ih h
      omega
  | case3 index count b rest ih =>
      rcases List.mem_cons.1 h with rfl | hrest
      · exact Nat.le_refl _
      · have := ih hrest
        omega

/-- Stray openers are listed from the first to the last. -/
theorem pairwise_openersFrom (index : Nat) (tail : List (Stray × Block)) :
    (openersFrom index tail).Pairwise fun a b => a.1 < b.1 := by
  fun_induction openersFrom index tail with
  | case1 => exact .nil
  | case2 index b rest ih => exact ih
  | case3 index count b rest ih =>
      refine List.pairwise_cons.2 ⟨fun entry hentry => ?_, ih⟩
      have := le_of_mem_openersFrom hentry
      simp only
      omega

/-- Moving stray markers moves their openers. -/
theorem openersFrom_add (index offset : Nat) (tail : List (Stray × Block)) :
    openersFrom (index + offset) tail =
      (openersFrom index tail).map fun entry => (entry.1 + offset, entry.2) := by
  fun_induction openersFrom index tail with
  | case1 => rfl
  | case2 index b rest ih =>
      rw [openersFrom, ← ih]
      congr 1
      omega
  | case3 index count b rest ih =>
      rw [openersFrom, List.map_cons, ← ih]
      congr 2
      omega

theorem mem_openersFrom_add {index offset : Nat} {tail : List (Stray × Block)} {i : Nat}
    {count : Count} :
    (i, count) ∈ openersFrom (index + offset) tail ↔
      ∃ k, i = k + offset ∧ (k, count) ∈ openersFrom index tail := by
  rw [openersFrom_add, List.mem_map]
  constructor
  · intro h
    obtain ⟨⟨k, _⟩, hk, heq⟩ := h
    cases heq
    exact ⟨k, rfl, hk⟩
  · intro h
    obtain ⟨k, rfl, hk⟩ := h
    exact ⟨(k, count), hk, rfl⟩

/-- The opener that a run comes upon when it enters, one after the other, loops
that are not closed: it cannot pass over a loop with a count of zero, and it
misses the closer of the innermost loop at the end of the program. -/
def culprit (innermost : Nat) : List (Nat × Count) → Nat
  | [] => innermost
  | (index, count) :: rest => if count.val = 0 then index else culprit index rest

end Outline

namespace Nesting

open Outline

/-- Moving a sequence moves its closers. -/
theorem closerFrom_add (depth index offset : Nat) (commands : List Command) :
    closerFrom depth (index + offset) commands =
      (closerFrom depth index commands).map (· + offset) := by
  fun_induction closerFrom depth index commands with
  | case1 => simp [closerFrom]
  | case2 depth index count rest ih => rw [closerFrom, Nat.add_right_comm, ih]
  | case3 => simp [closerFrom]
  | case4 => simp [closerFrom]
  | case5 index rest depth ih => rw [closerFrom, Nat.add_right_comm, ih]
  | case6 depth index c rest hstart hzero hone htwo ih =>
      rw [closerFrom, Nat.add_right_comm, ih]
      all_goals assumption

theorem unclosed_cons_succ {c : Command} {rest : List Command} {i : Nat} {count : Count} :
    Unclosed (c :: rest) (i + 1) count ↔ Unclosed rest i count := by
  simp [Unclosed, matchingEnd, closerFrom_add]

theorem not_unclosed_cons_zero {c : Command} (h : ∀ count, c ≠ .loopStart count)
    {rest : List Command} {count : Count} : ¬ Unclosed (c :: rest) 0 count := by
  intro h
  rcases h with ⟨hget, _⟩
  simp only [List.getElem?_cons_zero, Option.some.injEq] at hget
  exact h count hget

/-- A command that opens no loop is passed over in the search for openers. -/
theorem unclosed_cons {c : Command} (h : ∀ count, c ≠ .loopStart count) {rest : List Command}
    {i : Nat} {count : Count} :
    Unclosed (c :: rest) i count ↔ ∃ k, i = k + 1 ∧ Unclosed rest k count := by
  cases i with
  | zero => simp [not_unclosed_cons_zero h]
  | succ i => simp [unclosed_cons_succ]

/-- Every loop of a balanced stretch is closed. -/
theorem unclosed_block {b : Block} {rest : List Command} {i : Nat} {count : Count} :
    Unclosed (b.commands ++ rest) i count ↔ ∃ k, i = k + b.size ∧ Unclosed rest k count := by
  induction b generalizing rest i with
  | done => simp [Block.commands]
  | step command plain next ih =>
      have hstart : ∀ count, command ≠ .loopStart count := by
        rintro count rfl
        simp [Command.isMarker] at plain
      rw [Block.commands, List.cons_append, unclosed_cons hstart]
      simp only [ih, Block.size_step]
      constructor
      · intro h
        rcases h with ⟨_, rfl, k, rfl, hk⟩
        exact ⟨k, by omega, hk⟩
      · intro h
        rcases h with ⟨k, rfl, hk⟩
        exact ⟨k + next.size, by omega, k, rfl, hk⟩
  | loop other body next ihBody ihNext =>
      have hsplit : (Block.loop other body next).commands ++ rest =
          .loopStart other :: (body.commands ++ .loopEnd :: (next.commands ++ rest)) := by
        simp [Block.commands]
      rw [hsplit, Block.size_loop]
      cases i with
      | zero =>
          have hclosed : matchingEnd
              (.loopStart other :: (body.commands ++ .loopEnd :: (next.commands ++ rest))) 0 =
                some (0 + 1 + body.size) := matchingEnd_loop rfl
          constructor
          · intro h
            rcases h with ⟨_, hnone⟩
            rw [hclosed] at hnone
            cases hnone
          · intro h
            rcases h with ⟨k, hk, _⟩
            omega
      | succ i =>
          rw [unclosed_cons_succ, ihBody]
          simp only [unclosed_cons (c := .loopEnd) (fun count h => by cases h), ihNext]
          constructor
          · intro h
            rcases h with ⟨_, rfl, _, rfl, k, rfl, hk⟩
            exact ⟨k, by omega, hk⟩
          · intro h
            rcases h with ⟨k, hi, hk⟩
            exact ⟨k + next.size + 1, by omega, k + next.size, rfl, k, rfl, hk⟩

/-- Openers alone close nothing. -/
theorem closerFrom_openers {tail : List (Stray × Block)}
    (hopen : ∀ entry ∈ tail, entry.1 ≠ .closer) (depth index : Nat) :
    closerFrom (depth + 1) index (tailCommands tail) = none := by
  induction tail generalizing depth index with
  | nil => simp [tailCommands, closerFrom]
  | cons entry rest ih =>
      obtain ⟨marker, b⟩ := entry
      cases marker with
      | closer => exact absurd rfl (hopen (.closer, b) (by simp))
      | opener count =>
          rw [tailCommands, Stray.command, closerFrom, closerFrom_block]
          exact ih (fun entry hentry => hopen entry (by simp [hentry])) ..

/-- A stray opener finds no closer. -/
theorem matchingEnd_opener {commands : List Command} {start : Nat} {count : Count} {b : Block}
    {tail : List (Stray × Block)} (hopen : ∀ entry ∈ tail, entry.1 ≠ .closer)
    (h : commands.drop start = .loopStart count :: (b.commands ++ tailCommands tail)) :
    matchingEnd commands start = none := by
  rw [matchingEnd, h, closerFrom, closerFrom_block]
  exact closerFrom_openers hopen 0 _

/-- Among stray markers the openers are the loops that are not closed. -/
theorem unclosed_tailCommands {tail : List (Stray × Block)} (ordered : ClosersFirst tail) {i : Nat}
    {count : Count} :
    Unclosed (tailCommands tail) i count ↔ (i, count) ∈ openersFrom 0 tail := by
  induction tail generalizing i with
  | nil => simp [Unclosed, tailCommands, openersFrom]
  | cons entry rest ih =>
      obtain ⟨marker, b⟩ := entry
      have hbehind : ClosersFirst rest := by
        cases marker with
        | closer => exact ordered
        | opener other => exact closersFirst_of_open ordered
      have hshift : ∀ k, Unclosed (b.commands ++ tailCommands rest) k count ↔
          (k + 1, count) ∈ openersFrom (0 + 1 + b.size) rest := by
        intro k
        rw [Nat.add_assoc, mem_openersFrom_add, unclosed_block]
        simp only [ih hbehind]
        constructor
        · intro h
          rcases h with ⟨j, rfl, hj⟩
          exact ⟨j, by omega, hj⟩
        · intro h
          rcases h with ⟨j, hk, hj⟩
          exact ⟨j, by omega, hj⟩
      have hpositive : (0, count) ∉ openersFrom (0 + 1 + b.size) rest := by
        intro hmem
        have := le_of_mem_openersFrom hmem
        simp at this
      cases marker with
      | closer =>
          rw [tailCommands, Stray.command, openersFrom]
          cases i with
          | zero => simp [not_unclosed_cons_zero, hpositive]
          | succ i => rw [unclosed_cons_succ, hshift]
      | opener other =>
          rw [tailCommands, Stray.command, openersFrom, List.mem_cons]
          cases i with
          | zero =>
              have hnone : matchingEnd (.loopStart other :: (b.commands ++ tailCommands rest)) 0 =
                  none := matchingEnd_opener ordered rfl
              simp [Unclosed, hnone, hpositive, eq_comm]
          | succ i =>
              rw [unclosed_cons_succ, hshift]
              simp

/-- The stray openers of an outline are the loops that are not closed. -/
theorem unclosed_iff_mem_openers (commands : List Command) {i : Nat} {count : Count} :
    Unclosed commands i count ↔ (i, count) ∈ (Outline.read commands).openers := by
  have hcommands : commands =
      (read commands).head.commands ++ tailCommands (read commands).tail :=
    (commands_read commands).symm
  have hmem : (i, count) ∈ openersFrom (0 + (read commands).head.size) (read commands).tail ↔
      ∃ k, i = k + (read commands).head.size ∧
        (k, count) ∈ openersFrom 0 (read commands).tail := mem_openersFrom_add
  rw [Nat.zero_add] at hmem
  rw [Outline.openers, hmem]
  conv => lhs; rw [hcommands]
  simp only [unclosed_block, unclosed_tailCommands (closersFirst_read commands)]

/-- The first stray opener opens the first loop that is not closed. -/
theorem firstUnclosed_of_openers {commands : List Command} {index : Nat} {count : Count} {b : Block}
    {rest : List (Stray × Block)}
    (h : (Outline.read commands).openers = openersFrom index ((.opener count, b) :: rest)) :
    FirstUnclosed commands index := by
  rw [openersFrom] at h
  constructor
  · refine ⟨count, ?_⟩
    rw [unclosed_iff_mem_openers, h]
    exact List.mem_cons_self ..
  · intro other count' hother
    rw [unclosed_iff_mem_openers, h] at hother
    rcases List.mem_cons.1 hother with heq | hrest
    · cases heq
      exact Nat.le_refl _
    · have hle : index + 1 + b.size ≤ other := le_of_mem_openersFrom hrest
      omega

/-- In an ordered list of openers the culprit is the first with a count of zero,
or the last one if every count is positive. -/
theorem culprit_spec (innermost : Nat) (openers : List (Nat × Count))
    (sorted : openers.Pairwise fun a b => a.1 < b.1) :
    (∃ count, (culprit innermost openers, count) ∈ openers ∧ count.val = 0 ∧
        ∀ other ∈ openers, other.2.val = 0 → culprit innermost openers ≤ other.1) ∨
      ((∀ other ∈ openers, other.2.val ≠ 0 ∧ other.1 ≤ culprit innermost openers) ∧
        (openers ≠ [] → ∃ count, (culprit innermost openers, count) ∈ openers)) := by
  induction openers generalizing innermost with
  | nil => exact .inr ⟨by simp, by simp⟩
  | cons entry rest ih =>
      obtain ⟨index, count⟩ := entry
      obtain ⟨hfirst, hrest⟩ := List.pairwise_cons.1 sorted
      by_cases hzero : count.val = 0
      · refine .inl ⟨count, by simp [culprit, hzero], hzero, fun other hother _ => ?_⟩
        rcases List.mem_cons.1 hother with rfl | hother
        · simp [culprit, hzero]
        · simpa [culprit, hzero] using Nat.le_of_lt (hfirst other hother)
      · have hculprit : culprit innermost ((index, count) :: rest) = culprit index rest := by
          simp [culprit, hzero]
        rw [hculprit]
        rcases ih index hrest with ⟨zero, hmem, hval, hleast⟩ | ⟨hgreatest, hsome⟩
        · refine .inl ⟨zero, by simp [hmem], hval, fun other hother hother' => ?_⟩
          rcases List.mem_cons.1 hother with rfl | hother
          · exact absurd hother' hzero
          · exact hleast other hother hother'
        · have hindex : index ≤ culprit index rest ∧
              ∃ count', (culprit index rest, count') ∈ (index, count) :: rest := by
            cases rest with
            | nil => exact ⟨by simp [culprit], count, by simp [culprit]⟩
            | cons next behind =>
                obtain ⟨count', hmem⟩ := hsome (by simp)
                exact ⟨Nat.le_of_lt (hfirst _ hmem), count', List.mem_cons_of_mem _ hmem⟩
          refine .inr ⟨fun other hother => ?_, fun _ => hindex.2⟩
          rcases List.mem_cons.1 hother with rfl | hother
          · exact ⟨hzero, hindex.1⟩
          · exact hgreatest other hother

/-- The culprit among the openers of a sequence is the one to be reported. -/
theorem reported_culprit {commands : List Command} (innermost : Nat)
    (h : (Outline.read commands).openers ≠ []) :
    ReportedUnclosed commands (culprit innermost (Outline.read commands).openers) := by
  rcases culprit_spec innermost _ (pairwise_openersFrom _ _) with
    ⟨count, hmem, hzero, hleast⟩ | ⟨hgreatest, hsome⟩
  · refine .inl ⟨count, (unclosed_iff_mem_openers commands).2 hmem, hzero, ?_⟩
    intro other count' hother hcount'
    exact hleast _ ((unclosed_iff_mem_openers commands).1 hother) hcount'
  · obtain ⟨count, hmem⟩ := hsome h
    refine .inr ⟨count, (unclosed_iff_mem_openers commands).2 hmem, ?_⟩
    intro other count' hother
    exact hgreatest _ ((unclosed_iff_mem_openers commands).1 hother)

end Nesting

end Beamwalk
