/-
Module: Beamwalk.Proofs.Program.Block
Purpose: Every command sequence as balanced blocks between markers without a partner.
Main exports: Block, Block.commands, Block.flat, Outline, Outline.read, Outline.commands_read,
  Outline.read_block, Outline.closersFirst_read, Program.unrolled
-/
import Beamwalk.Program.Basic

namespace Beamwalk

namespace Command

/-- The command opens or closes a loop. -/
def isMarker : Command → Bool
  | .loopStart _ | .loopEnd => true
  | _ => false

/-- The command is one of the markers of a conditional, which do nothing. -/
def isReserved : Command → Bool
  | .ifThen | .ifElse | .ifEnd => true
  | _ => false

end Command

/-- A balanced stretch of program: each of its loops is closed inside it. -/
inductive Block where
  | done
  /-- A command that is no marker, and what follows it. -/
  | step (command : Command) (plain : command.isMarker = false) (rest : Block)
  /-- A closed loop, and what follows it. -/
  | loop (count : Count) (body rest : Block)
deriving Repr, Inhabited, DecidableEq

namespace Block

/-- The commands as they stand in the program. -/
def commands : Block → List Command
  | .done => []
  | .step command _ rest => command :: rest.commands
  | .loop count body rest => .loopStart count :: (body.commands ++ .loopEnd :: rest.commands)

/-- The commands as they are performed: a loop is as many copies of its body as
its count says, and the reserved markers are left out. -/
def flat : Block → List Command
  | .done => []
  | .step command _ rest => if command.isReserved then rest.flat else command :: rest.flat
  | .loop count body rest => (List.replicate count.val body.flat).flatten ++ rest.flat

/-- The number of commands. -/
def size (b : Block) : Nat := b.commands.length

/-- One stretch after the other. -/
def append : Block → Block → Block
  | .done, c => c
  | .step command plain rest, c => .step command plain (rest.append c)
  | .loop count body rest, c => .loop count body (rest.append c)

@[simp] theorem append_done (b : Block) : b.append .done = b := by
  induction b with
  | done => rfl
  | step command plain rest ih => simp [append, ih]
  | loop count body rest _ ih => simp [append, ih]

theorem commands_append (b c : Block) : (b.append c).commands = b.commands ++ c.commands := by
  induction b with
  | done => rfl
  | step command plain rest ih => simp [append, commands, ih]
  | loop count body rest _ ih => simp [append, commands, ih]

theorem size_append (b c : Block) : (b.append c).size = b.size + c.size := by
  rw [size, commands_append, List.length_append, size, size]

theorem flat_append (b c : Block) : (b.append c).flat = b.flat ++ c.flat := by
  induction b with
  | done => rfl
  | step command plain rest ih =>
      simp only [append, flat, ih]
      split <;> rfl
  | loop count body rest _ ih => simp only [append, flat, ih, List.append_assoc]

@[simp] theorem size_done : Block.done.size = 0 := rfl

@[simp] theorem size_step (command : Command) (plain : command.isMarker = false) (rest : Block) :
    (Block.step command plain rest).size = rest.size + 1 := by
  simp [size, commands]

@[simp] theorem size_loop (count : Count) (body rest : Block) :
    (Block.loop count body rest).size = body.size + rest.size + 2 := by
  simp [size, commands]
  omega

/-- Only commands that act on actors are performed. -/
theorem mem_flat {b : Block} {c : Command} (h : c ∈ b.flat) :
    c.isMarker = false ∧ c.isReserved = false := by
  induction b with
  | done => simp [flat] at h
  | step command plain rest ih =>
      simp only [flat] at h
      split at h
      · exact ih h
      · rename_i acts
        rcases List.mem_cons.1 h with rfl | hrest
        · exact ⟨plain, by simpa using acts⟩
        · exact ih hrest
  | loop count body rest ihBody ihRest =>
      rcases List.mem_append.1 h with hbody | hrest
      · obtain ⟨copy, hcopy, hmem⟩ := List.mem_flatten.1 hbody
        exact ihBody ((List.mem_replicate.1 hcopy).2 ▸ hmem)
      · exact ihRest hrest

/-- A sequence without markers, as a block. -/
def ofPlain : (commands : List Command) → (∀ c ∈ commands, c.isMarker = false) → Block
  | [], _ => .done
  | c :: rest, h =>
      .step c (h c (by simp)) (ofPlain rest fun d hd => h d (List.mem_cons_of_mem c hd))

theorem commands_ofPlain (commands : List Command) (h : ∀ c ∈ commands, c.isMarker = false) :
    (ofPlain commands h).commands = commands := by
  induction commands with
  | nil => rfl
  | cons c rest ih => simp [ofPlain, Block.commands, ih]

/-- Flattening leaves commands that act on actors as they are. -/
theorem flat_ofPlain (commands : List Command) (h : ∀ c ∈ commands, c.isMarker = false)
    (acts : ∀ c ∈ commands, c.isReserved = false) : (ofPlain commands h).flat = commands := by
  induction commands with
  | nil => rfl
  | cons c rest ih =>
      have hc : c.isReserved = false := acts c (by simp)
      have hrest := ih (fun d hd => h d (by simp [hd])) (fun d hd => acts d (by simp [hd]))
      simp [ofPlain, flat, hc, hrest]

end Block

/-!
A program that is not balanced still has a structure: the markers without a
partner cut it into balanced blocks.  Among them all closers come before all
openers, since an opener would have found a partner in any later closer.  The
outline is read from the end of the program to its beginning, so that the
partner of an opener, if there is one, is the first stray closer behind it.
-/

/-- A marker without a partner. -/
inductive Stray where
  | closer
  | opener (count : Count)
deriving Repr, Inhabited, DecidableEq

namespace Stray

/-- The marker as a command. -/
def command : Stray → Command
  | .closer => .loopEnd
  | .opener count => .loopStart count

end Stray

/-- A command sequence cut at its markers without a partner. -/
structure Outline where
  head : Block
  /-- The markers without a partner, each with the block behind it. -/
  tail : List (Stray × Block)
deriving Repr, Inhabited, DecidableEq

namespace Outline

/-- The commands of stray markers and the blocks behind them. -/
def tailCommands : List (Stray × Block) → List Command
  | [] => []
  | (marker, b) :: rest => marker.command :: (b.commands ++ tailCommands rest)

/-- The commands of an outline. -/
def commands (o : Outline) : List Command := o.head.commands ++ tailCommands o.tail

/-- Put a command in front of an outline.  An opener takes the first stray
closer as its partner. -/
def push (command : Command) (o : Outline) : Outline :=
  if plain : command.isMarker = false then ⟨.step command plain o.head, o.tail⟩
  else
    match command, o.tail with
    | .loopStart count, (.closer, after) :: rest => ⟨.loop count o.head after, rest⟩
    | .loopStart count, tail => ⟨.done, (.opener count, o.head) :: tail⟩
    | _, tail => ⟨.done, (.closer, o.head) :: tail⟩

/-- The outline of a command sequence. -/
def read (commands : List Command) : Outline := commands.foldr push ⟨.done, []⟩

/-- No opener comes before a closer. -/
def ClosersFirst : List (Stray × Block) → Prop
  | [] => True
  | (.closer, _) :: rest => ClosersFirst rest
  | (.opener _, _) :: rest => ∀ entry ∈ rest, entry.1 ≠ .closer

theorem push_plain {command : Command} (plain : command.isMarker = false) (o : Outline) :
    push command o = ⟨.step command plain o.head, o.tail⟩ := by
  simp [push, plain]

theorem push_loopEnd (o : Outline) : push .loopEnd o = ⟨.done, (.closer, o.head) :: o.tail⟩ := by
  simp [push, Command.isMarker]

theorem push_loopStart_closer (count : Count) (b after : Block) (rest : List (Stray × Block)) :
    push (.loopStart count) ⟨b, (.closer, after) :: rest⟩ = ⟨.loop count b after, rest⟩ := by
  simp [push, Command.isMarker]

/-- An opener without a closer behind it stays without a partner. -/
theorem push_loopStart_open (count : Count) {o : Outline}
    (h : ∀ entry ∈ o.tail, entry.1 ≠ .closer) :
    push (.loopStart count) o = ⟨.done, (.opener count, o.head) :: o.tail⟩ := by
  obtain ⟨b, tail⟩ := o
  match tail with
  | [] => simp [push, Command.isMarker]
  | (.closer, after) :: rest => exact absurd rfl (h (.closer, after) (by simp))
  | (.opener other, after) :: rest => simp [push, Command.isMarker]

/-- What an opener does depends on whether a closer comes first. -/
theorem push_loopStart (count : Count) {o : Outline} (ordered : ClosersFirst o.tail) :
    (∃ after rest, o.tail = (.closer, after) :: rest ∧
        push (.loopStart count) o = ⟨.loop count o.head after, rest⟩) ∨
      ((∀ entry ∈ o.tail, entry.1 ≠ .closer) ∧
        push (.loopStart count) o = ⟨.done, (.opener count, o.head) :: o.tail⟩) := by
  obtain ⟨b, tail⟩ := o
  match tail with
  | [] => exact .inr ⟨by simp, push_loopStart_open count (by simp)⟩
  | (.closer, after) :: rest => exact .inl ⟨after, rest, rfl, push_loopStart_closer ..⟩
  | (.opener other, after) :: rest =>
      have open' : ∀ entry ∈ (Stray.opener other, after) :: rest, entry.1 ≠ .closer := by
        intro entry hentry
        rcases List.mem_cons.1 hentry with rfl | hrest
        · simp
        · exact ordered entry hrest
      exact .inr ⟨open', push_loopStart_open count open'⟩

theorem closersFirst_of_open {tail : List (Stray × Block)}
    (h : ∀ entry ∈ tail, entry.1 ≠ .closer) : ClosersFirst tail := by
  match tail with
  | [] => trivial
  | (.closer, b) :: rest => exact absurd rfl (h (.closer, b) (by simp))
  | (.opener count, b) :: rest => exact fun entry hentry => h entry (by simp [hentry])

theorem closersFirst_push (command : Command) {o : Outline} (ordered : ClosersFirst o.tail) :
    ClosersFirst (push command o).tail := by
  by_cases plain : command.isMarker = false
  · simpa [push_plain plain] using ordered
  · cases command with
    | loopStart count =>
        rcases push_loopStart count ordered with ⟨after, rest, htail, hpush⟩ | ⟨hopen, hpush⟩
        · rw [hpush]
          rwa [htail] at ordered
        · rw [hpush]
          exact hopen
    | loopEnd =>
        rw [push_loopEnd]
        exact ordered
    | _ => simp [Command.isMarker] at plain

/-- In the outline of a command sequence no opener comes before a closer. -/
theorem closersFirst_read (commands : List Command) : ClosersFirst (read commands).tail := by
  induction commands with
  | nil => trivial
  | cons command rest ih => exact closersFirst_push command ih

theorem commands_push (command : Command) {o : Outline} (ordered : ClosersFirst o.tail) :
    (push command o).commands = command :: o.commands := by
  by_cases plain : command.isMarker = false
  · simp [push_plain plain, commands, Block.commands]
  · cases command with
    | loopStart count =>
        rcases push_loopStart count ordered with ⟨after, rest, htail, hpush⟩ | ⟨_, hpush⟩
        · simp [hpush, commands, htail, Block.commands, tailCommands, Stray.command]
        · simp [hpush, commands, Block.commands, tailCommands, Stray.command]
    | loopEnd => simp [push_loopEnd, commands, Block.commands, tailCommands, Stray.command]
    | _ => simp [Command.isMarker] at plain

/-- The outline of a command sequence shows all of it. -/
theorem commands_read (commands : List Command) : (read commands).commands = commands := by
  induction commands with
  | nil => rfl
  | cons command rest ih =>
      calc (push command (read rest)).commands
          = command :: (read rest).commands := commands_push command (closersFirst_read rest)
        _ = command :: rest := by rw [ih]

/-- A balanced stretch in front of a sequence joins the head of its outline. -/
theorem read_append (b : Block) (commands : List Command) :
    read (b.commands ++ commands) =
      ⟨b.append (read commands).head, (read commands).tail⟩ := by
  induction b generalizing commands with
  | done => rfl
  | step command plain rest ih =>
      calc read (command :: (rest.commands ++ commands))
          = push command (read (rest.commands ++ commands)) := rfl
        _ = _ := by rw [ih, push_plain plain]; rfl
  | loop count body rest ihBody ihRest =>
      have hrest : read (.loopEnd :: (rest.commands ++ commands)) =
          ⟨.done, (.closer, rest.append (read commands).head) :: (read commands).tail⟩ := by
        calc read (.loopEnd :: (rest.commands ++ commands))
            = push .loopEnd (read (rest.commands ++ commands)) := rfl
          _ = _ := by rw [ihRest, push_loopEnd]
      have hbody : read (body.commands ++ .loopEnd :: (rest.commands ++ commands)) =
          ⟨body, (.closer, rest.append (read commands).head) :: (read commands).tail⟩ := by
        rw [ihBody, hrest, Block.append_done]
      have hsplit : (Block.loop count body rest).commands ++ commands =
          .loopStart count :: (body.commands ++ .loopEnd :: (rest.commands ++ commands)) := by
        simp [Block.commands]
      calc read ((Block.loop count body rest).commands ++ commands)
          = push (.loopStart count)
              (read (body.commands ++ .loopEnd :: (rest.commands ++ commands))) := by
            rw [hsplit]; rfl
        _ = _ := by rw [hbody, push_loopStart_closer]; rfl

/-- A balanced sequence is read as the block that it spells. -/
theorem read_block (b : Block) : read b.commands = ⟨b, []⟩ := by
  have h := read_append b []
  simpa [read] using h

end Outline

namespace Program

/-- The outline of a program. -/
def outline (p : Program) : Outline := .read p.commands

/-- The flat form of a program: its loops written out, its reserved markers left
out.  Of a program that is not balanced only the part in front of the first
marker without a partner counts. -/
def unrolled (p : Program) : Program := .ofCommands p.outline.head.flat

end Program

end Beamwalk
