/-
Module: Beamwalk.Proofs.Editor.Listing
Purpose: What the listing of a program tells of its loops.
Main exports: Entry, Entry.ofLine, Entry.ofLine_line, Program.shown?, Program.indent?,
  Nesting.length_waiting_within, Nesting.indentation_eq, Program.Made.shown?_eq,
  Program.Made.indent?_pair, Program.Made.indent?_within, Program.listing_shows_blocks
-/
import Beamwalk.Editor.Listing
import Beamwalk.Proofs.Json.Lexemes
import Beamwalk.Proofs.Program.Pairing

namespace Beamwalk

/-!
A listing is text.  What it says of a program is read off its lines: the number, one blank,
the blanks by which the label is indented, and the label.
-/

/-- The character is a blank. -/
def isSpace (c : Char) : Bool := c = ' '

/-- What a line of a listing shows. -/
structure Entry where
  number : Nat
  /-- By how many blanks the label is indented. -/
  indent : Nat
  label : String
deriving Repr, Inhabited, DecidableEq

/-- Read a line from left to right. -/
def Entry.ofLine (line : String) : Entry :=
  let field := line.toList.dropWhile isSpace
  let text := (field.dropWhile Char.isDigit).tail
  { number := Nat.ofDigitChars 10 (field.takeWhile Char.isDigit) 0
    indent := (text.takeWhile isSpace).length
    label := String.ofList (text.dropWhile isSpace) }

/-- What the line of the command at an index shows. -/
def Program.shown? (p : Program) (index : Nat) : Option Entry :=
  p.lines[index]?.map Entry.ofLine

/-- How far the command at an index is indented. -/
def Program.indent? (p : Program) (index : Nat) : Option Nat := (p.shown? index).map Entry.indent

/-! ### Reading a line -/

/-- A label starts with a letter. -/
theorem Command.label_head (c : Command) :
    ∃ first rest, c.label.toList = first :: rest ∧ isSpace first = false := by
  cases c with
  | loopStart count =>
      refine ⟨'R', "epeat ".toList ++ (toString count.val).toList ++ ['x'], ?_, rfl⟩
      rw [label, String.toList_append, String.toList_append]
      rfl
  | _ => exact ⟨_, _, rfl, rfl⟩

/-- Characters of one kind are read up to the first one of another kind. -/
theorem span_stretch {kind : Char → Bool} {stretch : List Char} {c : Char} (rest : List Char)
    (hstretch : ∀ d ∈ stretch, kind d = true) (hc : kind c = false) :
    (stretch ++ c :: rest).takeWhile kind = stretch ∧
      (stretch ++ c :: rest).dropWhile kind = c :: rest := by
  rw [List.takeWhile_append_of_pos hstretch, List.dropWhile_append_of_pos hstretch]
  simp [hc]

theorem isSpace_of_mem_replicate {n : Nat} {c : Char} (h : c ∈ List.replicate n ' ') :
    isSpace c = true := by
  rw [List.eq_of_mem_replicate h]
  rfl

/-- What is read of a line that has its four parts. -/
theorem Entry.ofLine_of_parts {line : String} {margin indent : Nat} {digit first : Char}
    {digits rest : List Char}
    (hline : line.toList = List.replicate margin ' ' ++ (digit :: digits ++
      ' ' :: (List.replicate indent ' ' ++ first :: rest)))
    (hdigits : ∀ d ∈ digit :: digits, d.isDigit = true) (hfirst : isSpace first = false) :
    Entry.ofLine line =
      ⟨Nat.ofDigitChars 10 (digit :: digits) 0, indent, String.ofList (first :: rest)⟩ := by
  have hink : isSpace digit = false := by
    have hdigit := hdigits digit List.mem_cons_self
    refine decide_eq_false fun hblank => ?_
    rw [hblank] at hdigit
    cases hdigit
  have hfield : line.toList.dropWhile isSpace = digit :: digits ++
      ' ' :: (List.replicate indent ' ' ++ first :: rest) := by
    rw [hline, List.cons_append]
    exact (span_stretch _ (fun d => isSpace_of_mem_replicate) hink).2
  have hseparator : ' '.isDigit = false := rfl
  obtain ⟨hnumber, hbehind⟩ :=
    span_stretch (List.replicate indent ' ' ++ first :: rest) hdigits hseparator
  obtain ⟨hindent, htext⟩ := span_stretch rest
    (fun d => isSpace_of_mem_replicate (n := indent)) hfirst
  simp only [Entry.ofLine, hfield, hnumber, hbehind, List.tail_cons, hindent, htext,
    List.length_replicate]

/-- A line shows its number, the indentation of its step at two blanks for each loop, and
the label of the command. -/
theorem Entry.ofLine_line (number : Nat) (step : Step) :
    Entry.ofLine (step.line number) = ⟨number, 2 * step.indentation, step.command.label⟩ := by
  obtain ⟨first, rest, hlabel, hfirst⟩ := step.command.label_head
  obtain ⟨digit, digits, hnumber, -⟩ := Numeral.toDigits_head number
  have hline : (step.line number).toList =
      List.replicate (3 - (Nat.toDigits 10 number).length) ' ' ++ (digit :: digits ++
        ' ' :: (List.replicate (2 * step.indentation) ' ' ++ first :: rest)) := by
    rw [Step.line, String.toList_append, String.toList_ofList, hlabel, padLeft, ← hnumber]
    simp only [List.append_assoc, List.cons_append]
  have hdigits : ∀ d ∈ digit :: digits, d.isDigit = true := by
    intro d hd
    rw [← hnumber] at hd
    exact Numeral.isDigit_of_mem_toDigits hd
  rw [Entry.ofLine_of_parts hline hdigits hfirst, ← hnumber, ← hlabel,
    Nat.ofDigitChars_toDigits (by decide) (by decide), String.ofList_toList]

/-! ### Indentation and pairs -/

namespace Nesting

variable {commands : List Command} {start close index : Nat}

/-- Inside a loop more openers wait than in front of it. -/
theorem length_waiting_within (h : Pairs commands start close) (hlt : start < index)
    (hle : index ≤ close) :
    (waiting commands start).length < (waiting commands index).length := by
  have hmem : start ∈ waiting commands index := by
    refine mem_waiting_iff.2 ⟨hlt, h.1, fun other hother => ?_⟩
    rw [h.2] at hother
    exact Option.some.inj hother ▸ hle
  obtain ⟨above, rest, hstack⟩ := List.append_of_mem hmem
  have hbelow : waiting commands start = rest := waiting_of_suffix ⟨above, hstack.symm⟩
  rw [hbelow, hstack, List.length_append, List.length_cons]
  omega

/-- A command is indented by the loops that are open both in front of it and behind it. -/
theorem indentation_eq {c : Command} (hc : commands[index]? = some c) :
    Step.indentation ⟨c, (waiting commands index).length⟩ =
      min (waiting commands index).length (waiting commands (index + 1)).length := by
  rcases at_cases commands index with hpast | ⟨count, hopener⟩ | hcloser | ⟨d, hplain, plain⟩
  · rw [List.getElem?_eq_none hpast] at hc
    cases hc
  · obtain rfl := Option.some.inj (hc.symm.trans hopener)
    rw [waiting_loopStart hopener, List.length_cons]
    exact (Nat.min_eq_left (Nat.le_succ _)).symm
  · obtain rfl := Option.some.inj (hc.symm.trans hcloser)
    rw [waiting_loopEnd hcloser, List.length_tail]
    exact (Nat.min_eq_right (Nat.sub_le _ _)).symm
  · obtain rfl := Option.some.inj (hc.symm.trans hplain)
    rw [waiting_plain hplain plain, Nat.min_self]
    cases c <;> first | rfl | cases plain

end Nesting

namespace Program

open Nesting

variable {p : Program} {start close index : Nat} {command : Command}

theorem length_lines (p : Program) : p.lines.length = p.commands.length := by
  rw [lines, List.length_mapIdx, length_commands]
  rfl

/-- What the listing shows of a command. -/
theorem Made.shown?_eq (made : p.Made) (hcommand : p.commands[index]? = some command) :
    p.shown? index = some ⟨index + 1,
      2 * min (waiting p.commands index).length (waiting p.commands (index + 1)).length,
      command.label⟩ := by
  have hstep : p.steps[index]? = some ⟨command, (waiting p.commands index).length⟩ := by
    have hnest := getElem?_nest p.commands index
    rw [hcommand] at hnest
    exact (congrArg (fun q => q.steps[index]?) made.eq_ofCommands).trans hnest
  rw [shown?, lines, List.getElem?_mapIdx, hstep, ← indentation_eq hcommand]
  exact congrArg some (Entry.ofLine_line (index + 1) _)

theorem Made.indent?_eq (made : p.Made) (hcommand : p.commands[index]? = some command) :
    p.indent? index = some
      (2 * min (waiting p.commands index).length (waiting p.commands (index + 1)).length) := by
  rw [indent?, made.shown?_eq hcommand]
  rfl

/-- The opener and the closer of a loop are indented by the loops around it. -/
theorem Made.indent?_pair (made : p.Made) (h : Pairs p.commands start close) :
    p.indent? start = some (2 * (waiting p.commands start).length) ∧
      p.indent? close = some (2 * (waiting p.commands start).length) := by
  obtain ⟨count, hopener⟩ := h.1
  have hcloser := (pairs_iff_waiting.1 h).1
  have hinside := length_waiting_within h (lt_of_pairs h) (Nat.le_refl close)
  constructor
  · rw [made.indent?_eq hopener, waiting_loopStart hopener, List.length_cons,
      Nat.min_eq_left (Nat.le_succ _)]
  · rw [made.indent?_eq hcloser, h.waiting_eq, Nat.min_eq_right (Nat.le_of_lt hinside)]

/-- The commands of a body are indented deeper than its loop. -/
theorem Made.indent?_within (made : p.Made) (h : Pairs p.commands start close)
    (hlt : start < index) (hbefore : index < close) :
    ∃ deeper, p.indent? index = some deeper ∧
      2 * (waiting p.commands start).length < deeper := by
  have hlength : index < p.commands.length := by
    have hcloser := (List.getElem?_eq_some_iff.1 (pairs_iff_waiting.1 h).1).1
    omega
  have hfront := length_waiting_within h hlt (Nat.le_of_lt hbefore)
  have hbehind := length_waiting_within h (Nat.lt_succ_of_lt hlt) hbefore
  refine ⟨_, made.indent?_eq (List.getElem?_eq_getElem hlength), ?_⟩
  exact Nat.mul_lt_mul_of_pos_left (Nat.lt_min.2 ⟨hfront, hbehind⟩) Nat.two_pos

/-- The listing of a program shows its blocks.  It has a line for each command, with the
number of the command and its label.  Opener and closer of a loop are indented alike, and
everything between them deeper; a closer that closes nothing is not indented. -/
theorem listing_shows_blocks (p : Program) (made : p.Made) :
    p.lines.length = p.commands.length ∧
    (∀ index command, p.commands[index]? = some command →
      ∃ indent, p.shown? index = some ⟨index + 1, indent, command.label⟩) ∧
    (∀ start close, Pairs p.commands start close →
      ∃ indent, p.indent? start = some indent ∧ p.indent? close = some indent ∧
        ∀ index, start < index → index < close →
          ∃ deeper, p.indent? index = some deeper ∧ indent < deeper) ∧
    ∀ index, Unopened p.commands index → p.indent? index = some 0 := by
  refine ⟨p.length_lines, fun index command hcommand => ⟨_, made.shown?_eq hcommand⟩,
    fun start close h => ?_, fun index h => ?_⟩
  · obtain ⟨hopener, hcloser⟩ := made.indent?_pair h
    exact ⟨_, hopener, hcloser, fun index => made.indent?_within h⟩
  · obtain ⟨hcloser, hempty⟩ := unopened_iff_waiting.1 h
    rw [made.indent?_eq hcloser, hempty, List.length_nil, Nat.zero_min]

/-- The inner one of two loops behind a stray closer, in front of a loop that is left
open. -/
theorem listing_shows_blocks_tangled :
    tangled.Made ∧
    tangled.lines = ["  1 End repeat", "  2 Repeat 0x", "  3   Repeat 2x", "  4     Advance",
      "  5   End repeat", "  6 End repeat", "  7 Repeat 0x"] ∧
    tangled.shown? 3 = some ⟨4, 4, "Advance"⟩ ∧
    (Pairs tangled.commands 2 4 ∧ ∃ indent, tangled.indent? 2 = some indent ∧
      tangled.indent? 4 = some indent ∧
      ∃ deeper, tangled.indent? 3 = some deeper ∧ indent < deeper) ∧
    Unopened tangled.commands 0 ∧ tangled.indent? 0 = some 0 := by
  have made : tangled.Made := .removed (.built _) 2
  have hpair : Pairs tangled.commands 2 4 := ⟨⟨_, rfl⟩, rfl⟩
  have hstray : Unopened tangled.commands 0 := unopened_iff_waiting.2 ⟨rfl, rfl⟩
  obtain ⟨-, -, hloops, hclosers⟩ := listing_shows_blocks tangled made
  obtain ⟨indent, hopener, hcloser, hbody⟩ := hloops 2 4 hpair
  exact ⟨made, by decide, by decide,
    ⟨hpair, indent, hopener, hcloser, hbody 3 (by decide) (by decide)⟩, hstray, hclosers 0 hstray⟩

end Program

end Beamwalk
