/-
Module: Beamwalk.Proofs.Run.Reckoning
Purpose: Foretelling the outcome of a run by dead reckoning, without a world that changes.
Main exports: Heading, Heading.after, Landing, reckon, Level.hazardsAfter, Landing.fault,
  firstFault, Level.foretold
-/
import Beamwalk.Actor
import Beamwalk.Proofs.Plane
import Beamwalk.Proofs.Program.Block

namespace Beamwalk

/-!
Actors do not interact, and nothing that a run changes can turn them aside: a
move takes place, or it ends the run.  So where everybody lands follows from the
commands and the start markers alone, as if the level were an empty plane.  The
landings then tell which buttons were pressed, and so which beams were on, and
which coins were eaten.
-/

namespace Spot

/-- The position and the cell at a place, `none` off the grid. -/
def within (cells : Grid CellKind) (s : Spot) : Option (Pos × CellKind) :=
  s.pos?.bind fun p => (cells.get? p).map (p, ·)

theorem within_eq_some_iff {cells : Grid CellKind} {s : Spot} {p : Pos} {kind : CellKind} :
    s.within cells = some (p, kind) ↔ s.pos? = some p ∧ cells.get? p = some kind := by
  simp only [within, Option.bind_eq_some_iff, Option.map_eq_some_iff, Prod.mk.injEq]
  constructor
  · intro h
    rcases h with ⟨q, hq, kind', hkind, rfl, rfl⟩
    exact ⟨hq, hkind⟩
  · intro h
    rcases h with ⟨hp, hkind⟩
    exact ⟨p, hp, kind, hkind, rfl, rfl⟩

end Spot

namespace Command

/-- The rotation of a turning command. -/
def turn? : Command → Option Turn
  | .turnLeft => some .left
  | .turnRight => some .right
  | .uTurn => some .around
  | _ => none

/-- The stride of a moving command. -/
def stride? : Command → Option Stride
  | .advance => some .advance
  | .jump => some .jump
  | _ => none

/-- A command that is no marker turns somebody or moves him. -/
theorem turn?_or_stride? {c : Command} (plain : c.isMarker = false) (acts : c.isReserved = false) :
    (∃ turn, c.turn? = some turn ∧ c.stride? = none) ∨
      ∃ stride, c.stride? = some stride ∧ c.turn? = none := by
  cases c <;> simp [isMarker, isReserved, turn?, stride?] at plain acts ⊢

end Command

/-- Where somebody is and the way to the place ahead of him. -/
structure Heading where
  spot : Spot
  ahead : Offset
deriving Repr, Inhabited, DecidableEq

namespace Heading

/-- The heading after a command, on a plane with nothing in it: to turn is to rotate by a
quarter or by a half, to advance is to go one place ahead, and to jump is to go two. -/
def after (h : Heading) : Command → Heading
  | .turnLeft => { h with ahead := h.ahead.counterclockwise }
  | .turnRight => { h with ahead := h.ahead.clockwise }
  | .uTurn => { h with ahead := h.ahead.opposite }
  | .advance => { h with spot := h.spot.moved h.ahead 1 }
  | .jump => { h with spot := h.spot.moved h.ahead 2 }
  | .loopStart _ | .loopEnd | .ifThen | .ifElse | .ifEnd => h

theorem after_turn {c : Command} {turn : Turn} (hturn : c.turn? = some turn) (h : Heading) :
    h.after c = ⟨h.spot, turn.rotate h.ahead⟩ := by
  cases c <;> cases hturn <;> rfl

theorem after_stride {c : Command} {stride : Stride} (hstride : c.stride? = some stride)
    (h : Heading) : h.after c = ⟨h.spot.moved h.ahead stride.distance, h.ahead⟩ := by
  cases c <;> cases hstride <;> rfl

end Heading

/-- The end of a move: who landed where, coming from where. -/
structure Landing where
  actor : Nat
  source : Spot
  target : Spot
deriving Repr, Inhabited, DecidableEq

/-- Every command for every actor, in the order in which they are performed. -/
def itinerary (actors : Nat) (commands : List Command) : List (Command × Nat) :=
  commands.flatMap fun c => (List.range actors).map (c, ·)

/-- The headings after commands for actors. -/
def headingsAfter (headings : List Heading) : List (Command × Nat) → List Heading
  | [] => headings
  | (c, i) :: rest => headingsAfter (headings.modify i (·.after c)) rest

/-- The landings that commands for actors lead to. -/
def reckon (headings : List Heading) : List (Command × Nat) → List Landing
  | [] => []
  | (c, i) :: rest =>
      let landing := (headings[i]?.filter fun _ => c.stride?.isSome).map fun h =>
        { actor := i, source := h.spot, target := (h.after c).spot : Landing }
      landing.toList ++ reckon (headings.modify i (·.after c)) rest

namespace Level

/-- The headings in which the actors start. -/
def headings (level : Level) : List Heading :=
  level.cells.startMarkers.map fun marker => ⟨.ofPos marker.1, marker.2.offset⟩

/-- The hazards after some landings: those of the start of a run, toggled once
for every landing on a button. -/
def hazardsAfter (level : Level) (landings : List Landing) : HazardState :=
  landings.foldl
    (fun hazards l =>
      match l.target.within level.cells with
      | some (_, .button groups) => hazards.toggle groups level.cells
      | _ => hazards)
    (.start level.cells level.enabled)

end Level

/-- Why a landing ends the run, if it does: there is no cell, or a hazard source stands on it,
or it is live.  `before` are the landings in front of it, and it toggles hazards itself
before a beam strikes. -/
def Landing.fault (level : Level) (before : List Landing) (l : Landing) : Option FailureReason :=
  match l.target.within level.cells with
  | none => some (.offGrid l.actor l.source.pos)
  | some (p, .horizontalSource _) | some (p, .verticalSource _) => some (.blocked l.actor p)
  | some (p, _) =>
      if (level.hazardsAfter (before ++ [l])).isLive p then some (.struck l.actor p) else none

/-- Nobody can stand on the sources, and on everything else he can. -/
theorem Landing.fault_of_within {level : Level} {l : Landing} {p : Pos} {kind : CellKind}
    (hwithin : l.target.within level.cells = some (p, kind)) (before : List Landing) :
    l.fault level before =
      if kind.occupiable = false then some (.blocked l.actor p)
      else if (level.hazardsAfter (before ++ [l])).isLive p then some (.struck l.actor p)
      else none := by
  rw [fault, hwithin]
  cases kind <;> rfl

/-- The first reason to end the run. -/
def firstFault (level : Level) (before : List Landing) : List Landing → Option FailureReason
  | [] => none
  | l :: rest => (l.fault level before).or (firstFault level (before ++ [l]) rest)

/-- The positions landed on. -/
def landedOn (landings : List Landing) : List Pos := landings.filterMap (·.target.pos?)

namespace Level

/-- The number of coins that nobody landed on. -/
def uneaten (level : Level) (landings : List Landing) : Nat :=
  level.cells.scan.countP fun e => e.2 == .coin && !(landedOn landings).contains e.1

/-- The outcome of a run that performs the commands for all actors and is not
stopped. -/
def foretold (level : Level) (commands : List Command) : Outcome :=
  let landings := reckon level.headings (itinerary level.headings.length commands)
  match firstFault level [] landings with
  | some reason => .failure reason
  | none =>
      if level.uneaten landings = 0 then .success
      else .failure (.coinsUneaten (level.uneaten landings))

/-- A trap: the button behind the source lets out the beam that crosses it. -/
def trap : Level where
  name := none
  cells := .ofRows
    [[.start .north, .horizontalSource .blue, .button (.single .red)],
      [.coin, .empty, .verticalSource .red]] (by decide)
  enabled := .allOff
  budgets := {}
  width_ne_zero := by decide
  height_ne_zero := by decide
  starts_ne_zero := by decide
  starts_le := by decide

end Level

/-! ### Stretch by stretch -/

theorem headingsAfter_append (headings : List Heading) (front back : List (Command × Nat)) :
    headingsAfter headings (front ++ back) = headingsAfter (headingsAfter headings front) back := by
  induction front generalizing headings with
  | nil => rfl
  | cons entry rest ih => exact ih _

@[simp] theorem length_headingsAfter (headings : List Heading) (entries : List (Command × Nat)) :
    (headingsAfter headings entries).length = headings.length := by
  induction entries generalizing headings with
  | nil => rfl
  | cons entry rest ih =>
      rw [headingsAfter, ih]
      exact List.length_modify ..

theorem reckon_append (headings : List Heading) (front back : List (Command × Nat)) :
    reckon headings (front ++ back) =
      reckon headings front ++ reckon (headingsAfter headings front) back := by
  induction front generalizing headings with
  | nil => rfl
  | cons entry rest ih =>
      obtain ⟨c, i⟩ := entry
      simp only [List.cons_append, reckon, headingsAfter, ih, List.append_assoc]

/-- The last landing toggles last. -/
theorem Level.hazardsAfter_append_singleton (level : Level) (before : List Landing) (l : Landing) :
    level.hazardsAfter (before ++ [l]) =
      match l.target.within level.cells with
      | some (_, .button groups) => (level.hazardsAfter before).toggle groups level.cells
      | _ => level.hazardsAfter before := by
  simp only [hazardsAfter, List.foldl_append, List.foldl_cons, List.foldl_nil]

theorem firstFault_append (level : Level) (before front back : List Landing) :
    firstFault level before (front ++ back) =
      (firstFault level before front).or (firstFault level (before ++ front) back) := by
  induction front generalizing before with
  | nil => simp [firstFault]
  | cons l rest ih => simp [firstFault, ih, Option.or_assoc]

theorem itinerary_cons (actors : Nat) (c : Command) (rest : List Command) :
    itinerary actors (c :: rest) = (List.range actors).map (c, ·) ++ itinerary actors rest := rfl

end Beamwalk
