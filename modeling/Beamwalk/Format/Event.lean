/-
Module: Beamwalk.Format.Event
Purpose: Events and outcomes of runs as JSON.
Main exports: Format.runEvent, Format.failureReason, Format.outcome and their writers
-/
import Beamwalk.Event
import Beamwalk.Format.Level
import Beamwalk.Outcome

namespace Beamwalk.Format

open Json (Reader ReadError)
open Json.Reader

/-! ### Parts of events -/

/-- The names of the turns. -/
def turnNames : List (String × Turn) := [("left", .left), ("right", .right), ("around", .around)]

/-- Read a turn. -/
def turn : Reader Turn := name turnNames

/-- The name of a turn. -/
def turnName : Turn → String
  | .left => "left"
  | .right => "right"
  | .around => "around"

/-- Read a stride. -/
def stride : Reader Stride := name [("advance", .advance), ("jump", .jump)]

/-- The name of a stride. -/
def strideName : Stride → String
  | .advance => "advance"
  | .jump => "jump"

/-- Read the timing of a strike. -/
def timing : Reader StrikeTiming := name [("instantaneous", .instantaneous), ("delayed", .delayed)]

/-- The name of the timing of a strike. -/
def timingName : StrikeTiming → String
  | .instantaneous => "instantaneous"
  | .delayed => "delayed"

/-- The name of a colour of the roster. -/
def colorName : ActorColor → String
  | .orange => "orange"
  | .violet => "violet"
  | .teal => "teal"
  | .pink => "pink"

/-- A position while it is read. -/
structure PosDraft where
  row : Option Nat := none
  col : Option Nat := none
deriving Repr, Inhabited, DecidableEq

/-- Read a position. -/
def pos : Reader Pos :=
  record "struct Pos" [
      slot "row" true size (·.row) fun draft value => { draft with row := some value },
      slot "col" true size (·.col) fun draft value => { draft with col := some value }] {}
    fun (draft : PosDraft) => do
      let row ← need "row" draft.row
      let col ← need "col" draft.col
      .ok ⟨row, col⟩

/-- A position. -/
def writePos (p : Pos) : Json := .object [("row", .nat p.row), ("col", .nat p.col)]

/-! ### Obstacles

The variants of obstacles, events and reasons share their fields, so one draft
serves them all; each variant says which fields it needs and in which order.
-/

/-- The fields of a variant while they are read. -/
structure Fields where
  actor : Option Nat := none
  source : Option Pos := none
  target : Option Pos := none
  pos : Option Pos := none
  turn : Option Turn := none
  facing : Option Direction := none
  stride : Option Stride := none
  obstacle : Option Obstacle := none
  timing : Option StrikeTiming := none
  groups : Option GroupSet := none
  enabled : Option Switches := none
  remaining : Option Nat := none
deriving Repr, Inhabited, DecidableEq

/-- The number of an actor. -/
def actorSlot : Slot Fields :=
  slot "actor" true size (·.actor) fun draft value => { draft with actor := some value }

/-- Where a move starts. -/
def sourceSlot : Slot Fields :=
  slot "from" true pos (·.source) fun draft value => { draft with source := some value }

/-- Where a move ends. -/
def targetSlot : Slot Fields :=
  slot "to" true pos (·.target) fun draft value => { draft with target := some value }

/-- Where something happens. -/
def posSlot : Slot Fields :=
  slot "at" true pos (·.pos) fun draft value => { draft with pos := some value }

/-- The turn that an actor takes. -/
def turnSlot : Slot Fields :=
  slot "turn" true turn (·.turn) fun draft value => { draft with turn := some value }

/-- The facing of an actor. -/
def facingSlot : Slot Fields :=
  slot "facing" true direction (·.facing) fun draft value => { draft with facing := some value }

/-- The stride of a move. -/
def strideSlot : Slot Fields :=
  slot "stride" true stride (·.stride)
    fun draft value => { draft with stride := some value }

/-- The timing of a strike. -/
def timingSlot : Slot Fields :=
  slot "timing" true timing (·.timing)
    fun draft value => { draft with timing := some value }

/-- The groups of a button. -/
def groupsSlot : Slot Fields :=
  slot "groups" true groupSet (·.groups) fun draft value => { draft with groups := some value }

/-- The groups that are on. -/
def enabledSlot : Slot Fields :=
  slot "enabled" true switches (·.enabled) fun draft value => { draft with enabled := some value }

/-- A number of coins. -/
def remainingSlot : Slot Fields :=
  slot "remaining" true size (·.remaining)
    fun draft value => { draft with remaining := some value }

/-- The fields of a struct variant; `type` and `variant` are its names in
messages. -/
def fieldsOf {α : Type} (type variant : String) (slots : List (Slot Fields))
    (finish : Fields → Except ReadError α) : Reader α :=
  record ("struct variant " ++ type ++ "::" ++ variant) slots {} finish

/-- Read an obstacle. -/
def obstacle : Reader Obstacle :=
  taggedBy "Obstacle" "kind" [
    ("off_grid", nothingMore .offGrid),
    ("solid", fieldsOf "Obstacle" "Solid" [posSlot] fun draft => do
      .ok (.solid (← need "at" draft.pos)))]

/-- An obstacle. -/
def writeObstacle : Obstacle → Json
  | .offGrid => .object [("kind", .string "off_grid")]
  | .solid p => .object [("kind", .string "solid"), ("at", writePos p)]

/-- What is in the way of an actor. -/
def obstacleSlot : Slot Fields :=
  slot "obstacle" true obstacle (·.obstacle)
    fun draft value => { draft with obstacle := some value }

/-! ### Events -/

/-- Read an event. -/
def runEvent : Reader RunEvent :=
  taggedBy "RunEvent" "type" [
    ("actor_advanced", fieldsOf "RunEvent" "ActorAdvanced"
      [actorSlot, sourceSlot, targetSlot] fun draft => do
        .ok (.actorAdvanced (← need "actor" draft.actor) (← need "from" draft.source)
          (← need "to" draft.target))),
    ("actor_jumped", fieldsOf "RunEvent" "ActorJumped"
      [actorSlot, sourceSlot, targetSlot] fun draft => do
        .ok (.actorJumped (← need "actor" draft.actor) (← need "from" draft.source)
          (← need "to" draft.target))),
    ("actor_turned", fieldsOf "RunEvent" "ActorTurned"
      [actorSlot, turnSlot, facingSlot] fun draft => do
        .ok (.actorTurned (← need "actor" draft.actor) (← need "turn" draft.turn)
          (← need "facing" draft.facing))),
    ("actor_blocked", fieldsOf "RunEvent" "ActorBlocked"
      [actorSlot, strideSlot, sourceSlot, obstacleSlot] fun draft => do
        .ok (.actorBlocked (← need "actor" draft.actor) (← need "stride" draft.stride)
          (← need "from" draft.source) (← need "obstacle" draft.obstacle))),
    ("actor_struck", fieldsOf "RunEvent" "ActorStruck"
      [actorSlot, posSlot, timingSlot] fun draft => do
        .ok (.actorStruck (← need "actor" draft.actor) (← need "at" draft.pos)
          (← need "timing" draft.timing))),
    ("coin_collected", fieldsOf "RunEvent" "CoinCollected" [actorSlot, posSlot] fun draft => do
        .ok (.coinCollected (← need "actor" draft.actor) (← need "at" draft.pos))),
    ("hazards_toggled", fieldsOf "RunEvent" "HazardsToggled" [groupsSlot, enabledSlot]
      fun draft => do
        .ok (.hazardsToggled (← need "groups" draft.groups) (← need "enabled" draft.enabled))),
    ("coins_uneaten", fieldsOf "RunEvent" "CoinsUneaten" [remainingSlot] fun draft => do
        .ok (.coinsUneaten (← need "remaining" draft.remaining)))]

/-- An event. -/
def writeRunEvent : RunEvent → Json
  | .actorAdvanced actor source target =>
      .object [("type", .string "actor_advanced"), ("actor", .nat actor),
        ("from", writePos source), ("to", writePos target)]
  | .actorJumped actor source target =>
      .object [("type", .string "actor_jumped"), ("actor", .nat actor),
        ("from", writePos source), ("to", writePos target)]
  | .actorTurned actor turn facing =>
      .object [("type", .string "actor_turned"), ("actor", .nat actor),
        ("turn", .string (turnName turn)), ("facing", .string (directionName facing))]
  | .actorBlocked actor stride source obstacle =>
      .object [("type", .string "actor_blocked"), ("actor", .nat actor),
        ("stride", .string (strideName stride)), ("from", writePos source),
        ("obstacle", writeObstacle obstacle)]
  | .actorStruck actor p timing =>
      .object [("type", .string "actor_struck"), ("actor", .nat actor), ("at", writePos p),
        ("timing", .string (timingName timing))]
  | .coinCollected actor p =>
      .object [("type", .string "coin_collected"), ("actor", .nat actor), ("at", writePos p)]
  | .hazardsToggled groups enabled =>
      .object [("type", .string "hazards_toggled"), ("groups", writeGroupSet groups),
        ("enabled", writeSwitches enabled)]
  | .coinsUneaten remaining =>
      .object [("type", .string "coins_uneaten"), ("remaining", .nat remaining)]

/-! ### Outcomes

The reason of a failure stands beside the outcome in the same object.
-/

/-- Read the reason of a failure. -/
def failureReason : Reader FailureReason :=
  taggedBy "FailureReason" "reason" [
    ("off_grid", fieldsOf "FailureReason" "OffGrid" [actorSlot, sourceSlot] fun draft => do
        .ok (.offGrid (← need "actor" draft.actor) (← need "from" draft.source))),
    ("blocked", fieldsOf "FailureReason" "Blocked" [actorSlot, posSlot] fun draft => do
        .ok (.blocked (← need "actor" draft.actor) (← need "at" draft.pos))),
    ("struck", fieldsOf "FailureReason" "Struck" [actorSlot, posSlot] fun draft => do
        .ok (.struck (← need "actor" draft.actor) (← need "at" draft.pos))),
    ("coins_uneaten", fieldsOf "FailureReason" "CoinsUneaten" [remainingSlot] fun draft => do
        .ok (.coinsUneaten (← need "remaining" draft.remaining)))]

/-- The fields of a reason. -/
def failureFields : FailureReason → List (String × Json)
  | .offGrid actor source =>
      [("reason", .string "off_grid"), ("actor", .nat actor), ("from", writePos source)]
  | .blocked actor p =>
      [("reason", .string "blocked"), ("actor", .nat actor), ("at", writePos p)]
  | .struck actor p => [("reason", .string "struck"), ("actor", .nat actor), ("at", writePos p)]
  | .coinsUneaten remaining =>
      [("reason", .string "coins_uneaten"), ("remaining", .nat remaining)]

/-- The reason of a failure. -/
def writeFailureReason (reason : FailureReason) : Json := .object (failureFields reason)

/-- Read an outcome. -/
def outcome : Reader Outcome :=
  taggedBy "Outcome" "outcome" [
    ("success", nothingMore .success),
    ("failure", map Outcome.failure failureReason),
    ("cancelled", nothingMore .cancelled)]

/-- An outcome. -/
def writeOutcome : Outcome → Json
  | .success => .object [("outcome", .string "success")]
  | .failure reason => .object (("outcome", .string "failure") :: failureFields reason)
  | .cancelled => .object [("outcome", .string "cancelled")]

end Beamwalk.Format
