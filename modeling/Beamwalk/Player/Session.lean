/-
Module: Beamwalk.Player.Session
Purpose: The player on a terminal of its own.
Main exports: Playback.readKeys, Player.run
-/
import Beamwalk.Player.Basic

namespace Beamwalk

namespace Playback

/-- Read up to `budget` keys, until the player is left or no key waits. -/
def readKeys (size : TerminalSize) : (budget : Nat) → Playback → KeyQueue → List DrawOp
  | 0, _, _ => []
  | budget + 1, p, keys =>
      match keys.waiting with
      | [] => []
      | key :: waiting =>
          match p.handleKey size { keys with waiting := waiting } key with
          | none => []
          | some (p, ops, keys) => ops ++ readKeys size budget p keys

end Playback

/-- Everything the player draws, or why the terminal is too small. -/
def Player.run (p : Player) (size : TerminalSize) (keys : KeyQueue) :
    Except String (List DrawOp) :=
  match p.misfit? size with
  | some problem => .error problem
  | none =>
      let (playback, ops, waiting) := p.begin size keys
      .ok ([.enterScreen, .hideCursor, .clearAll] ++ ops
        ++ playback.readKeys size waiting.size waiting ++ [.showCursor, .leaveScreen])

end Beamwalk
