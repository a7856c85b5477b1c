/-
Module: Beamwalk.Keyboard.Queue
Purpose: Keys that wait to be read.
Main exports: KeyQueue, KeyQueue.drained, KeyQueue.resultShown
-/
import Beamwalk.Keyboard.Key

namespace Beamwalk

/-- The keys of a user who types some ahead and others on seeing the result of
a run. -/
structure KeyQueue where
  /-- Typed and not yet read. -/
  waiting : List Key
  /-- To be typed when the result of a run is on the screen. -/
  onResult : List Key := []
deriving Repr, Inhabited, DecidableEq

namespace KeyQueue

/-- All keys typed so far have been read. -/
def drained (q : KeyQueue) : KeyQueue := { q with waiting := [] }

/-- The result of a run is on the screen. -/
def resultShown (q : KeyQueue) : KeyQueue := ⟨q.waiting ++ q.onResult, []⟩

/-- The number of keys that can still be read. -/
def size (q : KeyQueue) : Nat := q.waiting.length + q.onResult.length

end KeyQueue

end Beamwalk
