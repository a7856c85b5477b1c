/-
Module: Beamwalk.Proofs.Run.Passage
Purpose: What is heard of one actor who performs one command: its wording, the failure that it
  speaks of, and how it goes on from what was heard before.
Main exports: Command.Tells, Resolves.tells, RunEvent.fault?, Resolution.filterMap_fault?,
  Account, Account.Fits, Account.Continues, Resolves.leads
-/
import Beamwalk.Proofs.Run.Soundness

namespace Beamwalk

/-- The report of a move by a stride. -/
def Stride.report (actor : Nat) (source target : Pos) : Stride → RunEvent
  | .advance => .actorAdvanced actor source target
  | .jump => .actorJumped actor source target

/-- What may be heard when an actor performs a command.  He turns, or he is blocked,
or he moves; who moves may be struck where he arrives, and then he may eat a coin
there or press a button.  Only a button makes a beam strike late. -/
inductive Command.Tells (c : Command) (actor : Nat) : List RunEvent → Prop where
  | turned (turn : Turn) (facing : Direction) (turns : c.turn? = some turn) :
      Tells c actor [.actorTurned actor turn facing]
  | blocked (stride : Stride) (source : Pos) (obstacle : Obstacle)
      (strides : c.stride? = some stride) :
      Tells c actor [.actorBlocked actor stride source obstacle]
  | moved (stride : Stride) (source target : Pos) (strike : Option StrikeTiming)
      (effect : Option RunEvent) (strides : c.stride? = some stride)
      (lands : ∀ event, effect = some event → event = .coinCollected actor target ∨
        ∃ groups enabled, event = .hazardsToggled groups enabled)
      (late : strike = some .delayed →
        ∃ groups enabled, effect = some (.hazardsToggled groups enabled)) :
      Tells c actor (stride.report actor source target ::
        ((strike.map (.actorStruck actor target ·)).toList ++ effect.toList))

/-- The failure that an event speaks of. -/
def RunEvent.fault? : RunEvent → Option FailureReason
  | .actorBlocked actor _ source .offGrid => some (.offGrid actor source)
  | .actorBlocked actor _ _ (.solid pos) => some (.blocked actor pos)
  | .actorStruck actor pos _ => some (.struck actor pos)
  | .coinsUneaten remaining => some (.coinsUneaten remaining)
  | _ => none

namespace Resolution

theorem announcement_moved (actor : Nat) (move : Move) :
    announcement actor (.moved move) =
      move.stride.report actor move.source move.target ::
        (move.strike.map (RunEvent.actorStruck actor move.target ·)).toList := by
  cases h : move.stride <;> simp [announcement, Stride.report, h]

/-- What is heard of a resolution speaks of its failure and of no other. -/
theorem filterMap_fault? (r : Resolution) (actor : Nat) (enabled : Switches) :
    (r.announcement actor ++ r.consequences actor enabled).filterMap RunEvent.fault? =
      (r.failure actor).toList := by
  cases r with
  | turned turn facing => rfl
  | blocked stride source obstacle => cases obstacle <;> rfl
  | moved move =>
      obtain ⟨stride, source, target, coin, toggled, strike⟩ := move
      cases stride <;> cases strike <;> cases coin <;> cases toggled <;> rfl

/-- What is heard of a resolution speaks of a failure if and only if it is fatal. -/
theorem any_fault? (r : Resolution) (actor : Nat) (enabled : Switches) :
    (r.announcement actor ++ r.consequences actor enabled).any (fun event => event.fault?.isSome) =
      (r.failure actor).isSome := by
  have hfaults := r.filterMap_fault? actor enabled
  cases hfailure : r.failure actor with
  | none =>
      rw [hfailure, Option.toList_none, List.filterMap_eq_nil_iff] at hfaults
      exact List.any_eq_false.2 fun event hevent => by simp [hfaults event hevent]
  | some reason =>
      have hmem : reason ∈ (r.announcement actor ++ r.consequences actor enabled).filterMap
          RunEvent.fault? := by simp [hfaults, hfailure]
      obtain ⟨event, hevent, hfault⟩ := List.mem_filterMap.1 hmem
      rw [List.any_eq_true.2 ⟨event, hevent, by simp [hfault]⟩]
      rfl

end Resolution

section

variable {w w' : World} {a a' : Actor} {c : Command} {r : Resolution}

/-- A command that is no marker comes to something for every actor. -/
theorem isSome_resolve (plain : c.isMarker = false) (acts : c.isReserved = false) (w : World)
    (a : Actor) : (resolve w a c).isSome = true := by
  cases c <;> simp [Command.isMarker, Command.isReserved, resolve] at plain acts ⊢

/-- What is heard of a resolution is worded as that of its command. -/
theorem Resolves.tells (h : Resolves w a c w' a' r) (enabled : Switches) :
    c.Tells a.id (r.announcement a.id ++ r.consequences a.id enabled) := by
  cases h with
  | turned turn rotates => exact .turned turn _ rotates
  | offGrid stride strides absent => exact .blocked stride a.pos .offGrid strides
  | solid stride strides target kind ahead cell solid =>
      exact .blocked stride a.pos (.solid target) strides
  | moved stride strides target kind ahead cell occupiable =>
      rw [Resolution.announcement_moved]
      rcases w.enter_cases target with ⟨_, henter⟩ | ⟨groups, _, henter⟩ | ⟨_, henter⟩
      · rw [henter]
        apply Command.Tells.moved stride a.pos target _ (some (.coinCollected a.id target)) strides
        · simp
        · cases w.isLive target <;> simp [Arrival.strike]
      · rw [henter]
        apply Command.Tells.moved stride a.pos target _ (some (.hazardsToggled groups enabled))
          strides
        · simp
        · simp
      · rw [henter]
        apply Command.Tells.moved stride a.pos target _ none strides
        · simp
        · cases w.isLive target <;> simp [Arrival.strike]

end

/-! ### How an event goes on from those before it -/

/-- What the events of a run have told so far: where every actor is and which way
he faces, and which groups are on. -/
structure Account where
  actors : List Actor
  enabled : Switches

/-- What is known of a state before any event is heard. -/
def RunState.account (state : RunState) : Account := ⟨state.actors, state.world.hazards.enabled⟩

namespace Account

/-- Take in what an event tells. -/
def hear (t : Account) : RunEvent → Account
  | .actorAdvanced actor _ target | .actorJumped actor _ target =>
      { t with actors := t.actors.modify actor fun a => { a with pos := target } }
  | .actorTurned actor _ facing =>
      { t with actors := t.actors.modify actor fun a => { a with facing := facing } }
  | .hazardsToggled _ enabled => { t with enabled := enabled }
  | _ => t

/-- Take in several events in order. -/
def hearAll (t : Account) (events : List RunEvent) : Account := events.foldl hear t

/-- An event goes on from where the account leaves off: an actor sets out from his
place and gets to the one that is one or two places ahead of him, turns the way he faces
by a quarter or by a half, and is struck or eats a coin where he is; a toggle flips its
groups and no others. -/
def Fits (t : Account) : RunEvent → Prop
  | .actorAdvanced actor source target =>
      ∃ a, t.actors[actor]? = some a ∧ source = a.pos ∧
        Spot.ofPos target = (Spot.ofPos source).moved a.facing.offset 1
  | .actorJumped actor source target =>
      ∃ a, t.actors[actor]? = some a ∧ source = a.pos ∧
        Spot.ofPos target = (Spot.ofPos source).moved a.facing.offset 2
  | .actorTurned actor turn facing =>
      ∃ a, t.actors[actor]? = some a ∧ facing.offset = turn.rotate a.facing.offset
  | .actorBlocked actor stride source obstacle =>
      ∃ a, t.actors[actor]? = some a ∧ source = a.pos ∧ ∀ pos, obstacle = .solid pos →
        Spot.ofPos pos = (Spot.ofPos source).moved a.facing.offset
          (match stride with
            | .advance => 1
            | .jump => 2)
  | .actorStruck actor pos _ | .coinCollected actor pos =>
      ∃ a, t.actors[actor]? = some a ∧ pos = a.pos
  | .hazardsToggled groups enabled =>
      ∀ group, enabled.get group ≠ t.enabled.get group ↔ groups.contains group = true
  | .coinsUneaten _ => True

/-- Every event goes on from where the events before it leave off. -/
def Continues (t : Account) : List RunEvent → Prop
  | [] => True
  | event :: rest => t.Fits event ∧ (t.hear event).Continues rest

/-- The events go on from one account and lead to another. -/
structure Leads (t : Account) (events : List RunEvent) (t' : Account) : Prop where
  continues : t.Continues events
  hears : t.hearAll events = t'

variable {t t' t'' : Account} {front back : List RunEvent}

theorem leads_nil (t : Account) : t.Leads [] t := ⟨trivial, rfl⟩

theorem leads_singleton {event : RunEvent} (h : t.Fits event) : t.Leads [event] (t.hear event) :=
  ⟨⟨h, trivial⟩, rfl⟩

theorem Continues.append (hfront : t.Continues front) (hback : (t.hearAll front).Continues back) :
    t.Continues (front ++ back) := by
  induction front generalizing t with
  | nil => exact hback
  | cons event rest ih => exact ⟨hfront.1, ih hfront.2 hback⟩

theorem Leads.append (hfront : t.Leads front t') (hback : t'.Leads back t'') :
    t.Leads (front ++ back) t'' where
  continues := hfront.continues.append (hfront.hears.symm ▸ hback.continues)
  hears := by
    have hhears : t.hearAll (front ++ back) = (t.hearAll front).hearAll back :=
      List.foldl_append
    rw [hhears, hfront.hears, hback.hears]

end Account

namespace Resolves

variable {w w' : World} {actors : List Actor} {a a' : Actor} {c : Command} {r : Resolution}

theorem modify_actor (hactor : actors[a.id]? = some a) (f : Actor → Actor) :
    actors.modify a.id f = actors.set a.id (f a) := by
  rw [List.modify_eq_set_getElem?, hactor]
  rfl

theorem set_actor (hactor : actors[a.id]? = some a) : actors.set a.id a = actors := by
  obtain ⟨hlt, hget⟩ := List.getElem?_eq_some_iff.1 hactor
  have hset := List.set_getElem_self hlt
  rwa [hget] at hset

/-- The report of a move leads to the account in which the move has been made. -/
theorem leads_report (enabled : Switches) (hactor : actors[a.id]? = some a) {stride : Stride}
    {target : Pos} (ahead : a.pos.step a.facing stride.distance = some target) :
    Account.Leads ⟨actors, enabled⟩ [stride.report a.id a.pos target]
      ⟨actors.set a.id { a with pos := target }, enabled⟩ := by
  rw [← modify_actor hactor fun b => { b with pos := target }]
  rw [Pos.step_eq_some_iff] at ahead
  cases stride with
  | advance => exact Account.leads_singleton ⟨a, hactor, rfl, ahead⟩
  | jump => exact Account.leads_singleton ⟨a, hactor, rfl, ahead⟩

/-- Who is struck is struck where he is. -/
theorem leads_strike (enabled : Switches) (hactor : actors[a.id]? = some a)
    (strike : Option StrikeTiming) :
    Account.Leads ⟨actors, enabled⟩ (strike.map (RunEvent.actorStruck a.id a.pos ·)).toList
      ⟨actors, enabled⟩ := by
  cases strike with
  | none => exact Account.leads_nil _
  | some timing =>
      have hfits : Account.Fits ⟨actors, enabled⟩ (.actorStruck a.id a.pos timing) :=
        ⟨a, hactor, rfl⟩
      exact Account.leads_singleton hfits

/-- What is reported of a landing leaves the switches as the landing left them. -/
theorem leads_consequences (hactor : actors[a.id]? = some a) {m : Move}
    (htarget : m.target = a.pos) (hcoin : m.coin = (w.enter a.pos).2.coin)
    (htoggled : m.toggled = (w.enter a.pos).2.toggled) :
    Account.Leads ⟨actors, w.hazards.enabled⟩
      (Resolution.consequences a.id (w.enter a.pos).1.hazards.enabled (.moved m))
      ⟨actors, (w.enter a.pos).1.hazards.enabled⟩ := by
  rw [Resolution.consequences, htarget, hcoin, htoggled]
  rcases w.enter_cases a.pos with ⟨_, henter⟩ | ⟨groups, _, henter⟩ | ⟨_, henter⟩
  · rw [henter]
    exact Account.leads_singleton ⟨a, hactor, rfl⟩
  · rw [henter]
    have hfits : Account.Fits ⟨actors, w.hazards.enabled⟩
        (.hazardsToggled groups (w.hazards.enabled.flip groups)) := by
      intro group
      rw [Switches.get_flip]
      cases w.hazards.enabled.get group <;> simp
    exact Account.leads_singleton hfits
  · rw [henter]
    exact Account.leads_nil _

/-- What is heard of a resolution goes on from the state before it and leads to the
state after it. -/
theorem leads {state : RunState} (hactor : state.actors[a.id]? = some a)
    (h : Resolves state.world a c w' a' r) :
    state.account.Leads (r.announcement a.id ++ r.consequences a.id w'.hazards.enabled)
      (RunState.account ⟨w', state.actors.set a.id a'⟩) := by
  cases h with
  | turned turn rotates =>
      have hfits : state.account.Fits (.actorTurned a.id turn (turn.apply a.facing)) :=
        ⟨a, hactor, Offset.offset_apply turn a.facing⟩
      rw [← modify_actor hactor fun b => { b with facing := turn.apply a.facing }]
      exact Account.leads_singleton hfits
  | offGrid stride strides absent =>
      have hfits : state.account.Fits (.actorBlocked a.id stride a.pos .offGrid) :=
        ⟨a, hactor, rfl, by simp⟩
      rw [set_actor hactor]
      exact Account.leads_singleton hfits
  | solid stride strides target kind ahead cell solid =>
      have hfits : state.account.Fits (.actorBlocked a.id stride a.pos (.solid target)) := by
        refine ⟨a, hactor, rfl, ?_⟩
        rintro _ ⟨⟩
        rw [Pos.step_eq_some_iff] at ahead
        cases stride <;> exact ahead
      rw [set_actor hactor]
      exact Account.leads_singleton hfits
  | moved stride strides target kind ahead cell occupiable =>
      let b : Actor := { a with pos := target }
      have hmoved : (state.actors.set a.id b)[b.id]? = some b := by
        obtain ⟨hlt, _⟩ := List.getElem?_eq_some_iff.1 hactor
        exact List.getElem?_set_self hlt
      rw [Resolution.announcement_moved]
      have hstrike := leads_strike state.world.hazards.enabled hmoved
        (state.world.enter target).2.strike
      exact ((leads_report _ hactor ahead).append hstrike).append
        (leads_consequences hmoved rfl rfl rfl)

end Resolves

end Beamwalk
