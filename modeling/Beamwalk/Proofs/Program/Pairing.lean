/-
Module: Beamwalk.Proofs.Program.Pairing
Purpose: Openers and closers as pairs, and what the search for a closer, the balance check
  and the nesting depths have to do with them.
Main exports: Nesting.Pairs, Nesting.Unopened, Nesting.surplus, Nesting.waiting,
  Nesting.matchingEnd_of_waiting, Nesting.pairs_iff_waiting, Program.Made.depth_eq,
  Program.nesting_views_agree
-/
import Mathlib.Algebra.Ring.Int.Defs
import Mathlib.Data.List.Basic
import Mathlib.Data.Nat.Find
import Beamwalk.Proofs.Program.Defects
import Beamwalk.Proofs.Program.Editing

namespace Beamwalk

/-- How many more loops are open behind the command than in front of it. -/
def Command.lift : Command → Int
  | .loopStart _ => 1
  | .loopEnd => -1
  | _ => 0

namespace Nesting

/-- The command at `index` opens a loop. -/
def Opens (commands : List Command) (index : Nat) : Prop :=
  ∃ count, commands[index]? = some (.loopStart count)

/-- The loop that opens at `start` is closed at `close`. -/
def Pairs (commands : List Command) (start close : Nat) : Prop :=
  Opens commands start ∧ matchingEnd commands start = some close

/-- The command at `index` is a closer that closes nothing. -/
def Unopened (commands : List Command) (index : Nat) : Prop :=
  commands[index]? = some .loopEnd ∧ ∀ start, ¬ Pairs commands start index

/-- The command at `start` opens a loop that is not closed in front of `index`. -/
def Spans (commands : List Command) (index start : Nat) : Prop :=
  Opens commands start ∧ ∀ close ∈ matchingEnd commands start, index ≤ close

/-- The search for the closer of the loop that opens at `start` looks at the command
at `index`. -/
def Inspects (commands : List Command) (start index : Nat) : Prop :=
  start ≤ index ∧ ∀ close ∈ matchingEnd commands start, index ≤ close

/-- The openers from `start` up to `index`, less the closers. -/
def surplus (commands : List Command) (start index : Nat) : Int :=
  (((commands.drop start).take (index - start)).map Command.lift).sum

instance (commands : List Command) (index : Nat) : Decidable (Opens commands index) :=
  match h : commands[index]? with
  | some (.loopStart count) => .isTrue ⟨count, h⟩
  | none | some .advance | some .turnRight | some .turnLeft | some .uTurn | some .jump
  | some .loopEnd | some .ifThen | some .ifElse | some .ifEnd =>
      .isFalse fun ⟨count, hcount⟩ => by simp [h] at hcount

instance (commands : List Command) (index start : Nat) :
    Decidable (Spans commands index start) :=
  inferInstanceAs (Decidable (_ ∧ ∀ close ∈ matchingEnd commands start, index ≤ close))

variable {commands : List Command} {start close index place : Nat}

/-! ### The command at an index -/

/-- An index is past the end, or an opener, a closer or another command stands there. -/
theorem at_cases (commands : List Command) (index : Nat) :
    commands.length ≤ index ∨ (∃ count, commands[index]? = some (.loopStart count)) ∨
      commands[index]? = some .loopEnd ∨ ∃ c, commands[index]? = some c ∧ c.isMarker = false := by
  cases hc : commands[index]? with
  | none => exact .inl (List.getElem?_eq_none_iff.1 hc)
  | some c =>
      cases c with
      | loopStart count => exact .inr (.inl ⟨count, rfl⟩)
      | loopEnd => exact .inr (.inr (.inl rfl))
      | _ => exact .inr (.inr (.inr ⟨_, rfl, rfl⟩))

theorem drop_of_getElem? {c : Command} (hc : commands[index]? = some c) :
    commands.drop index = c :: commands.drop (index + 1) := by
  obtain ⟨hlt, rfl⟩ := List.getElem?_eq_some_iff.1 hc
  exact List.drop_eq_getElem_cons hlt

theorem drop_past (h : commands.length ≤ index) :
    commands.drop index = [] ∧ commands.drop (index + 1) = [] :=
  ⟨List.drop_of_length_le h, List.drop_of_length_le (Nat.le_succ_of_le h)⟩

theorem not_opens_past (h : commands.length ≤ index) : ¬ Opens commands index := by
  simp [Opens, List.getElem?_eq_none h]

theorem not_opens_of_loopEnd (hc : commands[index]? = some .loopEnd) : ¬ Opens commands index := by
  rintro ⟨count, hcount⟩
  rw [hc] at hcount
  cases hcount

theorem not_opens_of_plain {c : Command} (hc : commands[index]? = some c)
    (plain : c.isMarker = false) : ¬ Opens commands index := by
  rintro ⟨count, hcount⟩
  rw [hc] at hcount
  cases hcount
  cases plain

/-! ### The counter of the search -/

theorem surplus_self (commands : List Command) (start : Nat) :
    surplus commands start start = 0 := by
  simp [surplus]

theorem surplus_succ {c : Command} (hc : commands[index]? = some c) (hle : start ≤ index) :
    surplus commands start (index + 1) = surplus commands start index + c.lift := by
  have hget : (commands.drop start)[index - start]? = some c := by
    rw [List.getElem?_drop, Nat.add_sub_cancel' hle, hc]
  rw [surplus, Nat.succ_sub hle, List.take_add_one, hget]
  simp [surplus]

theorem surplus_past (h : commands.length ≤ index) (hle : start ≤ index) :
    surplus commands start (index + 1) = surplus commands start index := by
  have hget : (commands.drop start)[index - start]? = none := by
    rw [List.getElem?_drop, Nat.add_sub_cancel' hle, List.getElem?_eq_none h]
  rw [surplus, Nat.succ_sub hle, List.take_add_one, hget]
  simp [surplus]

/-- In front of every command that the search looks at, its counter is the surplus of
openers, which is positive behind the opener where the search began. -/
theorem search_at (hopens : Opens commands start) (h : Inspects commands start index) :
    ∃ counter : Nat, surplus commands start index = counter ∧
      matchingEnd commands start = closerFrom counter index (commands.drop index) ∧
      (start < index → 0 < counter) := by
  obtain ⟨hle, hbefore⟩ := h
  induction hle with
  | refl => exact ⟨0, surplus_self .., rfl, fun h => absurd h (Nat.lt_irrefl _)⟩
  | @step index hle ih =>
      obtain ⟨counter, hsurplus, hsearch, hpositive⟩ :=
        ih fun close hclose => Nat.le_of_succ_le (hbefore close hclose)
      have hbehind : ¬ Opens commands index → 0 < counter := by
        intro hno
        have hne : start ≠ index := fun h => hno (h ▸ hopens)
        exact hpositive (Nat.lt_of_le_of_ne hle hne)
      rcases at_cases commands index with hpast | ⟨count, hc⟩ | hc | ⟨c, hc, plain⟩
      · obtain ⟨hrest, hrest'⟩ := drop_past hpast
        refine ⟨counter, (surplus_past hpast hle).trans hsurplus, ?_,
          fun _ => hbehind (not_opens_past hpast)⟩
        rw [hsearch, hrest, hrest']
        simp [closerFrom]
      · refine ⟨counter + 1, ?_, ?_, fun _ => Nat.succ_pos counter⟩
        · rw [surplus_succ hc hle, hsurplus]
          rfl
        · rw [hsearch, drop_of_getElem? hc, closerFrom]
      · rcases counter with _ | _ | counter
        · exact absurd (hbehind (not_opens_of_loopEnd hc)) (Nat.lt_irrefl 0)
        · have hfound : matchingEnd commands start = some index := by
            rw [hsearch, drop_of_getElem? hc, closerFrom]
          exact absurd (hbefore index hfound) (Nat.not_succ_le_self index)
        · refine ⟨counter + 1, ?_, ?_, fun _ => Nat.succ_pos counter⟩
          · rw [surplus_succ hc hle, hsurplus]
            simp [Command.lift]
          · rw [hsearch, drop_of_getElem? hc, closerFrom]
      · refine ⟨counter, ?_, ?_, fun _ => hbehind (not_opens_of_plain hc plain)⟩
        · rw [surplus_succ hc hle, hsurplus]
          cases c <;> simp [Command.lift, Command.isMarker] at plain ⊢
        · rw [hsearch, drop_of_getElem? hc, closerFrom_plain plain]

/-! ### The loops that wait for a closer

A closer ends the innermost loop that is open in front of it.  So the openers that
wait form a stack, and the stack ties the views of nesting together: its length is the
nesting depth, the balance check keeps it, and the search for the closer of the loop
at a given place of the stack has a counter one above that place.
-/

/-- The openers in front of `index` that wait for a closer there, the innermost
first. -/
def waiting (commands : List Command) : (index : Nat) → List Nat
  | 0 => []
  | index + 1 =>
      match commands[index]? with
      | some (.loopStart _) => index :: waiting commands index
      | some .loopEnd => (waiting commands index).tail
      | _ => waiting commands index

theorem waiting_past (h : commands.length ≤ index) :
    waiting commands (index + 1) = waiting commands index := by
  rw [waiting, List.getElem?_eq_none h]

theorem waiting_loopStart {count : Count} (hc : commands[index]? = some (.loopStart count)) :
    waiting commands (index + 1) = index :: waiting commands index := by
  rw [waiting, hc]

theorem waiting_loopEnd (hc : commands[index]? = some .loopEnd) :
    waiting commands (index + 1) = (waiting commands index).tail := by
  rw [waiting, hc]

theorem waiting_plain {c : Command} (hc : commands[index]? = some c) (plain : c.isMarker = false) :
    waiting commands (index + 1) = waiting commands index := by
  rw [waiting, hc]
  cases c <;> simp [Command.isMarker] at plain ⊢

theorem opens_of_mem_waiting (h : start ∈ waiting commands index) :
    start < index ∧ Opens commands start := by
  induction index with
  | zero => cases h
  | succ index ih =>
      have hold : start ∈ waiting commands index → start < index + 1 ∧ Opens commands start :=
        fun hmem => ⟨Nat.lt_succ_of_lt (ih hmem).1, (ih hmem).2⟩
      rcases at_cases commands index with hpast | ⟨count, hc⟩ | hc | ⟨c, hc, plain⟩
      · exact hold (waiting_past hpast ▸ h)
      · rw [waiting_loopStart hc] at h
        rcases List.mem_cons.1 h with rfl | hmem
        · exact ⟨Nat.lt_succ_self _, count, hc⟩
        · exact hold hmem
      · exact hold (List.mem_of_mem_tail (waiting_loopEnd hc ▸ h))
      · exact hold (waiting_plain hc plain ▸ h)

/-- The openers wait in the opposite order of their places. -/
theorem pairwise_waiting (commands : List Command) (index : Nat) :
    (waiting commands index).Pairwise (· > ·) := by
  induction index with
  | zero => exact .nil
  | succ index ih =>
      rcases at_cases commands index with hpast | ⟨count, hc⟩ | hc | ⟨c, hc, plain⟩
      · rwa [waiting_past hpast]
      · rw [waiting_loopStart hc]
        exact List.pairwise_cons.2 ⟨fun start h => (opens_of_mem_waiting h).1, ih⟩
      · rw [waiting_loopEnd hc]
        exact ih.tail
      · rwa [waiting_plain hc plain]

/-- Behind the end of a sequence nothing changes. -/
theorem waiting_of_le (h : commands.length ≤ index) :
    waiting commands index = waiting commands commands.length := by
  induction h with
  | refl => rfl
  | step h ih => rw [waiting_past h, ih]

theorem length_waiting_succ_le (commands : List Command) (index : Nat) :
    (waiting commands (index + 1)).length ≤ (waiting commands index).length + 1 := by
  rcases at_cases commands index with hpast | ⟨count, hc⟩ | hc | ⟨c, hc, plain⟩
  · rw [waiting_past hpast]
    exact Nat.le_succ _
  · rw [waiting_loopStart hc]
    exact Nat.le_refl _
  · rw [waiting_loopEnd hc, List.length_tail]
    omega
  · rw [waiting_plain hc plain]
    exact Nat.le_succ _

/-- Behind an opener that waits come those that waited in front of it. -/
theorem waiting_of_suffix {rest : List Nat} (h : start :: rest <:+ waiting commands index) :
    waiting commands start = rest := by
  induction index with
  | zero => simp [waiting] at h
  | succ index ih =>
      rcases at_cases commands index with hpast | ⟨count, hc⟩ | hc | ⟨c, hc, plain⟩
      · exact ih (waiting_past hpast ▸ h)
      · rw [waiting_loopStart hc] at h
        rcases List.suffix_cons_iff.1 h with heq | hbelow
        · cases heq
          rfl
        · exact ih hbelow
      · rw [waiting_loopEnd hc] at h
        exact ih (h.trans (List.tail_suffix _))
      · exact ih (waiting_plain hc plain ▸ h)

/-- The search for the closer of a loop that waits comes to `index` with a counter one
above the place of the loop among those that wait. -/
theorem matchingEnd_of_waiting (h : (waiting commands index)[place]? = some start) :
    matchingEnd commands start = closerFrom (place + 1) index (commands.drop index) := by
  induction index generalizing place with
  | zero => simp [waiting] at h
  | succ index ih =>
      rcases at_cases commands index with hpast | ⟨count, hc⟩ | hc | ⟨c, hc, plain⟩
      · obtain ⟨hrest, hrest'⟩ := drop_past hpast
        rw [ih (waiting_past hpast ▸ h), hrest, hrest']
        simp [closerFrom]
      · rw [waiting_loopStart hc] at h
        cases place with
        | zero =>
            obtain rfl : index = start := by simpa using h
            rw [matchingEnd, drop_of_getElem? hc, closerFrom]
        | succ place =>
            rw [ih (by simpa using h), drop_of_getElem? hc, closerFrom]
      · rw [waiting_loopEnd hc] at h
        have hstack : (waiting commands index)[place + 1]? = some start := by simpa using h
        rw [ih hstack, drop_of_getElem? hc, closerFrom]
      · rw [ih (waiting_plain hc plain ▸ h), drop_of_getElem? hc, closerFrom_plain plain]

/-- The closer at `index` ends the innermost of the loops that wait there. -/
theorem matchingEnd_of_head (hc : commands[index]? = some .loopEnd)
    (h : (waiting commands index).head? = some start) : matchingEnd commands start = some index := by
  rw [List.head?_eq_getElem?] at h
  rw [matchingEnd_of_waiting h, drop_of_getElem? hc, closerFrom]

/-- A loop that no longer waits has been closed. -/
theorem closed_of_not_waiting (hopens : Opens commands start) (hlt : start < index)
    (h : start ∉ waiting commands index) :
    ∃ close < index, matchingEnd commands start = some close := by
  induction index with
  | zero => cases hlt
  | succ index ih =>
      have hold : start ≠ index → start ∉ waiting commands index →
          ∃ close < index + 1, matchingEnd commands start = some close := by
        intro hne hnot
        obtain ⟨close, hclose, hfound⟩ := ih (by omega) hnot
        exact ⟨close, Nat.lt_succ_of_lt hclose, hfound⟩
      have hearlier : ¬ Opens commands index → start ≠ index := fun hno heq => hno (heq ▸ hopens)
      rcases at_cases commands index with hpast | ⟨count, hc⟩ | hc | ⟨c, hc, plain⟩
      · exact hold (hearlier (not_opens_past hpast)) (waiting_past hpast ▸ h)
      · rw [waiting_loopStart hc, List.mem_cons, not_or] at h
        exact hold h.1 h.2
      · by_cases hmem : start ∈ waiting commands index
        · -- The closer takes away nothing but the innermost of the loops that wait.
          refine ⟨index, Nat.lt_succ_self index, matchingEnd_of_head hc ?_⟩
          rw [waiting_loopEnd hc] at h
          cases hstack : waiting commands index with
          | nil =>
              rw [hstack] at hmem
              cases hmem
          | cons innermost rest =>
              rw [hstack] at h hmem
              rcases List.mem_cons.1 hmem with rfl | hrest
              · rfl
              · exact absurd hrest h
        · exact hold (hearlier (not_opens_of_loopEnd hc)) hmem
      · exact hold (hearlier (not_opens_of_plain hc plain)) (waiting_plain hc plain ▸ h)

/-- The loops that wait in front of `index` are those that span it. -/
theorem mem_waiting_iff :
    start ∈ waiting commands index ↔ start < index ∧ Spans commands index start := by
  constructor
  · intro h
    obtain ⟨hlt, hopens⟩ := opens_of_mem_waiting h
    obtain ⟨place, hplace⟩ := List.getElem?_of_mem h
    refine ⟨hlt, hopens, fun close hclose => ?_⟩
    exact le_of_closerFrom ((matchingEnd_of_waiting hplace).symm.trans hclose)
  · rintro ⟨hlt, hopens, hspans⟩
    by_contra h
    obtain ⟨close, hclose, hfound⟩ := closed_of_not_waiting hopens hlt h
    exact absurd (hspans close hfound) (Nat.not_le_of_lt hclose)

/-- As many loops wait as span the place. -/
theorem length_waiting (commands : List Command) (index : Nat) :
    (waiting commands index).length =
      (List.range index).countP fun start => Spans commands index start := by
  have hnodup : (waiting commands index).Nodup :=
    (pairwise_waiting commands index).imp fun h => Nat.ne_of_gt h
  have hperm : (waiting commands index).Perm
      ((List.range index).filter fun start => Spans commands index start) := by
    apply (List.perm_ext_iff_of_nodup hnodup (List.nodup_range.filter _)).2
    intro start
    simp [mem_waiting_iff]
  rw [hperm.length_eq, List.countP_eq_length_filter]

/-! ### Pairs -/

theorem lt_of_pairs (h : Pairs commands start close) : start < close := by
  obtain ⟨⟨count, hc⟩, hfound⟩ := h
  rw [matchingEnd, drop_of_getElem? hc, closerFrom] at hfound
  exact le_of_closerFrom hfound

/-- A search ends where it is at a closer that leaves no loop open. -/
theorem loopEnd_of_closerFrom (h : closerFrom (place + 1) index (commands.drop index) = some index) :
    commands[index]? = some .loopEnd ∧ place = 0 := by
  have hahead : ∀ {counter rest}, closerFrom counter (index + 1) rest ≠ some index :=
    fun h => Nat.not_succ_le_self index (le_of_closerFrom h)
  rcases at_cases commands index with hpast | ⟨count, hc⟩ | hc | ⟨c, hc, plain⟩
  · rw [(drop_past hpast).1, closerFrom] at h
    cases h
  · rw [drop_of_getElem? hc, closerFrom] at h
    exact absurd h hahead
  · refine ⟨hc, ?_⟩
    cases place with
    | zero => rfl
    | succ place =>
        rw [drop_of_getElem? hc, closerFrom] at h
        exact absurd h hahead
  · rw [drop_of_getElem? hc, closerFrom_plain plain] at h
    exact absurd h hahead

/-- A closer ends the innermost of the loops that wait in front of it. -/
theorem pairs_iff_waiting :
    Pairs commands start close ↔
      commands[close]? = some .loopEnd ∧ (waiting commands close).head? = some start := by
  constructor
  · intro h
    have hlt := lt_of_pairs h
    obtain ⟨hopens, hfound⟩ := h
    have hmem : start ∈ waiting commands close := by
      refine mem_waiting_iff.2 ⟨hlt, hopens, fun other hother => ?_⟩
      rw [hfound] at hother
      exact Nat.le_of_eq (Option.some.inj hother)
    obtain ⟨place, hplace⟩ := List.getElem?_of_mem hmem
    rw [matchingEnd_of_waiting hplace] at hfound
    obtain ⟨hc, rfl⟩ := loopEnd_of_closerFrom hfound
    exact ⟨hc, by rw [List.head?_eq_getElem?, hplace]⟩
  · rintro ⟨hc, hhead⟩
    exact ⟨(opens_of_mem_waiting (List.mem_of_head? hhead)).2, matchingEnd_of_head hc hhead⟩

/-- Behind a loop the openers wait that waited in front of it. -/
theorem Pairs.waiting_eq (h : Pairs commands start close) :
    waiting commands (close + 1) = waiting commands start := by
  obtain ⟨hc, hhead⟩ := pairs_iff_waiting.1 h
  obtain ⟨rest, hstack⟩ := List.head?_eq_some_iff.1 hhead
  have hsuffix : start :: rest <:+ waiting commands close :=
    hstack ▸ List.suffix_refl _
  rw [waiting_loopEnd hc, hstack, List.tail_cons, waiting_of_suffix hsuffix]

/-- Two loops do not share a closer. -/
theorem Pairs.start_inj {start' : Nat} (h : Pairs commands start close)
    (h' : Pairs commands start' close) : start = start' := by
  have hhead := (pairs_iff_waiting.1 h).2
  rw [(pairs_iff_waiting.1 h').2] at hhead
  exact (Option.some.inj hhead).symm

/-- A loop that opens inside another one is closed inside it. -/
theorem Pairs.close_lt {start' close' : Nat} (h : Pairs commands start close)
    (h' : Pairs commands start' close') (hstart : start < start') (hclose : start' < close) :
    close' < close := by
  obtain ⟨_, hhead⟩ := pairs_iff_waiting.1 h
  by_contra hge
  have hmem : start' ∈ waiting commands close := by
    refine mem_waiting_iff.2 ⟨hclose, h'.1, fun other hother => ?_⟩
    rw [h'.2] at hother
    rw [← Option.some.inj hother]
    exact Nat.le_of_not_lt hge
  -- The closer of the outer loop would end the inner one.
  have hle : start' ≤ start := by
    cases hstack : waiting commands close with
    | nil =>
        rw [hstack] at hmem
        cases hmem
    | cons innermost rest =>
        rw [hstack] at hhead hmem
        obtain rfl : innermost = start := Option.some.inj hhead
        have hsorted := pairwise_waiting commands close
        rw [hstack] at hsorted
        rcases List.mem_cons.1 hmem with rfl | hrest
        · exact Nat.le_refl _
        · exact Nat.le_of_lt ((List.pairwise_cons.1 hsorted).1 start' hrest)
  omega

/-- Loops lie inside one another or apart. -/
theorem Pairs.nested_or_apart {start' close' : Nat} (h : Pairs commands start close)
    (h' : Pairs commands start' close') (hne : start ≠ start') :
    close ≠ close' ∧
      (close < start' ∨ close' < start ∨ (start < start' ∧ close' < close) ∨
        (start' < start ∧ close < close')) := by
  have hclose : close ≠ close' := by
    rintro rfl
    exact hne (h.start_inj h')
  have hopener : ∀ {s e s' e'}, Pairs commands s e → Pairs commands s' e' → s' ≠ e := by
    rintro s e s' e' hpair hother rfl
    exact not_opens_of_loopEnd (pairs_iff_waiting.1 hpair).1 hother.1
  refine ⟨hclose, ?_⟩
  rcases Nat.lt_or_gt_of_ne hne with hlt | hgt
  · rcases Nat.lt_or_gt_of_ne (hopener h h') with hinside | hbehind
    · exact .inr (.inr (.inl ⟨hlt, h.close_lt h' hlt hinside⟩))
    · exact .inl hbehind
  · rcases Nat.lt_or_gt_of_ne (hopener h' h) with hinside | hbehind
    · exact .inr (.inr (.inr ⟨hgt, h'.close_lt h hgt hinside⟩))
    · exact .inr (.inl hbehind)

/-- A closer closes nothing where nothing waits. -/
theorem unopened_iff_waiting :
    Unopened commands index ↔ commands[index]? = some .loopEnd ∧ waiting commands index = [] := by
  constructor
  · rintro ⟨hc, hnone⟩
    refine ⟨hc, List.head?_eq_none_iff.1 (Option.eq_none_iff_forall_ne_some.2 ?_)⟩
    exact fun start hhead => hnone start (pairs_iff_waiting.2 ⟨hc, hhead⟩)
  · rintro ⟨hc, hempty⟩
    refine ⟨hc, fun start h => ?_⟩
    have hhead := (pairs_iff_waiting.1 h).2
    rw [hempty] at hhead
    cases hhead

/-- The loops that wait at the end of a sequence are those that are not closed. -/
theorem mem_waiting_length_iff :
    start ∈ waiting commands commands.length ↔ ∃ count, Unclosed commands start count := by
  rw [mem_waiting_iff]
  constructor
  · rintro ⟨_, ⟨count, hc⟩, hspans⟩
    refine ⟨count, hc, Option.eq_none_iff_forall_ne_some.2 fun close hfound => ?_⟩
    have hcloser := (pairs_iff_waiting.1 ⟨⟨count, hc⟩, hfound⟩).1
    have hlt := (List.getElem?_eq_some_iff.1 hcloser).1
    exact absurd (hspans close hfound) (Nat.not_le_of_lt hlt)
  · rintro ⟨count, hc, hnone⟩
    exact ⟨(List.getElem?_eq_some_iff.1 hc).1, ⟨count, hc⟩, by simp [hnone]⟩

/-! ### Depths and the balance check -/

theorem nest_waiting (commands : List Command) (index : Nat) :
    (Step.nest 0 commands).drop index =
      Step.nest (waiting commands index).length (commands.drop index) := by
  induction index with
  | zero => rfl
  | succ index ih =>
      rw [← List.drop_drop, ih]
      rcases at_cases commands index with hpast | ⟨count, hc⟩ | hc | ⟨c, hc, plain⟩
      · obtain ⟨hrest, hrest'⟩ := drop_past hpast
        rw [hrest, hrest']
        rfl
      · rw [drop_of_getElem? hc, waiting_loopStart hc]
        rfl
      · rw [drop_of_getElem? hc, waiting_loopEnd hc, List.length_tail]
        rfl
      · rw [drop_of_getElem? hc, waiting_plain hc plain]
        cases c <;> first | rfl | cases plain

/-- The depth of a command is the number of loops that wait in front of it. -/
theorem getElem?_nest (commands : List Command) (index : Nat) :
    (Step.nest 0 commands)[index]? =
      commands[index]?.map fun c => ⟨c, (waiting commands index).length⟩ := by
  have hget : (Step.nest 0 commands)[index]? = ((Step.nest 0 commands).drop index)[0]? := by
    rw [List.getElem?_drop, Nat.add_zero]
  rw [hget, nest_waiting]
  cases hc : commands[index]? with
  | none =>
      rw [List.drop_of_length_le (List.getElem?_eq_none_iff.1 hc)]
      rfl
  | some c =>
      rw [drop_of_getElem? hc]
      cases c <;> rfl

/-- Up to the first closer that closes nothing the balance check keeps the openers that
wait. -/
theorem checkFrom_waiting (h : ∀ before < index, ¬ Unopened commands before) :
    checkFrom [] 0 commands =
      checkFrom (waiting commands index) index (commands.drop index) := by
  induction index with
  | zero => rfl
  | succ index ih =>
      rw [ih fun before hbefore => h before (Nat.lt_succ_of_lt hbefore)]
      rcases at_cases commands index with hpast | ⟨count, hc⟩ | hc | ⟨c, hc, plain⟩
      · obtain ⟨hrest, hrest'⟩ := drop_past hpast
        rw [hrest, hrest', waiting_past hpast, checkFrom.eq_def, checkFrom.eq_def]
      · rw [drop_of_getElem? hc, checkFrom, waiting_loopStart hc]
      · have hopened := h index (Nat.lt_succ_self index)
        rw [unopened_iff_waiting, not_and] at hopened
        rw [drop_of_getElem? hc, waiting_loopEnd hc]
        cases hstack : waiting commands index with
        | nil => exact absurd hstack (hopened hc)
        | cons innermost rest => rw [checkFrom, List.tail_cons]
      · rw [drop_of_getElem? hc, checkFrom_plain plain, waiting_plain hc plain]

/-- The first closer that closes nothing is what the balance check reports. -/
theorem checkFrom_unopened (h : Unopened commands index)
    (hfirst : ∀ other, Unopened commands other → index ≤ other) :
    checkFrom [] 0 commands = .error (.unmatchedLoopEnd index) := by
  obtain ⟨hc, hempty⟩ := unopened_iff_waiting.1 h
  rw [checkFrom_waiting fun before hbefore hother =>
      absurd (hfirst before hother) (Nat.not_le_of_lt hbefore), hempty, drop_of_getElem? hc,
    checkFrom]

/-- Where every closer closes a loop, the balance check reports the outermost loop that
is not closed. -/
theorem checkFrom_opened (h : ∀ index, ¬ Unopened commands index) :
    checkFrom [] 0 commands =
      match (waiting commands commands.length).getLast? with
      | some outermost => .error (.unclosedLoop outermost)
      | none => .ok () := by
  have hend := checkFrom_waiting fun before (_ : before < commands.length) => h before
  rw [hend, List.drop_length]
  exact checkFrom.eq_1 ..

/-- The outermost loop that is not closed is the first. -/
theorem firstUnclosed_iff :
    FirstUnclosed commands index ↔
      (waiting commands commands.length).getLast? = some index := by
  have hsorted := pairwise_waiting commands commands.length
  constructor
  · rintro ⟨hopen, hfirst⟩
    have hmem := mem_waiting_length_iff.2 hopen
    cases hlast : (waiting commands commands.length).getLast? with
    | none =>
        rw [List.getLast?_eq_none_iff.1 hlast] at hmem
        cases hmem
    | some outermost =>
        obtain ⟨rest, hstack⟩ := List.getLast?_eq_some_iff.1 hlast
        obtain ⟨count, hcount⟩ := mem_waiting_length_iff.1 (List.mem_of_getLast? hlast)
        have hle := hfirst outermost count hcount
        rw [hstack] at hmem hsorted
        rcases List.mem_append.1 hmem with hrest | heq
        · have hlt := (List.pairwise_append.1 hsorted).2.2 index hrest outermost (by simp)
          omega
        · rw [List.mem_singleton.1 heq]
  · intro hlast
    obtain ⟨rest, hstack⟩ := List.getLast?_eq_some_iff.1 hlast
    refine ⟨mem_waiting_length_iff.1 (List.mem_of_getLast? hlast), fun other count hother => ?_⟩
    have hmem := mem_waiting_length_iff.2 ⟨count, hother⟩
    rw [hstack] at hmem hsorted
    rcases List.mem_append.1 hmem with hrest | heq
    · exact Nat.le_of_lt ((List.pairwise_append.1 hsorted).2.2 other hrest index (by simp))
    · exact Nat.le_of_eq (List.mem_singleton.1 heq).symm

/-- No earlier closer than the one at `index` closes nothing. -/
def FirstUnopened (commands : List Command) (index : Nat) : Prop :=
  Unopened commands index ∧ ∀ other, Unopened commands other → index ≤ other

/-- What the balance check comes to. -/
theorem checkFrom_cases (commands : List Command) :
    (∃ index, FirstUnopened commands index ∧
        checkFrom [] 0 commands = .error (.unmatchedLoopEnd index)) ∨
      (∀ index, ¬ Unopened commands index) ∧
        ((∃ index, FirstUnclosed commands index ∧
            checkFrom [] 0 commands = .error (.unclosedLoop index)) ∨
          (∀ start count, ¬ Unclosed commands start count) ∧ checkFrom [] 0 commands = .ok ()) := by
  by_cases hany : ∃ index, Unopened commands index
  · classical
    have hfirst : FirstUnopened commands (Nat.find hany) :=
      ⟨Nat.find_spec hany, fun other hother => Nat.find_min' hany hother⟩
    exact .inl ⟨_, hfirst, checkFrom_unopened hfirst.1 hfirst.2⟩
  · have hnone : ∀ index, ¬ Unopened commands index := fun index h => hany ⟨index, h⟩
    refine .inr ⟨hnone, ?_⟩
    rw [checkFrom_opened hnone]
    cases hlast : (waiting commands commands.length).getLast? with
    | some outermost => exact .inl ⟨outermost, firstUnclosed_iff.2 hlast, rfl⟩
    | none =>
        refine .inr ⟨fun start count h => ?_, rfl⟩
        have hmem := mem_waiting_length_iff.2 ⟨count, h⟩
        rw [List.getLast?_eq_none_iff.1 hlast] at hmem
        cases hmem

theorem FirstUnopened.unique {other : Nat} (h : FirstUnopened commands index)
    (h' : FirstUnopened commands other) : index = other :=
  Nat.le_antisymm (h.2 other h'.1) (h'.2 index h.1)

theorem FirstUnclosed.unique {other : Nat} (h : FirstUnclosed commands index)
    (h' : FirstUnclosed commands other) : index = other := by
  obtain ⟨⟨count, hopen⟩, hfirst⟩ := h
  obtain ⟨⟨count', hopen'⟩, hfirst'⟩ := h'
  exact Nat.le_antisymm (hfirst other count' hopen') (hfirst' index count hopen)

end Nesting

namespace Program

open Nesting

/-- The depth of a step is the number of openers in front of it that wait for a
closer. -/
theorem Made.depth_eq {p : Program} (made : p.Made) {index : Nat} {step : Step}
    (hstep : p.get? index = some step) : step.depth = (waiting p.commands index).length := by
  rw [made.eq_ofCommands, get?, ofCommands, getElem?_nest] at hstep
  obtain ⟨c, _, rfl⟩ := Option.map_eq_some_iff.1 hstep
  rfl

theorem check_eq_unmatched_iff {p : Program} {index : Nat} :
    p.check = .error (.unmatchedLoopEnd index) ↔ FirstUnopened p.commands index := by
  rw [check]
  rcases checkFrom_cases p.commands with ⟨first, hfirst, hcheck⟩ |
    ⟨hnone, ⟨first, _, hcheck⟩ | ⟨_, hcheck⟩⟩
  · rw [hcheck]
    constructor
    · rintro ⟨⟩
      exact hfirst
    · intro h
      rw [h.unique hfirst]
  · rw [hcheck]
    exact ⟨(by rintro ⟨⟩), fun h => absurd h.1 (hnone index)⟩
  · rw [hcheck]
    exact ⟨(by rintro ⟨⟩), fun h => absurd h.1 (hnone index)⟩

theorem check_eq_unclosed_iff {p : Program} {index : Nat} :
    p.check = .error (.unclosedLoop index) ↔
      (∀ other, ¬ Unopened p.commands other) ∧ FirstUnclosed p.commands index := by
  rw [check]
  rcases checkFrom_cases p.commands with ⟨first, hstray, hcheck⟩ |
    ⟨hnone, ⟨first, hfirst, hcheck⟩ | ⟨hclosed, hcheck⟩⟩
  · rw [hcheck]
    exact ⟨(by rintro ⟨⟩), fun h => absurd hstray.1 (h.1 first)⟩
  · rw [hcheck]
    constructor
    · rintro ⟨⟩
      exact ⟨hnone, hfirst⟩
    · intro h
      rw [h.2.unique hfirst]
  · rw [hcheck]
    refine ⟨(by rintro ⟨⟩), fun h => ?_⟩
    obtain ⟨count, hopen⟩ := h.2.1
    exact absurd hopen (hclosed index count)

theorem check_eq_ok_iff {p : Program} :
    p.check = .ok () ↔
      (∀ start, Opens p.commands start → ∃ close, Pairs p.commands start close) ∧
        ∀ close, p.commands[close]? = some .loopEnd → ∃ start, Pairs p.commands start close := by
  rw [check]
  rcases checkFrom_cases p.commands with ⟨first, hstray, hcheck⟩ |
    ⟨hnone, ⟨first, hfirst, hcheck⟩ | ⟨hclosed, hcheck⟩⟩
  · rw [hcheck]
    refine ⟨(by rintro ⟨⟩), fun h => ?_⟩
    obtain ⟨start, hpair⟩ := h.2 first hstray.1.1
    exact absurd hpair (hstray.1.2 start)
  · rw [hcheck]
    refine ⟨(by rintro ⟨⟩), fun h => ?_⟩
    obtain ⟨count, hc, hunclosed⟩ := hfirst.1
    obtain ⟨close, _, hfound⟩ := h.1 first ⟨count, hc⟩
    rw [hunclosed] at hfound
    cases hfound
  · rw [hcheck]
    refine ⟨fun _ => ⟨fun start hopens => ?_, fun close hc => ?_⟩, fun _ => rfl⟩
    · obtain ⟨count, hc⟩ := hopens
      cases hfound : matchingEnd p.commands start with
      | none => exact absurd ⟨hc, hfound⟩ (hclosed start count)
      | some close => exact ⟨close, ⟨count, hc⟩, hfound⟩
    · by_contra hno
      exact hnone close ⟨hc, fun start hpair => hno ⟨start, hpair⟩⟩

/-- The balanced programs are those that spell a block: nothing, or a command that is
no marker and a block, or an opener, a block, a closer and a block. -/
theorem check_eq_ok_iff_block {p : Program} :
    p.check = .ok () ↔ ∃ b : Block, b.commands = p.commands := by
  constructor
  · intro balanced
    exact ⟨p.outline.head, commands_head_outline balanced⟩
  · rintro ⟨b, hb⟩
    have hcheck := checkFrom_block b [] 0 []
    rw [List.append_nil, hb] at hcheck
    rw [check, hcheck]
    rfl

/-- Two loops, one inside the other, behind a stray closer, and a loop that is left
open; then a command is taken out of the middle. -/
def tangled : Program :=
  ((ofCommands [.loopEnd, .loopStart .zero, .jump, .loopStart (.clamp 2), .advance,
    .loopEnd, .loopEnd, .loopStart .zero]).remove 2).1

/-- The search for closers, the nesting depths and the balance check agree.  The search
from an opener always has more openers than closers behind it when it comes to a closer,
so its counter is never counted down from zero; loops have closers of their own and lie
inside one another or apart; the depth of a command is the number of loops in front of
it that are not closed before it; and the check accepts exactly the programs in which
every marker has a partner, which are the words of the grammar of blocks, and otherwise
reports the first closer without a partner or, if there is none, the first opener without
one. -/
theorem nesting_views_agree (p : Program) (made : p.Made) :
    (∀ start index, Opens p.commands start → Inspects p.commands start index →
      0 ≤ surplus p.commands start index ∧
      matchingEnd p.commands start =
        closerFrom (surplus p.commands start index).toNat index (p.commands.drop index) ∧
      (p.commands[index]? = some .loopEnd → 0 < surplus p.commands start index)) ∧
    (∀ start close start' close', Pairs p.commands start close → Pairs p.commands start' close' →
      start ≠ start' →
        close ≠ close' ∧
          (close < start' ∨ close' < start ∨ (start < start' ∧ close' < close) ∨
            (start' < start ∧ close < close'))) ∧
    (∀ index step, p.get? index = some step →
      step.depth = (List.range index).countP fun start => Spans p.commands index start) ∧
    (p.check = .ok () ↔
      (∀ start, Opens p.commands start → ∃ close, Pairs p.commands start close) ∧
        ∀ close, p.commands[close]? = some .loopEnd → ∃ start, Pairs p.commands start close) ∧
    (p.check = .ok () ↔ ∃ b : Block, b.commands = p.commands) ∧
    (∀ index, p.check = .error (.unmatchedLoopEnd index) ↔ FirstUnopened p.commands index) ∧
    ∀ index, p.check = .error (.unclosedLoop index) ↔
      (∀ other, ¬ Unopened p.commands other) ∧ FirstUnclosed p.commands index := by
  refine ⟨fun start index hopens hinspects => ?_, fun start close start' close' h h' hne => ?_,
    fun index step hstep => ?_, check_eq_ok_iff, check_eq_ok_iff_block,
    fun index => check_eq_unmatched_iff, fun index => check_eq_unclosed_iff⟩
  · obtain ⟨counter, hsurplus, hsearch, hpositive⟩ := search_at hopens hinspects
    rw [hsurplus]
    refine ⟨Int.natCast_nonneg counter, hsearch, fun hc => ?_⟩
    have hne : start ≠ index := fun heq => not_opens_of_loopEnd hc (heq ▸ hopens)
    exact Int.natCast_pos.2 (hpositive (Nat.lt_of_le_of_ne hinspects.1 hne))
  · exact h.nested_or_apart h' hne
  · rw [made.eq_ofCommands, Program.get?, ofCommands, getElem?_nest] at hstep
    obtain ⟨c, _, rfl⟩ := Option.map_eq_some_iff.1 hstep
    exact length_waiting p.commands index

theorem nesting_views_agree_tangled :
    tangled.Made ∧
    (0 < surplus tangled.commands 1 4 ∧ matchingEnd tangled.commands 1 = some 5) ∧
    (Pairs tangled.commands 1 5 ∧ Pairs tangled.commands 2 4) ∧
    (tangled.get? 3 = some ⟨.advance, 2⟩ ∧
      2 = (List.range 3).countP fun start => Spans tangled.commands 3 start) ∧
    FirstUnopened tangled.commands 0 := by
  have made : tangled.Made := .removed (.built _) 2
  obtain ⟨hsearch, _, hdepth, _, _, hunmatched, _⟩ := nesting_views_agree tangled made
  have houter : Pairs tangled.commands 1 5 := ⟨⟨.zero, rfl⟩, rfl⟩
  have hinspects : Inspects tangled.commands 1 4 := by
    refine ⟨by decide, fun close hclose => ?_⟩
    rw [houter.2] at hclose
    cases hclose
    decide
  exact ⟨made, ⟨(hsearch 1 4 houter.1 hinspects).2.2 rfl, houter.2⟩,
    ⟨houter, ⟨_, rfl⟩, rfl⟩, ⟨rfl, hdepth 3 _ rfl⟩, (hunmatched 0).1 rfl⟩

end Program

end Beamwalk
