/-
Module: Beamwalk.Proofs.Hazard.Precedence
Purpose: The order of groups remembers in which order they were switched on.
Main exports: GroupOrder.Settled, GroupOrder.settled_resorted, HazardState.after,
  HazardState.latestOnset, HazardState.Remembers
-/
import Mathlib.Data.List.Induction
import Beamwalk.Proofs.Hazard.Reach

namespace Beamwalk

/-- Leaving elements out does not change which of two others comes first. -/
theorem idxOf_filter_lt_iff {α : Type} [DecidableEq α] {test : α → Bool} {a b : α}
    (ha : test a = true) (hb : test b = true) (l : List α) :
    (l.filter test).idxOf a < (l.filter test).idxOf b ↔ l.idxOf a < l.idxOf b := by
  induction l with
  | nil => simp
  | cons x rest ih =>
      by_cases hx : test x = true
      · rw [List.filter_cons_of_pos hx]
        by_cases hxb : x = b
        · subst hxb
          simp
        · by_cases hxa : x = a
          · subst hxa
            simp [List.idxOf_cons_ne _ hxb]
          · simp [List.idxOf_cons_ne, hxa, hxb, ih]
      · have hxa : x ≠ a := by
          rintro rfl
          exact hx ha
        have hxb : x ≠ b := by
          rintro rfl
          exact hx hb
        rw [List.filter_cons_of_neg hx]
        simp [List.idxOf_cons_ne, hxa, hxb, ih]

namespace GroupOrder

variable {order : GroupOrder} {enabled : Switches} {g g' : Group}

instance (order : GroupOrder) (g g' : Group) : Decidable (order.Precedes g g') :=
  inferInstanceAs (Decidable (_ < _))

/-- The order holds every group once, those that are on in front of those that
are off. -/
structure Settled (order : GroupOrder) (enabled : Switches) : Prop where
  perm : order.groups.Perm Group.all
  enabled_first : ∀ g g', enabled.get g = true → enabled.get g' = false → order.Precedes g g'

theorem perm_resorted (order : GroupOrder) (enabled : Switches) :
    (order.resorted enabled).groups.Perm order.groups :=
  List.filter_append_perm enabled.get order.groups

/-- Groups that are on keep their ranks among each other. -/
theorem precedes_resorted_iff (hmem : g ∈ order.groups) (hmem' : g' ∈ order.groups)
    (hg : enabled.get g = true) (hg' : enabled.get g' = true) :
    (order.resorted enabled).Precedes g g' ↔ order.Precedes g g' := by
  have hfilter : ∀ {k}, k ∈ order.groups → enabled.get k = true →
      k ∈ order.groups.filter enabled.get := fun hk hon => List.mem_filter.2 ⟨hk, hon⟩
  rw [Precedes, resorted, List.idxOf_append_of_mem (hfilter hmem hg),
    List.idxOf_append_of_mem (hfilter hmem' hg')]
  exact idxOf_filter_lt_iff hg hg' order.groups

/-- A group that is on comes before one that is off. -/
theorem precedes_resorted (hmem : g ∈ order.groups) (hg : enabled.get g = true)
    (hg' : enabled.get g' = false) : (order.resorted enabled).Precedes g g' := by
  have hon : g ∈ order.groups.filter enabled.get := List.mem_filter.2 ⟨hmem, hg⟩
  have hoff : g' ∉ order.groups.filter enabled.get := by
    intro h
    rw [(List.mem_filter.1 h).2] at hg'
    cases hg'
  rw [Precedes, resorted, List.idxOf_append_of_mem hon, List.idxOf_append_of_notMem hoff]
  calc (order.groups.filter enabled.get).idxOf g
      < (order.groups.filter enabled.get).length := List.idxOf_lt_length_iff.2 hon
    _ ≤ _ := Nat.le_add_right ..

theorem mem_of_perm (h : order.groups.Perm Group.all) (g : Group) : g ∈ order.groups :=
  h.mem_iff.2 g.mem_all

theorem settled_resorted (h : order.groups.Perm Group.all) (enabled : Switches) :
    (order.resorted enabled).Settled enabled where
  perm := (order.perm_resorted enabled).trans h
  enabled_first _ _ := precedes_resorted (mem_of_perm h _)

end GroupOrder

namespace HazardState

variable {cells : Grid CellKind} {enabled : Switches} {toggles : List GroupSet} {g g' : Group}

/-- The hazards of a grid after some sets of groups were toggled, the first one
first. -/
def after (cells : Grid CellKind) (enabled : Switches) (toggles : List GroupSet) : HazardState :=
  toggles.foldl (fun h groups => h.toggle groups cells) (.start cells enabled)

/-- The toggle at an index switches the group on: it is off in front of it and on
behind it. -/
def switchesOn (cells : Grid CellKind) (enabled : Switches) (toggles : List GroupSet) (g : Group)
    (i : Nat) : Bool :=
  !(after cells enabled (toggles.take i)).enabled.get g &&
    (after cells enabled (toggles.take (i + 1))).enabled.get g

/-- The index of the latest toggle that switches the group on, `none` if no toggle
does. -/
def latestOnset (cells : Grid CellKind) (enabled : Switches) (toggles : List GroupSet)
    (g : Group) : Option Nat :=
  ((List.range toggles.length).filter (switchesOn cells enabled toggles g)).getLast?

theorem after_append_singleton (toggles : List GroupSet) (groups : GroupSet) :
    after cells enabled (toggles ++ [groups]) =
      (after cells enabled toggles).toggle groups cells := by
  simp [after]

/-- A group is on if it was on at the start, unless it was toggled an odd number
of times. -/
theorem get_enabled_after (g : Group) :
    (after cells enabled toggles).enabled.get g =
      (enabled.get g ^^ decide (toggles.countP (·.contains g) % 2 = 1)) := by
  induction toggles using List.reverseRecOn with
  | nil => simp [after, start]
  | append_singleton toggles groups ih =>
      rw [after_append_singleton, toggle, Switches.get_flip, ih, Bool.xor_assoc,
        List.countP_append, List.countP_singleton]
      congr 1
      cases groups.contains g with
      | true =>
          simp only [if_true, Bool.xor_true, ← decide_not, decide_eq_decide]
          omega
      | false => simp

/-- The order is settled, and the field is the one that follows from it. -/
structure Coherent (cells : Grid CellKind) (h : HazardState) : Prop where
  order : h.order.Settled h.enabled
  field : h.field = Field.derive cells h.enabled h.order

theorem coherent_start (cells : Grid CellKind) (enabled : Switches) :
    (start cells enabled).Coherent cells :=
  ⟨GroupOrder.settled_resorted (List.Perm.refl _) enabled, rfl⟩

theorem Coherent.toggle {h : HazardState} (hperm : h.order.groups.Perm Group.all)
    (groups : GroupSet) (cells : Grid CellKind) : (h.toggle groups cells).Coherent cells :=
  ⟨GroupOrder.settled_resorted hperm _, rfl⟩

theorem coherent_after (cells : Grid CellKind) (enabled : Switches) (toggles : List GroupSet) :
    (after cells enabled toggles).Coherent cells := by
  induction toggles using List.reverseRecOn with
  | nil => exact coherent_start cells enabled
  | append_singleton toggles groups ih =>
      rw [after_append_singleton]
      exact .toggle ih.order.perm groups cells

/-! ### The latest onset -/

theorem lt_of_latestOnset {i : Nat} (h : latestOnset cells enabled toggles g = some i) :
    i < toggles.length :=
  List.mem_range.1 (List.mem_filter.1 (List.mem_of_getLast? h)).1

theorem not_lt_latestOnset (toggles : List GroupSet) (g : Group) :
    ¬ some toggles.length < latestOnset cells enabled toggles g := by
  intro h
  cases honset : latestOnset cells enabled toggles g with
  | none => simp [honset] at h
  | some i =>
      rw [honset, Option.some_lt_some] at h
      exact Nat.lt_asymm h (lt_of_latestOnset honset)

/-- The last toggle is the latest onset of the groups that it switches on; for all
others nothing changes. -/
theorem latestOnset_append_singleton (toggles : List GroupSet) (groups : GroupSet) (g : Group) :
    latestOnset cells enabled (toggles ++ [groups]) g =
      if (after cells enabled toggles).enabled.get g = false ∧ groups.contains g = true then
        some toggles.length
      else latestOnset cells enabled toggles g := by
  have hearlier : (List.range toggles.length).filter
        (switchesOn cells enabled (toggles ++ [groups]) g) =
      (List.range toggles.length).filter (switchesOn cells enabled toggles g) := by
    apply List.filter_congr
    intro i hi
    have hi : i < toggles.length := List.mem_range.1 hi
    rw [switchesOn, switchesOn, List.take_append_of_le_length (Nat.le_of_lt hi),
      List.take_append_of_le_length hi]
  have hlast : switchesOn cells enabled (toggles ++ [groups]) g toggles.length =
      (!(after cells enabled toggles).enabled.get g &&
        ((after cells enabled toggles).enabled.get g ^^ groups.contains g)) := by
    rw [switchesOn, List.take_left, List.take_of_length_le (by simp), after_append_singleton,
      toggle, Switches.get_flip]
  rw [latestOnset, List.length_append, List.length_singleton, List.range_succ, List.filter_append,
    hearlier]
  by_cases honset : (after cells enabled toggles).enabled.get g = false ∧ groups.contains g = true
  · simp [hlast, honset]
  · rw [if_neg honset]
    cases hon : (after cells enabled toggles).enabled.get g with
    | true => simp [hlast, hon, latestOnset]
    | false =>
        have hout : groups.contains g = false := by simpa [hon] using honset
        simp [hlast, hon, hout, latestOnset]

/-- A group that is on after the last toggle was switched on by it, or it was on
before. -/
theorem onset_cases {groups : GroupSet}
    (h : (after cells enabled (toggles ++ [groups])).enabled.get g = true) :
    ((after cells enabled toggles).enabled.get g = false ∧
        latestOnset cells enabled (toggles ++ [groups]) g = some toggles.length) ∨
      ((after cells enabled toggles).enabled.get g = true ∧
        latestOnset cells enabled (toggles ++ [groups]) g =
          latestOnset cells enabled toggles g) := by
  rw [after_append_singleton, toggle, Switches.get_flip] at h
  rw [latestOnset_append_singleton]
  cases hon : (after cells enabled toggles).enabled.get g with
  | true => simp
  | false =>
      rw [hon, Bool.false_xor] at h
      simp [h]

/-- The ranks of the groups that are on tell when they were switched on last. -/
structure Remembers (cells : Grid CellKind) (enabled : Switches) (toggles : List GroupSet)
    (g g' : Group) : Prop where
  /-- The group that was switched on earlier comes first. -/
  earlier : latestOnset cells enabled toggles g < latestOnset cells enabled toggles g' →
    (after cells enabled toggles).order.Precedes g g'
  /-- Groups that were switched on together keep the ranks that they had. -/
  together : ∀ i, latestOnset cells enabled toggles g = some i →
    latestOnset cells enabled toggles g' = some i →
      ((after cells enabled toggles).order.Precedes g g' ↔
        (after cells enabled (toggles.take i)).order.Precedes g g')
  /-- Groups that have been on since the start keep the standing order. -/
  always : latestOnset cells enabled toggles g = none →
    latestOnset cells enabled toggles g' = none →
      ((after cells enabled toggles).order.Precedes g g' ↔ g.index < g'.index)

theorem remembers_nil (hg : enabled.get g = true) (hg' : enabled.get g' = true) :
    Remembers cells enabled [] g g' where
  earlier h := by simp [latestOnset] at h
  together i h := by simp [latestOnset] at h
  always _ _ := by
    have hstanding : GroupOrder.Precedes ⟨Group.all⟩ g g' ↔ g.index < g'.index := by
      cases g <;> cases g' <;> decide
    rw [← hstanding]
    exact GroupOrder.precedes_resorted_iff g.mem_all g'.mem_all hg hg'

theorem remembers_append_singleton {groups : GroupSet}
    (ih : (after cells enabled toggles).enabled.get g = true →
      (after cells enabled toggles).enabled.get g' = true → Remembers cells enabled toggles g g')
    (hg : (after cells enabled (toggles ++ [groups])).enabled.get g = true)
    (hg' : (after cells enabled (toggles ++ [groups])).enabled.get g' = true) :
    Remembers cells enabled (toggles ++ [groups]) g g' := by
  have hsettled := (coherent_after cells enabled toggles).order
  have hkeep : (after cells enabled (toggles ++ [groups])).order.Precedes g g' ↔
      (after cells enabled toggles).order.Precedes g g' := by
    rw [after_append_singleton] at hg hg' ⊢
    exact GroupOrder.precedes_resorted_iff (GroupOrder.mem_of_perm hsettled.perm g)
      (GroupOrder.mem_of_perm hsettled.perm g') hg hg'
  rcases onset_cases hg with ⟨hoff, honset⟩ | ⟨hon, honset⟩
  · rcases onset_cases hg' with ⟨hoff', honset'⟩ | ⟨hon', honset'⟩
    · -- Both were switched on by the last toggle.
      refine ⟨fun h => ?_, fun i h _ => ?_, fun h _ => ?_⟩
      · simp [honset, honset'] at h
      · rw [honset] at h
        cases h
        rw [hkeep, List.take_left]
      · simp [honset] at h
    · refine ⟨fun h => ?_, fun i h h' => ?_, fun h _ => ?_⟩
      · rw [honset, honset'] at h
        exact absurd h (not_lt_latestOnset _ _)
      · rw [honset] at h
        rw [honset'] at h'
        cases h
        exact absurd (lt_of_latestOnset h') (Nat.lt_irrefl _)
      · simp [honset] at h
  · rcases onset_cases hg' with ⟨hoff', honset'⟩ | ⟨hon', honset'⟩
    · refine ⟨fun _ => ?_, fun i h h' => ?_, fun _ h => ?_⟩
      · exact hkeep.2 (hsettled.enabled_first g g' hon hoff')
      · rw [honset] at h
        rw [honset'] at h'
        cases h'
        exact absurd (lt_of_latestOnset h) (Nat.lt_irrefl _)
      · simp [honset'] at h
    · have hbefore := ih hon hon'
      refine ⟨fun h => ?_, fun i h h' => ?_, fun h h' => ?_⟩
      · rw [honset, honset'] at h
        exact hkeep.2 (hbefore.earlier h)
      · rw [honset] at h
        rw [honset'] at h'
        rw [hkeep, List.take_append_of_le_length (Nat.le_of_lt (lt_of_latestOnset h))]
        exact hbefore.together i h h'
      · rw [honset] at h
        rw [honset'] at h'
        rw [hkeep]
        exact hbefore.always h h'

theorem remembers_after
    (hg : (after cells enabled toggles).enabled.get g = true)
    (hg' : (after cells enabled toggles).enabled.get g' = true) :
    Remembers cells enabled toggles g g' := by
  induction toggles using List.reverseRecOn with
  | nil => exact remembers_nil hg hg'
  | append_singleton toggles groups ih => exact remembers_append_singleton ih hg hg'

/-- After any toggles a group is on if it was on at the start, unless it was toggled
an odd number of times.  The order is a permutation of the groups with those that
are on in front, and it ranks these by the toggles that switched them on last.  The
field follows from the switches and the order. -/
theorem after_toggles (cells : Grid CellKind) (enabled : Switches) (toggles : List GroupSet) :
    (∀ g, (after cells enabled toggles).enabled.get g =
      (enabled.get g ^^ decide (toggles.countP (·.contains g) % 2 = 1))) ∧
    (after cells enabled toggles).order.Settled (after cells enabled toggles).enabled ∧
    (∀ g g', (after cells enabled toggles).enabled.get g = true →
      (after cells enabled toggles).enabled.get g' = true →
        Remembers cells enabled toggles g g') ∧
    (after cells enabled toggles).field =
      Field.derive cells (after cells enabled toggles).enabled
        (after cells enabled toggles).order := by
  have hcoherent := coherent_after cells enabled toggles
  refine ⟨get_enabled_after, hcoherent.order, ?_, hcoherent.field⟩
  intro g g' hg hg'
  exact remembers_after hg hg'

/-- Red is on from the start but switched off and on again, after blue and green
were switched on together. -/
theorem after_toggles_red_again :
    let toggles := [GroupSet.allBut .red, .single .red, .single .red]
    let h := after Field.crossing ⟨true, false, false⟩ toggles
    h.enabled.get .blue = true ∧ h.enabled.get .red = true ∧
      latestOnset Field.crossing ⟨true, false, false⟩ toggles .blue = some 0 ∧
      latestOnset Field.crossing ⟨true, false, false⟩ toggles .red = some 2 ∧
      h.order.Precedes .blue .red := by
  have hlaw := (after_toggles Field.crossing ⟨true, false, false⟩
    [.allBut .red, .single .red, .single .red]).2.2.1
  have hblue : latestOnset Field.crossing ⟨true, false, false⟩
      [.allBut .red, .single .red, .single .red] .blue = some 0 := rfl
  have hred : latestOnset Field.crossing ⟨true, false, false⟩
      [.allBut .red, .single .red, .single .red] .red = some 2 := rfl
  refine ⟨rfl, rfl, hblue, hred, (hlaw .blue .red rfl rfl).earlier ?_⟩
  rw [hblue, hred, Option.some_lt_some]
  decide

end HazardState

end Beamwalk
