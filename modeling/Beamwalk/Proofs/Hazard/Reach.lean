/-
Module: Beamwalk.Proofs.Hazard.Reach
Purpose: A field is determined by which groups reach which cells, group by group in their
  order of precedence.
Main exports: GroupOrder.Precedes, Field.Reaches, Field.Unreached, Field.Settled,
  Field.settled_derive, Field.lit_deriveScanning_iff, Field.derive_congr
-/
import Mathlib.Data.List.Basic
import Beamwalk.Hazard.State
import Beamwalk.Proofs.Hazard.Casting
import Beamwalk.Proofs.Plane

namespace Beamwalk

namespace GroupOrder

/-- The first place of `earlier` in the order is in front of the first place of
`later`. -/
def Precedes (order : GroupOrder) (earlier later : Group) : Prop :=
  order.groups.idxOf earlier < order.groups.idxOf later

end GroupOrder

namespace Field

/-- A group of the order that is on reaches the cell at `p` in direction `d`:
the cell is some steps away from a source of the group in that direction, and no
cell on the way is reached by a group that precedes. -/
def Reaches (cells : Grid CellKind) (enabled : Switches) (order : GroupOrder) (group : Group)
    (p : Pos) (d : Direction) : Prop :=
  group ∈ order.groups ∧ enabled.get group = true ∧ cells.contains p = true ∧
    ∃ s k, Source cells group s d ∧ 0 < k ∧ Spot.ofPos p = (Spot.ofPos s).moved d.offset k ∧
      ∀ j q, 0 < j → j < k → Spot.ofPos q = (Spot.ofPos s).moved d.offset j →
        ∀ earlier, (_before : order.Precedes earlier group) →
          ∀ e, ¬ Reaches cells enabled order earlier q e
termination_by order.groups.idxOf group

/-- No group that precedes reaches the cell at `p`. -/
def Unreached (cells : Grid CellKind) (enabled : Switches) (order : GroupOrder) (group : Group)
    (p : Pos) : Prop :=
  ∀ earlier, order.Precedes earlier group → ∀ e, ¬ Reaches cells enabled order earlier p e

variable {cells : Grid CellKind} {enabled : Switches} {order : GroupOrder} {group : Group}
  {p q : Pos} {d side : Direction}

/-- The ways of the plane are the steps of the beams. -/
theorem reaches_iff : Reaches cells enabled order group p d ↔
    group ∈ order.groups ∧ enabled.get group = true ∧ cells.contains p = true ∧
      ∃ s k, Source cells group s d ∧ 0 < k ∧ s.step d k = some p ∧
        ∀ j q, 0 < j → j < k → s.step d j = some q → Unreached cells enabled order group q := by
  rw [Reaches]
  simp only [Pos.step_eq_some_iff]
  rfl

/-- Of the groups that reach a cell there is a first one. -/
theorem exists_first_reaching {group : Group} {d : Direction}
    (h : Reaches cells enabled order group p d) :
    ∃ first e, order.groups.idxOf first ≤ order.groups.idxOf group ∧
      Reaches cells enabled order first p e ∧ Unreached cells enabled order first p := by
  by_cases hunreached : Unreached cells enabled order group p
  · exact ⟨group, d, Nat.le_refl _, h, hunreached⟩
  · unfold Unreached at hunreached
    simp only [Classical.not_forall, Classical.not_not] at hunreached
    obtain ⟨earlier, hbefore, e, hearlier⟩ := hunreached
    obtain ⟨first, e', hle, hfirst, hun⟩ := exists_first_reaching hearlier
    exact ⟨first, e', Nat.le_trans hle (Nat.le_of_lt hbefore), hfirst, hun⟩
termination_by order.groups.idxOf group
decreasing_by exact hbefore

/-- A group that reaches a cell reaches the cells on the way. -/
theorem reaches_on_the_way {s : Pos} {k j : Nat} (hmem : group ∈ order.groups)
    (henabled : enabled.get group = true) (hsource : Source cells group s d)
    (hclear : ∀ j q, 0 < j → j < k → s.step d j = some q → Unreached cells enabled order group q)
    (hpos : 0 < j) (hj : j ≤ k) (hq : s.step d j = some q) (hcontains : cells.contains q = true) :
    Reaches cells enabled order group q d := by
  rw [reaches_iff]
  refine ⟨hmem, henabled, hcontains, s, j, hsource, hpos, hq, ?_⟩
  intro i q' hi hij hq'
  exact hclear i q' hi (Nat.lt_of_lt_of_le hij hj) hq'

theorem contains_of_reached (h : ¬ Unreached cells enabled order group p) :
    cells.contains p = true := by
  unfold Unreached at h
  simp only [Classical.not_forall, Classical.not_not] at h
  obtain ⟨earlier, _, e, hearlier⟩ := h
  exact (reaches_iff.1 hearlier).2.2.1

/-- The field under construction after the groups in `served` have cast: a cell
is marked by the groups that reach it, and claimed by the first of them. -/
structure Settled (cells : Grid CellKind) (enabled : Switches) (order : GroupOrder)
    (served : List Group) (c : Casting) : Prop where
  sized : c.Sized cells.width cells.height
  lit : ∀ p side, c.Lit p side ↔
    ∃ group ∈ served, ∃ d, Reaches cells enabled order group p d ∧
      (side = d.reversed ∨ (side = d ∧ Unreached cells enabled order group p))
  owned : ∀ p group, c.Owned p group ↔
    group ∈ served ∧ (∃ d, Reaches cells enabled order group p d) ∧
      Unreached cells enabled order group p

theorem settled_start : Settled cells enabled order [] (.start cells.width cells.height) :=
  ⟨Casting.sized_start _ _, fun p side => by simp [Casting.not_lit_start],
    fun p group => by simp [Casting.not_owned_start]⟩

section Served

variable {served rest : List Group} {c : Casting}

/-- The groups that precede the one to be served have been served. -/
theorem mem_served_of_precedes (horder : order.groups = served ++ group :: rest) {earlier : Group}
    (h : order.Precedes earlier group) : earlier ∈ served := by
  apply Classical.byContradiction
  intro hnot
  rw [GroupOrder.Precedes, horder, List.idxOf_append, if_neg hnot, List.idxOf_append] at h
  split at h
  · rename_i hmem
    have := List.idxOf_lt_length_of_mem hmem
    omega
  · rw [List.idxOf_cons_self] at h
    omega

/-- Where a group that precedes reaches a cell, another group has claimed it. -/
theorem Settled.foreign_of_reached (h : Settled cells enabled order served c)
    (horder : order.groups = served ++ group :: rest)
    (hreached : ¬ Unreached cells enabled order group p) : c.Foreign group p := by
  unfold Unreached at hreached
  simp only [Classical.not_forall, Classical.not_not] at hreached
  obtain ⟨earlier, hbefore, e, hearlier⟩ := hreached
  obtain ⟨first, e', hle, hfirst, hun⟩ := exists_first_reaching hearlier
  have hprecedes : order.Precedes first group := Nat.lt_of_le_of_lt hle hbefore
  refine ⟨first, ?_, ?_⟩
  · rintro rfl
    exact Nat.lt_irrefl _ hprecedes
  · rw [h.owned]
    exact ⟨mem_served_of_precedes horder hprecedes, ⟨e', hfirst⟩, hun⟩

/-- A cell that the group reaches is claimed by another group only where a group
that precedes reaches it. -/
theorem Settled.reached_of_foreign (h : Settled cells enabled order served c)
    (horder : order.groups = served ++ group :: rest)
    (hreaches : Reaches cells enabled order group p d) (hforeign : c.Foreign group p) :
    ¬ Unreached cells enabled order group p := by
  obtain ⟨other, hne, howned⟩ := hforeign
  obtain ⟨hserved, ⟨e, hother⟩, hun⟩ := (h.owned p other).1 howned
  have hmem : other ∈ order.groups := by
    rw [horder]
    exact List.mem_append_left _ hserved
  intro hunreached
  rcases Nat.lt_trichotomy (order.groups.idxOf other) (order.groups.idxOf group) with
    hlt | heq | hgt
  · exact hunreached other hlt e hother
  · exact hne ((List.idxOf_inj hmem).1 heq)
  · exact hun group hgt d hreaches

theorem Settled.foreign_iff (h : Settled cells enabled order served c)
    (horder : order.groups = served ++ group :: rest)
    (hreaches : Reaches cells enabled order group p d) :
    c.Foreign group p ↔ ¬ Unreached cells enabled order group p :=
  ⟨h.reached_of_foreign horder hreaches, h.foreign_of_reached horder⟩

/-- The beams of the group to be served meet exactly the cells that the group
reaches.  Nothing distinguishes a group that is served again: where its beams
ended the first time, they end again. -/
theorem Settled.meets_iff (h : Settled cells enabled order served c)
    (horder : order.groups = served ++ group :: rest) (henabled : enabled.get group = true) :
    (∃ s, Source cells group s d ∧
        Meets (c.Foreign group) (ray cells.width cells.height s d) q) ↔
      Reaches cells enabled order group q d := by
  have hmem : group ∈ order.groups := by simp [horder]
  have hinside : ∀ {s : Pos}, Source cells group s d →
      s.row < cells.height ∧ s.col < cells.width := by
    intro s hsource
    exact Grid.bounds_of_get? hsource
  constructor
  · intro h
    rcases h with ⟨s, hsource, i, hi, hclear⟩
    obtain ⟨hrow, hcol⟩ := hinside hsource
    obtain ⟨hstep, hq⟩ := (getElem?_ray hrow hcol d i).1 hi
    rw [reaches_iff]
    refine ⟨hmem, henabled, by simpa [Grid.contains] using hq, s, i + 1, hsource,
      Nat.succ_pos i, hstep, ?_⟩
    intro j q' hpos hj hq'
    apply Classical.byContradiction
    intro hreached
    have hk : j - 1 + 1 = j := Nat.sub_add_cancel hpos
    have hray : (ray cells.width cells.height s d)[j - 1]? = some q' := by
      rw [getElem?_ray hrow hcol, hk]
      exact ⟨hq', by simpa [Grid.contains] using contains_of_reached hreached⟩
    exact hclear (j - 1) (by omega) q' hray (h.foreign_of_reached horder hreached)
  · intro hreaches
    obtain ⟨_, _, hcontains, s, k, hsource, hpos, hstep, hclear⟩ := reaches_iff.1 hreaches
    obtain ⟨hrow, hcol⟩ := hinside hsource
    have hk : k - 1 + 1 = k := Nat.sub_add_cancel hpos
    refine ⟨s, hsource, k - 1, ?_, ?_⟩
    · rw [getElem?_ray hrow hcol, hk]
      exact ⟨hstep, by simpa [Grid.contains] using hcontains⟩
    · intro j hj q' hq' hforeign
      obtain ⟨hstep', hinside'⟩ := (getElem?_ray hrow hcol d j).1 hq'
      have hcontains' : cells.contains q' = true := by simpa [Grid.contains] using hinside'
      have hway := reaches_on_the_way hmem henabled hsource hclear (Nat.succ_pos j) (by omega)
        hstep' hcontains'
      exact h.reached_of_foreign horder hway hforeign
        (hclear (j + 1) q' (Nat.succ_pos j) (by omega) hstep')

/-- Serving the next group settles its cells too. -/
theorem Settled.castFrom (h : Settled cells enabled order served c)
    (horder : order.groups = served ++ group :: rest) (henabled : enabled.get group = true)
    {entries : List (Pos × CellKind)} (hentries : ∀ e, e ∈ entries ↔ cells.get? e.1 = some e.2) :
    Settled cells enabled order (served ++ [group]) (Field.castFrom group c entries) := by
  have hinside : ∀ e ∈ entries, e.1.row < cells.height ∧ e.1.col < cells.width := by
    intro e he
    exact Grid.bounds_of_get? ((hentries e).1 he)
  obtain ⟨heffect, hsized⟩ := castFrom_effect group h.sized entries hinside
  have hmet : CastEffect group (Reaches cells enabled order group) c
      (Field.castFrom group c entries) := by
    apply heffect.congr
    intro q d
    rw [← h.meets_iff horder henabled]
    constructor
    · intro h
      rcases h with ⟨⟨s, kind⟩, he, hd, hmeets⟩
      exact ⟨s, source_iff.2 ⟨kind, (hentries _).1 he, hd⟩, hmeets⟩
    · intro h
      rcases h with ⟨s, hsource, hmeets⟩
      obtain ⟨kind, hkind, hd⟩ := source_iff.1 hsource
      exact ⟨(s, kind), (hentries _).2 hkind, hd, hmeets⟩
  refine ⟨hsized, fun p side => ?_, fun p other => ?_⟩
  · rw [hmet.lit, h.lit]
    simp only [List.mem_append, List.mem_singleton, or_and_right, exists_or, exists_eq_left]
    apply or_congr_right
    apply exists_congr
    intro d
    apply and_congr_right
    intro hreaches
    rw [h.foreign_iff horder hreaches, Classical.not_not]
  · rw [hmet.owned, h.owned, List.mem_append, List.mem_singleton, or_and_right]
    apply or_congr_right
    apply and_congr_right
    intro heq
    subst heq
    apply and_congr_right
    intro hreached
    obtain ⟨d, hreaches⟩ := hreached
    rw [h.foreign_iff horder hreaches, Classical.not_not]

/-- A group that is off reaches nothing. -/
theorem Settled.skip (h : Settled cells enabled order served c)
    (hdisabled : enabled.get group = false) :
    Settled cells enabled order (served ++ [group]) c := by
  have hnone : ∀ p d, ¬ Reaches cells enabled order group p d := by
    intro p d hreaches
    have henabled := (reaches_iff.1 hreaches).2.1
    rw [hdisabled] at henabled
    cases henabled
  refine ⟨h.sized, fun p side => ?_, fun p other => ?_⟩
  · rw [h.lit]
    simp [or_and_right, exists_or, hnone]
  · rw [h.owned, List.mem_append, List.mem_singleton, or_and_right]
    constructor
    · exact .inl
    · intro h
      rcases h with hserved | ⟨rfl, ⟨d, hreaches⟩, _⟩
      · exact hserved
      · exact absurd hreaches (hnone _ _)

end Served

/-- The field when each group scans the cells in an order of its own. -/
def deriveScanning (scans : Group → List (Pos × CellKind)) (width height : Nat)
    (enabled : Switches) (order : GroupOrder) : Casting :=
  (order.groups.filter enabled.get).foldl (fun c group => castFrom group c (scans group))
    (.start width height)

/-- Serving all groups settles every cell. -/
theorem settled_deriveScanning (enabled : Switches) (order : GroupOrder)
    {scans : Group → List (Pos × CellKind)}
    (hscans : ∀ group e, e ∈ scans group ↔ cells.get? e.1 = some e.2) :
    Settled cells enabled order order.groups
      (deriveScanning scans cells.width cells.height enabled order) := by
  have hserve : ∀ (rest served : List Group) (c : Casting),
      order.groups = served ++ rest → Settled cells enabled order served c →
        Settled cells enabled order order.groups
          ((rest.filter enabled.get).foldl (fun c group => castFrom group c (scans group)) c) := by
    intro rest
    induction rest with
    | nil =>
        intro served c horder h
        rw [horder, List.append_nil]
        exact h
    | cons group rest ih =>
        intro served c horder h
        have hnext : order.groups = (served ++ [group]) ++ rest := by simp [horder]
        cases henabled : enabled.get group with
        | true =>
            rw [List.filter_cons_of_pos henabled]
            exact ih _ _ hnext (h.castFrom horder henabled (hscans group))
        | false =>
            rw [List.filter_cons_of_neg (by simp [henabled])]
            exact ih _ _ hnext (h.skip henabled)
  exact hserve order.groups [] _ rfl settled_start

theorem settled_derive (cells : Grid CellKind) (enabled : Switches) (order : GroupOrder) :
    Settled cells enabled order order.groups
      (deriveScanning (fun _ => cells.scan) cells.width cells.height enabled order) :=
  settled_deriveScanning enabled order fun _ _ => Grid.mem_scan

@[simp] theorem width_derive (cells : Grid CellKind) (enabled : Switches) (order : GroupOrder) :
    (derive cells enabled order).width = cells.width :=
  (settled_derive cells enabled order).sized.beams_width

@[simp] theorem height_derive (cells : Grid CellKind) (enabled : Switches) (order : GroupOrder) :
    (derive cells enabled order).height = cells.height :=
  (settled_derive cells enabled order).sized.beams_height

/-- A side of a cell is touched if a group reaches the cell from that side, or
reaches it in the opposite direction before all others and so leaves by it. -/
theorem lit_deriveScanning_iff {scans : Group → List (Pos × CellKind)}
    (hscans : ∀ group e, e ∈ scans group ↔ cells.get? e.1 = some e.2) :
    (deriveScanning scans cells.width cells.height enabled order).Lit p side ↔
      ∃ group d, Reaches cells enabled order group p d ∧
        (side = d.reversed ∨ (side = d ∧ Unreached cells enabled order group p)) := by
  rw [(settled_deriveScanning enabled order hscans).lit]
  constructor
  · intro h
    rcases h with ⟨group, _, d, h⟩
    exact ⟨group, d, h⟩
  · intro h
    rcases h with ⟨group, d, hreaches, h⟩
    exact ⟨group, (reaches_iff.1 hreaches).1, d, hreaches, h⟩

theorem lit_derive_iff (cells : Grid CellKind) (enabled : Switches) (order : GroupOrder) (p : Pos)
    (side : Direction) :
    (∃ b, (derive cells enabled order).get? p = some b ∧ b.has side = true) ↔
      ∃ group d, Reaches cells enabled order group p d ∧
        (side = d.reversed ∨ (side = d ∧ Unreached cells enabled order group p)) :=
  lit_deriveScanning_iff fun _ _ => Grid.mem_scan

theorem beams_ext {b b' : Beams} (h : ∀ side, b.has side = true ↔ b'.has side = true) : b = b' := by
  have hnorth := h .north
  have hsouth := h .south
  have heast := h .east
  have hwest := h .west
  obtain ⟨north, south, east, west⟩ := b
  obtain ⟨north', south', east', west'⟩ := b'
  simp only [Beams.has, ← Bool.eq_iff_iff] at hnorth hsouth heast hwest
  rw [hnorth, hsouth, heast, hwest]

/-- A field is known by its size and the sides that are touched. -/
theorem field_ext {f f' : Field} (hwidth : f.width = f'.width) (hheight : f.height = f'.height)
    (h : ∀ p side, (∃ b, f.get? p = some b ∧ b.has side = true) ↔
      ∃ b, f'.get? p = some b ∧ b.has side = true) : f = f' := by
  apply Grid.ext_get? hwidth hheight
  intro p
  by_cases hp : f.contains p = true
  · obtain ⟨b, hb⟩ := Grid.contains_iff.1 hp
    obtain ⟨b', hb'⟩ := Grid.contains_iff.1 ((Grid.contains_congr hwidth hheight p).symm.trans hp)
    have heq : b = b' := by
      apply beams_ext
      intro side
      have hside := h p side
      simpa [hb, hb'] using hside
    rw [hb, hb', heq]
  · have hp' : f'.contains p = false := by
      rw [← Grid.contains_congr hwidth hheight p]
      simpa using hp
    rw [Grid.get?_eq_none_iff.2 (by simpa using hp), Grid.get?_eq_none_iff.2 hp']

/-- Groups reach the same cells of two grids that have the same sources. -/
theorem reaches_congr {cells' : Grid CellKind} (hwidth : cells.width = cells'.width)
    (hheight : cells.height = cells'.height)
    (hsource : ∀ group s d, Source cells group s d ↔ Source cells' group s d)
    {group : Group} {p : Pos} {d : Direction} :
    Reaches cells enabled order group p d ↔ Reaches cells' enabled order group p d := by
  have hunreached : ∀ q, Unreached cells enabled order group q ↔
      Unreached cells' enabled order group q := by
    intro q
    unfold Unreached
    apply forall_congr'
    intro earlier
    apply forall_congr'
    intro hbefore
    apply forall_congr'
    intro e
    exact not_congr (reaches_congr hwidth hheight hsource)
  rw [reaches_iff, reaches_iff, Grid.contains_congr hwidth hheight]
  simp only [hsource, hunreached]
termination_by order.groups.idxOf group
decreasing_by exact hbefore

/-- The field depends on nothing but the sources of the grid. -/
theorem derive_congr {cells' : Grid CellKind} (hwidth : cells.width = cells'.width)
    (hheight : cells.height = cells'.height)
    (hsource : ∀ group s d, Source cells group s d ↔ Source cells' group s d) :
    derive cells enabled order = derive cells' enabled order := by
  apply field_ext (by simpa using hwidth) (by simpa using hheight)
  intro p side
  refine (lit_derive_iff cells enabled order p side).trans (Iff.trans ?_
    (lit_derive_iff cells' enabled order p side).symm)
  have hreaches : ∀ group q d, Reaches cells enabled order group q d ↔
      Reaches cells' enabled order group q d := fun _ _ _ =>
    reaches_congr hwidth hheight hsource
  have hunreached : ∀ group q, Unreached cells enabled order group q ↔
      Unreached cells' enabled order group q := by
    intro group q
    unfold Unreached
    simp only [hreaches]
  simp only [hreaches, hunreached]

/-- Two beams that cross in the corner opposite to the first cell. -/
def crossing : Grid CellKind :=
  .ofRows [[.empty, .verticalSource .blue], [.horizontalSource .red, .empty]] (by decide)

/-- A side of a cell is touched exactly if some group reaches the cell and the side is the
one by which that group comes in, which looks back the way it came, or the one by which it
goes out and no group that precedes reaches the cell.  Each group may scan the cells in any
order. -/
theorem derive_has_iff_reaches (cells : Grid CellKind) (enabled : Switches) (order : GroupOrder) :
    (∀ p side,
      (∃ b, (derive cells enabled order).get? p = some b ∧ b.has side = true) ↔
        ∃ group d, Reaches cells enabled order group p d ∧
          (side.offset = d.offset.opposite ∨
            (side = d ∧ ∀ earlier, order.Precedes earlier group →
              ∀ e, ¬ Reaches cells enabled order earlier p e))) ∧
    ∀ scans : Group → List (Pos × CellKind), (∀ group, (scans group).Perm cells.scan) →
      (deriveScanning scans cells.width cells.height enabled order).beams =
        derive cells enabled order := by
  refine ⟨fun p side => ?_, fun scans hscans => ?_⟩
  · simp only [Offset.offset_eq_opposite_iff]
    exact lit_derive_iff cells enabled order p side
  · have hmem : ∀ group e, e ∈ scans group ↔ cells.get? e.1 = some e.2 := fun group e =>
      (hscans group).mem_iff.trans Grid.mem_scan
    have hsized := (settled_deriveScanning enabled order hmem).sized
    apply field_ext
    · rw [hsized.beams_width, width_derive]
    · rw [hsized.beams_height, height_derive]
    · intro p side
      exact (lit_deriveScanning_iff hmem).trans
        (lit_derive_iff cells enabled order p side).symm

/-- Where the beams cross, the red one, which comes first, goes through to the east; the
blue one comes in from the north and does not go on to the south. -/
theorem derive_has_iff_reaches_crossing :
    (Reaches crossing ⟨true, true, false⟩ ⟨Group.all⟩ .red ⟨1, 1⟩ .east ∧
      ∃ b, (derive crossing ⟨true, true, false⟩ ⟨Group.all⟩).get? ⟨1, 1⟩ = some b ∧
        b.has .east = true) ∧
    (Reaches crossing ⟨true, true, false⟩ ⟨Group.all⟩ .blue ⟨1, 1⟩ .south ∧
      ∃ b, (derive crossing ⟨true, true, false⟩ ⟨Group.all⟩).get? ⟨1, 1⟩ = some b ∧
        b.has .north = true) ∧
    (¬ ∃ group d, Reaches crossing ⟨true, true, false⟩ ⟨Group.all⟩ group ⟨1, 1⟩ d ∧
        (Direction.south.offset = d.offset.opposite ∨
          (.south = d ∧ ∀ earlier, GroupOrder.Precedes ⟨Group.all⟩ earlier group →
            ∀ e, ¬ Reaches crossing ⟨true, true, false⟩ ⟨Group.all⟩ earlier ⟨1, 1⟩ e))) ∧
      (deriveScanning (fun _ => crossing.scan.reverse) 2 2 ⟨true, true, false⟩ ⟨Group.all⟩).beams =
        derive crossing ⟨true, true, false⟩ ⟨Group.all⟩ := by
  have hred : Reaches crossing ⟨true, true, false⟩ ⟨Group.all⟩ .red ⟨1, 1⟩ .east :=
    reaches_iff.2 ⟨by decide, rfl, by decide, ⟨1, 0⟩, 1, rfl, Nat.one_pos, rfl,
      fun j q hpos hlt => by omega⟩
  have hblue : Reaches crossing ⟨true, true, false⟩ ⟨Group.all⟩ .blue ⟨1, 1⟩ .south :=
    reaches_iff.2 ⟨by decide, rfl, by decide, ⟨0, 1⟩, 1, rfl, Nat.one_pos, rfl,
      fun j q hpos hlt => by omega⟩
  have hfirst : ∀ earlier, ¬ GroupOrder.Precedes ⟨Group.all⟩ earlier .red := fun earlier =>
    Nat.not_lt_zero _
  have hbeams : (derive crossing ⟨true, true, false⟩ ⟨Group.all⟩).get? ⟨1, 1⟩ =
      some ⟨true, false, true, true⟩ := by decide
  have hfield := derive_has_iff_reaches crossing ⟨true, true, false⟩ ⟨Group.all⟩
  refine ⟨⟨hred, (hfield.1 ⟨1, 1⟩ .east).2 ⟨.red, .east, hred, .inr ⟨rfl, ?_⟩⟩⟩,
    ⟨hblue, (hfield.1 ⟨1, 1⟩ .north).2 ⟨.blue, .south, hblue, .inl rfl⟩⟩, fun h => ?_,
    hfield.2 _ fun _ => List.reverse_perm _⟩
  · exact fun earlier hbefore => absurd hbefore (hfirst earlier)
  · obtain ⟨b, hb, hhas⟩ := (hfield.1 ⟨1, 1⟩ .south).2 h
    rw [hbeams] at hb
    cases hb
    cases hhas

end Field

end Beamwalk
