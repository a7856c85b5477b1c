/-
Module: Beamwalk.Proofs.Hazard.Casting
Purpose: What casting the beams of one group adds to a field under construction.
Main exports: Field.Source, Field.mem_directions_iff, Field.getElem?_ray, Field.Casting.Lit,
  Field.Casting.Owned, Field.Casting.Foreign, Field.Meets, Field.castAlong_effect,
  Field.castFrom, Field.CastEffect, Field.castFrom_effect
-/
import Beamwalk.Hazard.Field
import Beamwalk.Proofs.Grid.Access

namespace Beamwalk.Field

/-- What a cell must hold to cast beams of a group in a direction: a horizontal source for
those to the east and the west, a vertical one for those to the north and the south. -/
def sourceKind (group : Group) : Direction → CellKind
  | .east | .west => .horizontalSource group
  | .north | .south => .verticalSource group

/-- At `s` there is a source of the group for beams in direction `d`. -/
def Source (cells : Grid CellKind) (group : Group) (s : Pos) (d : Direction) : Prop :=
  cells.get? s = some (sourceKind group d)

theorem mem_directions_iff {group : Group} {kind : CellKind} {d : Direction} :
    d ∈ directions group kind ↔ kind = sourceKind group d := by
  cases kind with
  | horizontalSource other =>
      by_cases h : other = group <;> cases d <;> simp [directions, sourceKind, h]
  | verticalSource other =>
      by_cases h : other = group <;> cases d <;> simp [directions, sourceKind, h]
  | empty | coin | start | button => cases d <;> simp [directions, sourceKind]

/-- The sources are the cells that cast beams. -/
theorem source_iff {cells : Grid CellKind} {group : Group} {s : Pos} {d : Direction} :
    Source cells group s d ↔ ∃ kind, cells.get? s = some kind ∧ d ∈ directions group kind := by
  simp [Source, mem_directions_iff]

theorem getElem?_map_range {α : Type} (f : Nat → α) (n i : Nat) :
    ((List.range n).map f)[i]? = if i < n then some (f i) else none := by
  rw [List.getElem?_map]
  by_cases h : i < n
  · rw [List.getElem?_range h, if_pos h]
    rfl
  · rw [List.getElem?_eq_none (by simp; omega), if_neg h]
    rfl

/-- The cells of a ray are those one step away, two steps away, and so on, as
far as the grid goes. -/
theorem getElem?_ray {width height : Nat} {s q : Pos} (hrow : s.row < height)
    (hcol : s.col < width) (d : Direction) (i : Nat) :
    (ray width height s d)[i]? = some q ↔
      s.step d (i + 1) = some q ∧ q.row < height ∧ q.col < width := by
  obtain ⟨row, col⟩ := s
  obtain ⟨qrow, qcol⟩ := q
  simp only at hrow hcol
  cases d with
  | north =>
      simp only [ray, getElem?_map_range, Pos.step, Option.ite_none_right_eq_some,
        Option.some.injEq, Pos.mk.injEq]
      omega
  | south =>
      simp only [ray, getElem?_map_range, Pos.step, Option.ite_none_right_eq_some,
        Option.some.injEq, Pos.mk.injEq]
      omega
  | east =>
      simp only [ray, getElem?_map_range, Pos.step, Option.ite_none_right_eq_some,
        Option.some.injEq, Pos.mk.injEq]
      omega
  | west =>
      simp only [ray, getElem?_map_range, Pos.step, Option.ite_none_right_eq_some,
        Option.some.injEq, Pos.mk.injEq]
      omega

namespace Casting

/-- A beam touches the side of the cell at `p`. -/
def Lit (c : Casting) (p : Pos) (side : Direction) : Prop :=
  ∃ b, c.beams.get? p = some b ∧ b.has side = true

/-- The group has claimed the cell at `p`. -/
def Owned (c : Casting) (p : Pos) (group : Group) : Prop :=
  c.owner.get? p = some (some group)

/-- Another group has claimed the cell at `p`. -/
def Foreign (c : Casting) (group : Group) (p : Pos) : Prop :=
  ∃ other, other ≠ group ∧ c.Owned p other

/-- Both grids under construction have the given size. -/
structure Sized (c : Casting) (width height : Nat) : Prop where
  beams_width : c.beams.width = width
  beams_height : c.beams.height = height
  owner_width : c.owner.width = width
  owner_height : c.owner.height = height

theorem sized_start (width height : Nat) : (start width height).Sized width height :=
  ⟨rfl, rfl, rfl, rfl⟩

theorem not_lit_start {width height : Nat} {p : Pos} {side : Direction} :
    ¬ (start width height).Lit p side := by
  intro h
  rcases h with ⟨b, hb, hside⟩
  rw [start, Grid.get?_filled] at hb
  split at hb
  · cases hb
    simp at hside
  · cases hb

theorem not_owned_start {width height : Nat} {p : Pos} {group : Group} :
    ¬ (start width height).Owned p group := by
  intro h
  rw [Owned, start, Grid.get?_filled] at h
  split at h
  · cases h
  · cases h

end Casting

/-- A beam that runs along the cells of a list and ends in the first one that
blocks it meets the cell at `q`. -/
def Meets (blocked : Pos → Prop) (cells : List Pos) (q : Pos) : Prop :=
  ∃ i : Nat, cells[i]? = some q ∧ ∀ j < i, ∀ p, cells[j]? = some p → ¬ blocked p

theorem not_meets_nil {blocked : Pos → Prop} {q : Pos} : ¬ Meets blocked [] q := by
  intro h
  rcases h with ⟨i, hi, _⟩
  simp at hi

/-- The first cell is met in any case, the others if it does not block. -/
theorem meets_cons {blocked : Pos → Prop} {p q : Pos} {rest : List Pos} :
    Meets blocked (p :: rest) q ↔ q = p ∨ (¬ blocked p ∧ Meets blocked rest q) := by
  constructor
  · intro h
    rcases h with ⟨i, hi, hclear⟩
    cases i with
    | zero =>
        simp only [List.getElem?_cons_zero, Option.some.injEq] at hi
        exact .inl hi.symm
    | succ i =>
        refine .inr ⟨hclear 0 (Nat.succ_pos i) p rfl, i, by simpa using hi, ?_⟩
        intro j hj p' hp'
        exact hclear (j + 1) (Nat.succ_lt_succ hj) p' (by simpa using hp')
  · intro h
    rcases h with rfl | ⟨hp, i, hi, hclear⟩
    · exact ⟨0, rfl, fun j hj => absurd hj (Nat.not_lt_zero j)⟩
    · refine ⟨i + 1, by simpa using hi, fun j hj p' hp' => ?_⟩
      cases j with
      | zero =>
          simp only [List.getElem?_cons_zero, Option.some.injEq] at hp'
          exact hp' ▸ hp
      | succ j => exact hclear j (Nat.lt_of_succ_lt_succ hj) p' (by simpa using hp')

/-! ### One beam -/

section Beam

open Casting

variable {group : Group} {d side : Direction} {c : Casting} {p q : Pos} {width height : Nat}

/-- The beam in a cell that another group has claimed. -/
def absorb (d : Direction) (c : Casting) (p : Pos) : Casting :=
  { c with beams := c.beams.modify p (·.union (.side d.reversed)) }

/-- The beam in a cell that it passes through. -/
def passThrough (group : Group) (d : Direction) (c : Casting) (p : Pos) : Casting :=
  { beams := c.beams.modify p (·.union ((Beams.side d.reversed).union (.side d)))
    owner := c.owner.set p (some group) }

/-- A beam goes on along its ray unless the next cell is claimed by another
group. -/
theorem castAlong_cons (group : Group) (d : Direction) (hsized : c.Sized width height)
    (hrow : p.row < height) (hcol : p.col < width) (rest : List Pos) :
    (c.Foreign group p ∧ castAlong group d (p :: rest) c = absorb d c p) ∨
      (¬ c.Foreign group p ∧
        castAlong group d (p :: rest) c = castAlong group d rest (passThrough group d c p)) := by
  have hcontains : c.owner.contains p = true := by
    simp [Grid.contains, hsized.owner_width, hsized.owner_height, hrow, hcol]
  obtain ⟨claim, hclaim⟩ := Grid.contains_iff.1 hcontains
  rw [castAlong, hclaim]
  cases claim with
  | none =>
      refine .inr ⟨?_, rfl⟩
      intro h
      rcases h with ⟨other, _, howned⟩
      rw [Owned, hclaim] at howned
      cases howned
  | some other =>
      by_cases hother : other = group
      · subst hother
        refine .inr ⟨?_, by simp [passThrough]⟩
        intro h
        rcases h with ⟨other', hne, howned⟩
        rw [Owned, hclaim] at howned
        cases howned
        exact hne rfl
      · exact .inl ⟨⟨other, hother, hclaim⟩, by simp [hother, absorb]⟩

/-- Marking a cell is seen in that cell only. -/
theorem lit_mark {c' : Casting} {extra : Beams}
    (hbeams : c'.beams = c.beams.modify p (·.union extra)) (hp : c.beams.contains p = true) :
    c'.Lit q side ↔ c.Lit q side ∨ (q = p ∧ extra.has side = true) := by
  rw [Lit, Lit, hbeams, Grid.get?_modify]
  by_cases hq : q = p
  · subst hq
    obtain ⟨b, hb⟩ := Grid.contains_iff.1 hp
    simp [hb]
  · simp [hq]

theorem lit_absorb (hp : c.beams.contains p = true) :
    (absorb d c p).Lit q side ↔ c.Lit q side ∨ (q = p ∧ side = d.reversed) := by
  rw [lit_mark rfl hp, Beams.has_side, decide_eq_true_eq, eq_comm (a := d.reversed)]

theorem lit_passThrough (hp : c.beams.contains p = true) :
    (passThrough group d c p).Lit q side ↔
      c.Lit q side ∨ (q = p ∧ (side = d.reversed ∨ side = d)) := by
  rw [lit_mark rfl hp, Beams.has_union, Beams.has_side, Beams.has_side, Bool.or_eq_true,
    decide_eq_true_eq, decide_eq_true_eq, eq_comm (a := d.reversed), eq_comm (a := d)]

theorem owned_passThrough (hp : c.owner.contains p = true) {other : Group} :
    (passThrough group d c p).Owned q other ↔
      if q = p then other = group else c.Owned q other := by
  rw [Owned, Owned, passThrough, Grid.get?_set]
  by_cases hq : q = p
  · simp [hq, hp, eq_comm]
  · simp [hq]

theorem sized_absorb (hsized : c.Sized width height) : (absorb d c p).Sized width height := by
  obtain ⟨h₁, h₂, h₃, h₄⟩ := hsized
  exact ⟨by simpa [absorb] using h₁, by simpa [absorb] using h₂, h₃, h₄⟩

theorem sized_passThrough (hsized : c.Sized width height) :
    (passThrough group d c p).Sized width height := by
  obtain ⟨h₁, h₂, h₃, h₄⟩ := hsized
  exact ⟨by simpa [passThrough] using h₁, by simpa [passThrough] using h₂,
    by simpa [passThrough] using h₃, by simpa [passThrough] using h₄⟩

/-- Claiming a cell that no other group has claimed leaves all other claims as
they were. -/
theorem foreign_passThrough (hp : c.owner.contains p = true) (hfree : ¬ c.Foreign group p) :
    (passThrough group d c p).Foreign group = c.Foreign group := by
  funext q
  apply propext
  constructor
  · intro h
    rcases h with ⟨other, hne, howned⟩
    rw [owned_passThrough hp] at howned
    split at howned
    · exact absurd howned hne
    · exact ⟨other, hne, howned⟩
  · intro h
    rcases h with ⟨other, hne, howned⟩
    refine ⟨other, hne, ?_⟩
    rw [owned_passThrough hp, if_neg]
    · exact howned
    · rintro rfl
      exact hfree ⟨other, hne, howned⟩

/-- What a beam does to a field under construction: it touches the near side of
every cell that it meets, and it leaves by the far side and claims the cell
unless the cell is claimed by another group. -/
structure BeamEffect (group : Group) (d : Direction) (met : Pos → Prop) (c c' : Casting) :
    Prop where
  lit : ∀ q side, c'.Lit q side ↔
    c.Lit q side ∨ (met q ∧ (side = d.reversed ∨ (side = d ∧ ¬ c.Foreign group q)))
  owned : ∀ q other, c'.Owned q other ↔
    c.Owned q other ∨ (other = group ∧ met q ∧ ¬ c.Foreign group q)

/-- A beam that ends in its first cell. -/
theorem BeamEffect.absorb (hbeams : c.beams.contains p = true) (hforeign : c.Foreign group p)
    (rest : List Pos) :
    BeamEffect group d (Meets (c.Foreign group) (p :: rest)) c (absorb d c p) where
  lit q side := by
    rw [lit_absorb hbeams, meets_cons]
    constructor
    · intro h
      rcases h with h | ⟨rfl, h⟩
      · exact .inl h
      · exact .inr ⟨.inl rfl, .inl h⟩
    · intro h
      rcases h with h | ⟨rfl | ⟨hfree, _⟩, h | ⟨_, hfree'⟩⟩
      · exact .inl h
      · exact .inr ⟨rfl, h⟩
      · exact absurd hforeign hfree'
      · exact absurd hforeign hfree
      · exact absurd hforeign hfree
  owned q other := by
    rw [meets_cons]
    constructor
    · exact .inl
    · intro h
      rcases h with h | ⟨_, rfl | ⟨hfree, _⟩, hfree'⟩
      · exact h
      · exact absurd hforeign hfree'
      · exact absurd hforeign hfree

/-- A beam that passes through its first cell and goes on. -/
theorem BeamEffect.passThrough (hbeams : c.beams.contains p = true)
    (howner : c.owner.contains p = true) (hfree : ¬ c.Foreign group p) {rest : List Pos}
    {c' : Casting}
    (h : BeamEffect group d (Meets (c.Foreign group) rest) (passThrough group d c p) c') :
    BeamEffect group d (Meets (c.Foreign group) (p :: rest)) c c' where
  lit q side := by
    rw [h.lit, lit_passThrough hbeams, foreign_passThrough howner hfree, meets_cons]
    by_cases hq : q = p
    · subst hq
      simp only [true_and, true_or, hfree, not_false_eq_true, and_true]
      constructor
      · intro h
        rcases h with h | ⟨_, h⟩
        · exact h
        · exact .inr h
      · exact .inl
    · simp only [hq, false_and, or_false, false_or, hfree, not_false_eq_true, true_and]
  owned q other := by
    rw [h.owned, owned_passThrough howner, foreign_passThrough howner hfree, meets_cons]
    by_cases hq : q = p
    · subst hq
      simp only [if_true, true_or, hfree, not_false_eq_true, and_true]
      constructor
      · intro h
        rcases h with rfl | ⟨rfl, _⟩
        · exact .inr rfl
        · exact .inr rfl
      · intro h
        rcases h with h | rfl
        · -- Nobody else owns the cell, so its owner is this group.
          exact .inl (Classical.byContradiction fun hne => hfree ⟨other, hne, h⟩)
        · exact .inl rfl
    · rw [if_neg hq]
      simp only [hq, false_or, hfree, not_false_eq_true, true_and]

theorem castAlong_effect (group : Group) (d : Direction) (hsized : c.Sized width height)
    (cells : List Pos) (hcells : ∀ p ∈ cells, p.row < height ∧ p.col < width) :
    BeamEffect group d (Meets (c.Foreign group) cells) c (castAlong group d cells c) ∧
      (castAlong group d cells c).Sized width height := by
  induction cells generalizing c with
  | nil =>
      refine ⟨⟨fun q side => ?_, fun q other => ?_⟩, hsized⟩
      · simp [castAlong, not_meets_nil]
      · simp [castAlong, not_meets_nil]
  | cons p rest ih =>
      obtain ⟨hrow, hcol⟩ := hcells p (by simp)
      have hbeams : c.beams.contains p = true := by
        simp [Grid.contains, hsized.beams_width, hsized.beams_height, hrow, hcol]
      have howner : c.owner.contains p = true := by
        simp [Grid.contains, hsized.owner_width, hsized.owner_height, hrow, hcol]
      rcases castAlong_cons group d hsized hrow hcol rest with ⟨hforeign, heq⟩ | ⟨hfree, heq⟩
      · rw [heq]
        exact ⟨.absorb hbeams hforeign rest, sized_absorb hsized⟩
      · obtain ⟨heffect, hsized'⟩ := ih (sized_passThrough hsized)
          (fun p' hp' => hcells p' (by simp [hp']))
        rw [foreign_passThrough howner hfree] at heffect
        rw [heq]
        exact ⟨heffect.passThrough hbeams howner hfree, hsized'⟩

end Beam

/-! ### All beams of a group -/

/-- Cast the beams of a group from the cells of a list, in the order of the
list. -/
def castFrom (group : Group) (c : Casting) (entries : List (Pos × CellKind)) : Casting :=
  entries.foldl
    (fun c entry => (directions group entry.2).foldl (fun c d => cast group c entry.1 d) c) c

section Beams

open Casting

variable {group : Group} {c c' c'' : Casting} {width height : Nat}
  {met met' : Pos → Direction → Prop}

/-- What several beams of a group do to a field under construction, `met` being
the cells that they meet and the directions in which they do. -/
structure CastEffect (group : Group) (met : Pos → Direction → Prop) (c c' : Casting) : Prop where
  lit : ∀ q side, c'.Lit q side ↔
    c.Lit q side ∨ ∃ d, met q d ∧ (side = d.reversed ∨ (side = d ∧ ¬ c.Foreign group q))
  owned : ∀ q other, c'.Owned q other ↔
    c.Owned q other ∨ (other = group ∧ (∃ d, met q d) ∧ ¬ c.Foreign group q)

/-- The claims of other groups outlast the beams of a group. -/
theorem CastEffect.foreign (h : CastEffect group met c c') :
    c'.Foreign group = c.Foreign group := by
  funext q
  apply propext
  constructor
  · intro h
    rcases h with ⟨other, hne, howned⟩
    rcases (h.owned q other).1 howned with howned | ⟨heq, _⟩
    · exact ⟨other, hne, howned⟩
    · exact absurd heq hne
  · intro h
    rcases h with ⟨other, hne, howned⟩
    exact ⟨other, hne, (h.owned q other).2 (.inl howned)⟩

theorem CastEffect.none : CastEffect group (fun _ _ => False) c c :=
  ⟨fun q side => by simp, fun q other => by simp⟩

/-- Beams of one group add up, whatever their order. -/
theorem CastEffect.trans (h : CastEffect group met c c') (h' : CastEffect group met' c' c'') :
    CastEffect group (fun q d => met q d ∨ met' q d) c c'' := by
  refine ⟨fun q side => ?_, fun q other => ?_⟩
  · rw [h'.lit, h.lit, h.foreign, or_assoc, ← exists_or]
    simp only [or_and_right]
  · rw [h'.owned, h.owned, h.foreign, or_assoc, exists_or, ← and_or_left, or_and_right]

/-- The cells met may be described in any way. -/
theorem CastEffect.congr (h : CastEffect group met c c') (hmet : ∀ q d, met q d ↔ met' q d) :
    CastEffect group met' c c' := by
  have heq : met = met' := by
    funext q d
    exact propext (hmet q d)
  rwa [heq] at h

theorem cast_effect (group : Group) (hsized : c.Sized width height) {s : Pos}
    (hrow : s.row < height) (hcol : s.col < width) (d : Direction) :
    CastEffect group (fun q e => e = d ∧ Meets (c.Foreign group) (ray width height s d) q) c
        (cast group c s d) ∧
      (cast group c s d).Sized width height := by
  have hcells : ∀ p ∈ ray width height s d, p.row < height ∧ p.col < width := by
    intro p hp
    obtain ⟨i, hi⟩ := List.getElem?_of_mem hp
    exact ((getElem?_ray hrow hcol d i).1 hi).2
  obtain ⟨⟨hlit, howned⟩, hsized'⟩ := castAlong_effect group d hsized _ hcells
  rw [cast, hsized.beams_width, hsized.beams_height]
  refine ⟨⟨fun q side => ?_, fun q other => ?_⟩, hsized'⟩
  · rw [hlit]
    simp only [and_assoc, exists_eq_left]
  · rw [howned]
    simp only [exists_eq_left]

theorem cast_directions_effect (group : Group) (hsized : c.Sized width height) {s : Pos}
    (hrow : s.row < height) (hcol : s.col < width) (ds : List Direction) :
    CastEffect group (fun q d => d ∈ ds ∧ Meets (c.Foreign group) (ray width height s d) q) c
        (ds.foldl (fun c d => cast group c s d) c) ∧
      (ds.foldl (fun c d => cast group c s d) c).Sized width height := by
  induction ds generalizing c with
  | nil => exact ⟨CastEffect.none.congr (by simp), hsized⟩
  | cons d rest ih =>
      obtain ⟨hfirst, hsized'⟩ := cast_effect group hsized hrow hcol d
      obtain ⟨hrest, hsized''⟩ := ih hsized'
      rw [hfirst.foreign] at hrest
      refine ⟨(hfirst.trans hrest).congr fun q e => ?_, hsized''⟩
      rw [List.mem_cons, or_and_right]
      constructor
      · intro h
        rcases h with ⟨rfl, h⟩ | h
        · exact .inl ⟨rfl, h⟩
        · exact .inr h
      · intro h
        rcases h with ⟨rfl, h⟩ | h
        · exact .inl ⟨rfl, h⟩
        · exact .inr h

/-- The beams of a group meet the cells of all rays from its sources, each ray
up to the first cell that another group has claimed. -/
theorem castFrom_effect (group : Group) (hsized : c.Sized width height)
    (entries : List (Pos × CellKind))
    (hentries : ∀ entry ∈ entries, entry.1.row < height ∧ entry.1.col < width) :
    CastEffect group
        (fun q d => ∃ entry ∈ entries, d ∈ directions group entry.2 ∧
          Meets (c.Foreign group) (ray width height entry.1 d) q)
        c (castFrom group c entries) ∧
      (castFrom group c entries).Sized width height := by
  induction entries generalizing c with
  | nil => exact ⟨CastEffect.none.congr (by simp), hsized⟩
  | cons entry rest ih =>
      obtain ⟨hrow, hcol⟩ := hentries entry (by simp)
      obtain ⟨hfirst, hsized'⟩ := cast_directions_effect group hsized hrow hcol
        (directions group entry.2)
      obtain ⟨hrest, hsized''⟩ := ih hsized' (fun e he => hentries e (by simp [he]))
      rw [hfirst.foreign] at hrest
      refine ⟨(hfirst.trans hrest).congr fun q d => ?_, hsized''⟩
      simp only [List.mem_cons, exists_eq_or_imp]

end Beams

end Beamwalk.Field
