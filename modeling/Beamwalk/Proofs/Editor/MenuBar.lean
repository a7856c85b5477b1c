/-
Module: Beamwalk.Proofs.Editor.MenuBar
Purpose: How the items of the menu are placed, and when they stay in the menu bar.
Main exports: Editor.Lead, Editor.Placed, Editor.placed_drawMenuItems, Editor.Placed.holds,
  Editor.Placed.stop_le, Editor.encloses_drawMenu_iff, Editor.encloses_drawMenu
-/
import Beamwalk.Editor.Screen
import Beamwalk.Proofs.Editor.Layout
import Beamwalk.Proofs.Screen.MenuItem

namespace Beamwalk

namespace Editor

/-!
The columns of the menu are counted in sixteen bits.  An item that is drawn was found to
end inside the terminal, so a row can leave the terminal in one way only: by passing the
last column that can be counted.  Items that would fit one row of `2 ^ 16` columns
together never get there.
-/

/-- How the pen comes to the place of an item: the first item is behind the blank of its
row already, each other one comes behind two more blanks or in the next row. -/
inductive Lead (l : Layout) (row x : UInt16) : List DrawOp → (row' x' : UInt16) → Prop where
  | here : Lead l row x [] row x
  | behind : Lead l row x [.print "  "] row (x + 2)
  | below (hrow : row + 1 < l.menuHeight) : Lead l row x (menuRow (row + 1)) (row + 1) 1

/-- How items are placed from a column of a row on: as long as they end inside the
terminal.  The last row can be left without an item. -/
inductive Placed (l : Layout) : (row x : UInt16) → List String → List DrawOp → Prop where
  | done {row x : UInt16} {items : List String} : Placed l row x items []
  | left {row x : UInt16} {items : List String} (hrow : row + 1 < l.menuHeight) :
      Placed l row x items (menuRow (row + 1))
  | item {row x row' x' : UInt16} {item : String} {items : List String} {lead rest : List DrawOp}
      (hlead : Lead l row x lead row' x')
      (hfits : ¬ l.termWidth < x' + UInt16.ofNat item.length)
      (hrest : Placed l row' (x' + UInt16.ofNat item.length) items rest) :
      Placed l row x (item :: items) (lead ++ drawMenuItem item ++ rest)

theorem placed_drawMenuItems (l : Layout) (row x : UInt16) (first : Bool) (items : List String) :
    Placed l row x items (drawMenuItems l row x first items).1 := by
  induction items generalizing row x first with
  | nil => exact .done
  | cons item items ih =>
      simp only [drawMenuItems]
      by_cases hfirst : first = true
      · rw [if_pos hfirst]
        split
        · exact .done
        · next hfits => exact .item .here hfits (ih ..)
      · rw [if_neg hfirst]
        split
        · split
          · next hrow =>
              split
              · exact .left hrow
              · next hfits => exact .item (.below hrow) hfits (ih ..)
          · exact .done
        · next hfits => exact .item .behind hfits (ih ..)

section

variable {l : Layout} {row x row' x' : UInt16} {ops : List DrawOp} {items : List String}
  {pen : Pen}

/-- What starts a row of the menu is one blank. -/
theorem mem_strokes_menuRow {stroke : Stroke} (h : stroke ∈ pen.strokes (menuRow row)) :
    stroke.place.row = row.toNat ∧ stroke.stop = 1 := by
  rw [List.mem_singleton.1 h]
  exact ⟨rfl, congrArg (0 + ·) (rfl : " ".length = 1)⟩

theorem place_menuRow (pen : Pen) (row : UInt16) :
    (pen.run (menuRow row)).place = ⟨row.toNat, 1⟩ := rfl

theorem mem_strokes_blanks {stroke : Stroke} (h : stroke ∈ pen.strokes [.print "  "]) :
    stroke.place.row = pen.place.row ∧ stroke.stop = pen.place.col + 2 := by
  rw [List.mem_singleton.1 h]
  exact ⟨rfl, congrArg (pen.place.col + ·) (rfl : "  ".length = 2)⟩

theorem holds_menuRegion_iff {stroke : Stroke} : l.menuRegion.Holds stroke ↔
    stroke.place.row < l.menuHeight.toNat ∧ stroke.stop ≤ l.termWidth.toNat := by
  simp [Region.Holds, Layout.menuRegion]

theorem holds_menuRow (hwidth : 1 ≤ l.termWidth.toNat) (hrow : row < l.menuHeight) :
    ∀ stroke ∈ pen.strokes (menuRow row), l.menuRegion.Holds stroke := by
  intro stroke hstroke
  obtain ⟨hplace, hstop⟩ := mem_strokes_menuRow hstroke
  rw [holds_menuRegion_iff, hplace, hstop]
  exact ⟨UInt16.lt_iff_toNat_lt.1 hrow, hwidth⟩

/-- The pen is where the item is to be drawn, in a row of the menu. -/
structure At (l : Layout) (pen : Pen) (row x : UInt16) : Prop where
  place : pen.place = ⟨row.toNat, x.toNat⟩
  row_lt : row < l.menuHeight

/-- If the blanks before an item can be counted, they lead to its place. -/
theorem Lead.spec (hlead : Lead l row x ops row' x') (hat : At l pen row x)
    (hwidth : 1 ≤ l.termWidth.toNat) (hcounted : ∀ stroke ∈ pen.strokes ops, stroke.stop < 2 ^ 16) :
    At l (pen.run ops) row' x' ∧
      (x'.toNat ≤ l.termWidth.toNat → ∀ stroke ∈ pen.strokes ops, l.menuRegion.Holds stroke) := by
  cases hlead with
  | here => exact ⟨hat, fun _ stroke hstroke => absurd hstroke List.not_mem_nil⟩
  | behind =>
      have hx : (x + 2).toNat = x.toNat + 2 := by
        have hstop := hcounted _ List.mem_cons_self
        rw [(mem_strokes_blanks List.mem_cons_self).2, hat.place] at hstop
        exact toNat_add_ofNat 2 rfl hstop
      refine ⟨⟨?_, hat.row_lt⟩, fun hfits stroke hstroke => ?_⟩
      · have hplace : (pen.run [.print "  "]).place = ⟨pen.place.row, pen.place.col + 2⟩ := rfl
        rw [hplace, hat.place, hx]
      · obtain ⟨hrow, hstop⟩ := mem_strokes_blanks hstroke
        rw [holds_menuRegion_iff, hrow, hstop, hat.place, ← hx]
        exact ⟨UInt16.lt_iff_toNat_lt.1 hat.row_lt, hfits⟩
  | below hrow => exact ⟨⟨place_menuRow .., hrow⟩, fun _ => holds_menuRow hwidth hrow⟩

/-- As long as its columns can be counted, an item that is drawn ends inside the terminal. -/
theorem Placed.holds (hplaced : Placed l row x items ops) (hat : At l pen row x)
    (hwidth : 1 ≤ l.termWidth.toNat) (hcounted : ∀ stroke ∈ pen.strokes ops, stroke.stop < 2 ^ 16) :
    ∀ stroke ∈ pen.strokes ops, l.menuRegion.Holds stroke := by
  induction hplaced generalizing pen with
  | done => exact fun stroke hstroke => absurd hstroke List.not_mem_nil
  | left hrow => exact holds_menuRow hwidth hrow
  | @item row x row' x' item items lead rest hlead hfits _ ih =>
      simp only [Pen.strokes_append, Pen.run_append, List.mem_append] at hcounted ⊢
      obtain ⟨hbefore, hheld⟩ := hlead.spec hat hwidth fun stroke h =>
        hcounted stroke (.inl (.inl h))
      -- The end of the item is in a column that can be counted, so its test was no accident.
      have hend : x'.toNat + item.length < 2 ^ 16 := by
        have hstop := (pen.run lead).stop_le_of_strokes (2 ^ 16 - 1) (stays_drawMenuItem item)
          (by rw [hbefore.place]; exact Nat.le_of_lt_succ x'.toNat_lt)
          fun stroke h => Nat.le_of_lt_succ (hcounted stroke (.inl (.inr h)))
        rw [hbefore.place, typed_drawMenuItem, String.length_toList] at hstop
        exact Nat.lt_succ_of_le hstop
      have hcolumn : (x' + UInt16.ofNat item.length).toNat = x'.toNat + item.length :=
        toNat_add_ofNat _ rfl hend
      have hinside : x'.toNat + item.length ≤ l.termWidth.toNat := by
        rw [UInt16.lt_iff_toNat_lt, hcolumn] at hfits
        exact Nat.le_of_not_lt hfits
      have hafter : At l ((pen.run lead).run (drawMenuItem item)) row'
          (x' + UInt16.ofNat item.length) := by
        refine ⟨?_, hbefore.row_lt⟩
        rw [place_drawMenuItem, hbefore.place, hcolumn]
      rintro stroke ((hstroke | hstroke) | hstroke)
      · exact hheld (Nat.le_trans (Nat.le_add_right ..) hinside) stroke hstroke
      · obtain ⟨hrow, hstop⟩ := strokes_drawMenuItem hstroke
        rw [hbefore.place] at hstop
        rw [holds_menuRegion_iff, hrow, hbefore.place]
        exact ⟨UInt16.lt_iff_toNat_lt.1 hbefore.row_lt, Nat.le_trans hstop hinside⟩
      · exact ih hafter (fun stroke h => hcounted stroke (.inr h)) stroke hstroke

/-- The columns that items take in one row, each behind two blanks. -/
def breadth (items : List String) : Nat := (items.map fun item => item.length + 2).sum

theorem Lead.stop_le (hlead : Lead l row x ops row' x') (hcol : 1 ≤ pen.place.col) :
    1 ≤ (pen.run ops).place.col ∧ (pen.run ops).place.col ≤ pen.place.col + 2 ∧
      ∀ stroke ∈ pen.strokes ops, stroke.stop ≤ pen.place.col + 2 := by
  cases hlead with
  | here => exact ⟨hcol, Nat.le_add_right .., fun stroke h => absurd h List.not_mem_nil⟩
  | behind =>
      exact ⟨Nat.le_trans hcol (Nat.le_add_right ..), Nat.le_refl _,
        fun stroke hstroke => Nat.le_of_eq (mem_strokes_blanks hstroke).2⟩
  | below _ =>
      refine ⟨Nat.le_refl 1, Nat.le_trans hcol (Nat.le_add_right ..), fun stroke hstroke => ?_⟩
      rw [(mem_strokes_menuRow hstroke).2]
      exact Nat.le_trans hcol (Nat.le_add_right ..)

/-- Turning to the next row only helps. -/
theorem Placed.stop_le (hplaced : Placed l row x items ops) (hcol : 1 ≤ pen.place.col) :
    ∀ stroke ∈ pen.strokes ops, stroke.stop ≤ pen.place.col + breadth items := by
  induction hplaced generalizing pen with
  | done => exact fun stroke hstroke => absurd hstroke List.not_mem_nil
  | left _ =>
      intro stroke hstroke
      rw [(mem_strokes_menuRow hstroke).2]
      exact Nat.le_trans hcol (Nat.le_add_right ..)
  | @item row x row' x' item items lead rest hlead _ _ ih =>
      simp only [Pen.strokes_append, Pen.run_append, List.mem_append]
      obtain ⟨hfirst, hlast, hblanks⟩ := hlead.stop_le hcol
      have hend : ((pen.run lead).run (drawMenuItem item)).place.col =
          (pen.run lead).place.col + item.length := by rw [place_drawMenuItem]
      have hbreadth : breadth (item :: items) = item.length + 2 + breadth items := rfl
      rintro stroke ((hstroke | hstroke) | hstroke)
      · have hstop := hblanks stroke hstroke
        omega
      · obtain ⟨-, hstop⟩ := strokes_drawMenuItem hstroke
        omega
      · have hstop := ih (by omega) stroke hstroke
        omega

end

/-! ### The menu bar -/

variable {l : Layout} {s : EditorState}

/-- The rows that are left over are only cleared. -/
theorem strokes_clearRows (pen : Pen) (rows : List UInt16) :
    pen.strokes (rows.flatMap fun row => [.moveTo 0 row, .clearLine]) = [] := by
  induction rows generalizing pen with
  | nil => rfl
  | cons row rest ih => exact ih _

theorem mem_strokes_drawMenu {pen : Pen} {stroke : Stroke} :
    stroke ∈ pen.strokes (drawMenu l s) ↔
      stroke ∈ pen.strokes (menuRow 0) ∨
        stroke ∈ (pen.run (menuRow 0)).strokes
          (drawMenuItems l 0 1 true (menuItems s.config.keys s.mode)).1 := by
  rw [drawMenu, Pen.strokes_append, Pen.strokes_append, strokes_clearRows, List.append_nil,
    List.mem_append]

/-- The menu leaves the menu bar only by passing the last column that can be counted. -/
theorem encloses_drawMenu_iff (hwidth : 1 ≤ l.termWidth.toNat) (hheight : 0 < l.menuHeight) :
    l.menuRegion.Encloses (drawMenu l s) ↔
      ∀ pen : Pen, ∀ stroke ∈ pen.strokes (drawMenu l s), stroke.stop < 2 ^ 16 := by
  constructor
  · intro hencloses pen stroke hstroke
    obtain ⟨-, -, hstop⟩ := hencloses pen stroke hstroke
    exact Nat.lt_of_le_of_lt hstop (by simpa [Layout.menuRegion] using l.termWidth.toNat_lt)
  · intro hcounted pen stroke hstroke
    rcases mem_strokes_drawMenu.1 hstroke with hfirst | hitems
    · exact holds_menuRow hwidth hheight stroke hfirst
    · exact (placed_drawMenuItems ..).holds ⟨place_menuRow .., hheight⟩ hwidth
        (fun stroke h => hcounted pen stroke (mem_strokes_drawMenu.2 (.inr h))) stroke hitems

/-- Items that can be counted in one row stay in the menu bar. -/
theorem encloses_drawMenu (hwidth : 1 ≤ l.termWidth.toNat) (hheight : 0 < l.menuHeight)
    (hbreadth : 1 + breadth (menuItems s.config.keys s.mode) < 2 ^ 16) :
    l.menuRegion.Encloses (drawMenu l s) := by
  rw [encloses_drawMenu_iff hwidth hheight]
  intro pen stroke hstroke
  rcases mem_strokes_drawMenu.1 hstroke with hfirst | hitems
  · rw [(mem_strokes_menuRow hfirst).2]
    exact Nat.lt_of_le_of_lt (Nat.le_add_right 1 _) hbreadth
  · have hcol : 1 ≤ (pen.run (menuRow 0)).place.col := Nat.le_refl 1
    have hstop := (placed_drawMenuItems ..).stop_le hcol stroke hitems
    exact Nat.lt_of_le_of_lt hstop hbreadth

end Editor

end Beamwalk
