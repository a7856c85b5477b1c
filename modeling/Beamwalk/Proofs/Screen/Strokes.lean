/-
Module: Beamwalk.Proofs.Screen.Strokes
Purpose: What instructions write on a screen, and where it stands.
Main exports: Pen, Stroke, Pen.strokes, DrawOp.typed, Region, Region.Encloses,
  Pen.strokes_append, Pen.text_strokes, Pen.place_run, Pen.strokes_bounds, Region.encloses_line
-/
import Beamwalk.Screen.Op

namespace Beamwalk

/-!
A terminal is driven like a pen.  Instructions move it, change how it writes or let it
write, and what it writes stays where the pen was.  Each character takes one column, and
the pen does not turn to the next row by itself: a text that is too long for its row can be
told by the column where it ends.
-/

/-- The pen of a terminal. -/
structure Pen where
  /-- Where the next character goes. -/
  place : Pos
  bold : Bool
  dim : Bool
deriving Repr, Inhabited, DecidableEq

/-- A text on the screen. -/
structure Stroke where
  /-- Where its first character is. -/
  place : Pos
  text : String
  bold : Bool
  dim : Bool
deriving Repr, Inhabited, DecidableEq

/-- The column behind the last character of a stroke. -/
def Stroke.stop (s : Stroke) : Nat := s.place.col + s.text.length

namespace DrawOp

/-- The characters that an instruction writes. -/
def text : DrawOp → String
  | .print text | .styled _ text => text
  | .moveTo _ _ | .clearAll | .clearLine | .bold | .dim | .reverse | .plain | .enterScreen
  | .leaveScreen | .hideCursor | .showCursor | .fullscreen _ => ""

/-- All characters that several instructions write, in order. -/
def typed (ops : List DrawOp) : List Char := ops.flatMap fun op => op.text.toList

/-- The instruction leaves the pen in its row, no further to the left. -/
def stays : DrawOp → Bool
  | .moveTo _ _ => false
  | .print _ | .styled _ _ | .clearAll | .clearLine | .bold | .dim | .reverse | .plain
  | .enterScreen | .leaveScreen | .hideCursor | .showCursor | .fullscreen _ => true

@[simp] theorem typed_nil : typed [] = [] := rfl

@[simp] theorem typed_cons (op : DrawOp) (ops : List DrawOp) :
    typed (op :: ops) = op.text.toList ++ typed ops := rfl

@[simp] theorem typed_append (ops ops' : List DrawOp) :
    typed (ops ++ ops') = typed ops ++ typed ops' := List.flatMap_append ..

end DrawOp

namespace Pen

/-- A pen that writes plainly. -/
def plainAt (place : Pos) : Pen := ⟨place, false, false⟩

/-- Where a pen goes when it writes. -/
def past (pen : Pen) (text : String) : Pos := ⟨pen.place.row, pen.place.col + text.length⟩

/-- The pen after an instruction. -/
def after (pen : Pen) : DrawOp → Pen
  | .moveTo column row => { pen with place := ⟨row.toNat, column.toNat⟩ }
  | .print text => { pen with place := pen.past text }
  | .styled _ text => plainAt (pen.past text)
  | .bold => { pen with bold := true }
  | .dim => { pen with dim := true }
  | .plain => plainAt pen.place
  | .clearAll | .clearLine | .reverse | .enterScreen | .leaveScreen | .hideCursor | .showCursor
  | .fullscreen _ => pen

/-- The pen after several instructions. -/
def run (pen : Pen) (ops : List DrawOp) : Pen := ops.foldl after pen

/-- What an instruction writes. -/
def stroke? (pen : Pen) : DrawOp → Option Stroke
  | .print text => some ⟨pen.place, text, pen.bold, pen.dim⟩
  | .styled style text => some ⟨pen.place, text, pen.bold || style.bold, pen.dim || style.dim⟩
  | .moveTo _ _ | .clearAll | .clearLine | .bold | .dim | .reverse | .plain | .enterScreen
  | .leaveScreen | .hideCursor | .showCursor | .fullscreen _ => none

/-- What several instructions write, in order. -/
def strokes (pen : Pen) : List DrawOp → List Stroke
  | [] => []
  | op :: ops => (pen.stroke? op).toList ++ (pen.after op).strokes ops

variable {pen : Pen} {op : DrawOp} {ops ops' : List DrawOp}

@[simp] theorem strokes_nil (pen : Pen) : pen.strokes [] = [] := rfl

theorem strokes_append (pen : Pen) (ops ops' : List DrawOp) :
    pen.strokes (ops ++ ops') = pen.strokes ops ++ (pen.run ops).strokes ops' := by
  induction ops generalizing pen with
  | nil => rfl
  | cons op rest ih =>
      rw [List.cons_append, strokes, strokes, ih, List.append_assoc]
      rfl

theorem run_append (pen : Pen) (ops ops' : List DrawOp) :
    pen.run (ops ++ ops') = (pen.run ops).run ops' := List.foldl_append

/-- Nothing is written but by strokes. -/
theorem text_strokes (pen : Pen) (ops : List DrawOp) :
    (pen.strokes ops).flatMap (fun stroke => stroke.text.toList) = DrawOp.typed ops := by
  induction ops generalizing pen with
  | nil => rfl
  | cons op rest ih =>
      rw [strokes, List.flatMap_append, ih, DrawOp.typed_cons]
      congr 1
      cases op with
      | print text => exact List.append_nil _
      | styled _ text => exact List.append_nil _
      | _ => rfl

/-! ### Writing in one row -/

theorem place_after (pen : Pen) (h : op.stays = true) :
    (pen.after op).place = ⟨pen.place.row, pen.place.col + op.text.toList.length⟩ := by
  cases op with
  | moveTo _ _ => cases h
  | print text => rw [String.length_toList]; rfl
  | styled _ text => rw [String.length_toList]; rfl
  | _ => rfl

/-- As long as it stays in its row, a pen goes on by one column for each character. -/
theorem place_run (pen : Pen) (h : ∀ op ∈ ops, op.stays = true) :
    (pen.run ops).place = ⟨pen.place.row, pen.place.col + (DrawOp.typed ops).length⟩ := by
  induction ops generalizing pen with
  | nil => rfl
  | cons op rest ih =>
      have hop := place_after pen (h op List.mem_cons_self)
      have hrest := ih (pen.after op) fun op hop => h op (List.mem_cons_of_mem _ hop)
      rw [hop] at hrest
      rw [DrawOp.typed_cons, List.length_append, ← Nat.add_assoc]
      exact hrest

theorem stroke?_eq_some {stroke : Stroke} (h : pen.stroke? op = some stroke) :
    stroke.place = pen.place ∧ stroke.text = op.text := by
  cases op with
  | print _ => cases h; exact ⟨rfl, rfl⟩
  | styled _ _ => cases h; exact ⟨rfl, rfl⟩
  | _ => cases h

/-- As long as it stays in its row, a pen writes between the columns where it starts and
where it ends. -/
theorem strokes_bounds (pen : Pen) (h : ∀ op ∈ ops, op.stays = true) :
    ∀ stroke ∈ pen.strokes ops, stroke.place.row = pen.place.row ∧
      pen.place.col ≤ stroke.place.col ∧
      stroke.stop ≤ pen.place.col + (DrawOp.typed ops).length := by
  induction ops generalizing pen with
  | nil => exact fun stroke hstroke => absurd hstroke List.not_mem_nil
  | cons op rest ih =>
      intro stroke hstroke
      rw [DrawOp.typed_cons, List.length_append]
      rcases List.mem_append.1 hstroke with hfirst | hlater
      · obtain ⟨hplace, htext⟩ := stroke?_eq_some (Option.mem_toList.1 hfirst)
        rw [Stroke.stop, hplace, htext, ← String.length_toList]
        exact ⟨rfl, Nat.le_refl _, by omega⟩
      · have hbounds := ih (pen.after op) (fun op hop => h op (List.mem_cons_of_mem _ hop))
          stroke hlater
        rw [place_after pen (h op List.mem_cons_self)] at hbounds
        dsimp only at hbounds
        obtain ⟨hrow, hcol, hstop⟩ := hbounds
        exact ⟨hrow, by omega, by omega⟩

/-- A limit that no stroke crosses is not crossed by the pen either. -/
theorem stop_le_of_strokes (pen : Pen) (limit : Nat) (h : ∀ op ∈ ops, op.stays = true)
    (hstart : pen.place.col ≤ limit) (hstrokes : ∀ stroke ∈ pen.strokes ops, stroke.stop ≤ limit) :
    pen.place.col + (DrawOp.typed ops).length ≤ limit := by
  induction ops generalizing pen with
  | nil => exact hstart
  | cons op rest ih =>
      have hplace := place_after pen (h op List.mem_cons_self)
      have hnext : (pen.after op).place.col ≤ limit := by
        rw [hplace]
        cases hstroke : pen.stroke? op with
        | none =>
            have hempty : op.text = "" := by
              cases op with
              | print _ => cases hstroke
              | styled _ _ => cases hstroke
              | _ => rfl
            rw [hempty]
            exact hstart
        | some stroke =>
            obtain ⟨hstrokePlace, htext⟩ := stroke?_eq_some hstroke
            have hstop := hstrokes stroke (List.mem_append_left _ (Option.mem_toList.2 hstroke))
            rwa [Stroke.stop, hstrokePlace, htext, ← String.length_toList] at hstop
      have hrest := ih (pen.after op) (fun op hop => h op (List.mem_cons_of_mem _ hop)) hnext
        fun stroke hstroke => hstrokes stroke (List.mem_append_right _ hstroke)
      rw [hplace] at hrest
      dsimp only at hrest
      rw [DrawOp.typed_cons, List.length_append]
      omega

end Pen

/-- A part of the screen. -/
structure Region where
  top : Nat
  left : Nat
  height : Nat
  width : Nat
deriving Repr, Inhabited, DecidableEq

namespace Region

/-- The stroke is inside the region. -/
def Holds (r : Region) (s : Stroke) : Prop :=
  (r.top ≤ s.place.row ∧ s.place.row < r.top + r.height) ∧
    r.left ≤ s.place.col ∧ s.stop ≤ r.left + r.width

instance (r : Region) (s : Stroke) : Decidable (r.Holds s) :=
  inferInstanceAs (Decidable ((_ ∧ _) ∧ _ ∧ _))

/-- Whatever pen they are given, the instructions write inside the region only. -/
def Encloses (r : Region) (ops : List DrawOp) : Prop :=
  ∀ pen : Pen, ∀ stroke ∈ pen.strokes ops, r.Holds stroke

variable {r : Region} {ops ops' : List DrawOp}

theorem encloses_nil (r : Region) : r.Encloses [] :=
  fun _ _ hstroke => absurd hstroke List.not_mem_nil

theorem Encloses.append (h : r.Encloses ops) (h' : r.Encloses ops') :
    r.Encloses (ops ++ ops') := by
  intro pen stroke hstroke
  rw [Pen.strokes_append] at hstroke
  rcases List.mem_append.1 hstroke with hfirst | hlater
  · exact h pen stroke hfirst
  · exact h' _ stroke hlater

theorem encloses_flatten {parts : List (List DrawOp)} (h : ∀ ops ∈ parts, r.Encloses ops) :
    r.Encloses parts.flatten := by
  induction parts with
  | nil => exact r.encloses_nil
  | cons ops rest ih =>
      rw [List.flatten_cons]
      exact (h ops List.mem_cons_self).append
        (ih fun ops hops => h ops (List.mem_cons_of_mem _ hops))

/-- A line of the screen that starts and ends inside a region. -/
theorem encloses_line {column row : UInt16} (hstays : ∀ op ∈ ops, op.stays = true)
    (hrow : r.top ≤ row.toNat ∧ row.toNat < r.top + r.height) (hleft : r.left ≤ column.toNat)
    (hright : column.toNat + (DrawOp.typed ops).length ≤ r.left + r.width) :
    r.Encloses (.moveTo column row :: ops) := by
  intro pen stroke hstroke
  obtain ⟨hstrokeRow, hcol, hstop⟩ :=
    Pen.strokes_bounds (pen.after (.moveTo column row)) hstays stroke hstroke
  rw [Holds, hstrokeRow]
  exact ⟨hrow, Nat.le_trans hleft hcol, Nat.le_trans hstop hright⟩

end Region

end Beamwalk
