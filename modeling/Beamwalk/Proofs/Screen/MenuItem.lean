/-
Module: Beamwalk.Proofs.Screen.MenuItem
Purpose: Menu items are drawn as they are written, with their keys in bold.
Main exports: Text.IsKey, Text.HoldsKey, MenuPiece.ofBytes?, MenuPiece.Cut,
  MenuPiece.cut_ofItem, typed_drawMenuItem, drawMenuItem_verbatim
-/
import Beamwalk.Proofs.Screen.Strokes
import Beamwalk.Proofs.Text.Slicing
import Beamwalk.Screen.MenuItem

namespace Beamwalk

/-!
A menu item is cut at its brackets.  It is told here in two ways that nothing is lost by
that: the pieces joined are the item, and a program that searches and cuts bytes finds the
same pieces without ever cutting inside a character.
-/

namespace Text

/-- The text runs from an opening bracket to the next closing one. -/
def IsKey (cs : List Char) : Prop := ∃ inside, cs = '[' :: inside ++ [']'] ∧ ']' ∉ inside

/-- There is a key somewhere in the text. -/
def HoldsKey (cs : List Char) : Prop := ∃ front key back, cs = front ++ key ++ back ∧ IsKey key

/-- A key starts with an opening bracket. -/
theorem not_holdsKey_of_notMem {cs : List Char} (h : '[' ∉ cs) : ¬ HoldsKey cs := by
  rintro ⟨front, key, back, rfl, inside, rfl, -⟩
  simp at h

/-- A key ends with a closing bracket behind the opening one. -/
theorem not_holdsKey_of_unclosed {front inside : List Char} (hfront : '[' ∉ front)
    (hinside : ']' ∉ inside) : ¬ HoldsKey (front ++ '[' :: inside) := by
  rintro ⟨before, key, behind, heq, body, rfl, -⟩
  have heq : front ++ '[' :: inside = before ++ '[' :: (body ++ ']' :: behind) := by
    rw [heq]
    simp
  rcases List.append_eq_append_iff.1 heq with ⟨between, rfl, htail⟩ | ⟨between, rfl, htail⟩
  · have hmem : ']' ∈ '[' :: inside := by
      rw [htail]
      simp
    exact hinside (List.mem_of_ne_of_mem (by decide) hmem)
  · cases between with
    | nil =>
        have hmem : ']' ∈ inside := by
          rw [← (List.cons.inj htail).2]
          simp
        exact hinside hmem
    | cons c between =>
        rw [← (List.cons.inj htail).1] at hfront
        simp at hfront

/-- A text in front of the first place where it has a character, and from there on. -/
theorem eq_of_dropWhile {c d : Char} {cs rest : List Char}
    (h : cs.dropWhile (· ≠ c) = d :: rest) :
    d = c ∧ cs = cs.takeWhile (· ≠ c) ++ c :: rest ∧ c ∉ cs.takeWhile (· ≠ c) := by
  have hd : d = c := by
    have hhead := List.head?_dropWhile_not (· ≠ c) cs
    rw [h] at hhead
    simpa using hhead
  refine ⟨hd, ?_, fun hmem => ?_⟩
  · rw [← hd, ← h, hd]
    exact List.takeWhile_append_dropWhile.symm
  · have hne := List.all_eq_true.1 List.all_takeWhile c hmem
    simp at hne

theorem notMem_of_dropWhile {c : Char} {cs : List Char} (h : cs.dropWhile (· ≠ c) = []) :
    c ∉ cs := by
  intro hmem
  have hall := List.takeWhile_append_dropWhile (p := (· ≠ c)) (l := cs)
  rw [h, List.append_nil] at hall
  rw [← hall] at hmem
  have hne := List.all_eq_true.1 List.all_takeWhile c hmem
  simp at hne

end Text

namespace MenuPiece

open Text

/-- Cut an item by searching and cutting bytes, `none` if that would cut inside a
character. -/
def ofBytes? (item : List Char) : Option (List MenuPiece) :=
  match find? '[' item with
  | none => some [.words item]
  | some opening =>
      match _hfront : cut? item opening with
      | none => none
      | some (front, opened) =>
          match find? ']' opened with
          | none => some [.words item]
          | some closing =>
              match _hclosed : cut? opened (closing + 1) with
              | none => none
              | some (closed, rest) =>
                  (ofBytes? rest).map fun pieces => .words front :: .key closed :: pieces
termination_by item.length
decreasing_by
  obtain ⟨rfl, -⟩ := cut?_eq_some_iff.1 _hfront
  obtain ⟨rfl, hsize⟩ := cut?_eq_some_iff.1 _hclosed
  cases closed with
  | nil => simp at hsize
  | cons c closed =>
      simp only [List.length_append, List.length_cons]
      omega

section

variable {item front opened closed rest : List Char} {opening closing : Nat}

theorem ofBytes?_of_unclosed (hopening : find? '[' item = some opening)
    (hfront : cut? item opening = some (front, opened)) (hclosing : find? ']' opened = none) :
    ofBytes? item = some [.words item] := by
  rw [ofBytes?, hopening]
  dsimp only
  split
  · next h => cases hfront.symm.trans h
  · next h =>
      cases hfront.symm.trans h
      rw [hclosing]

theorem ofBytes?_of_closed (hopening : find? '[' item = some opening)
    (hfront : cut? item opening = some (front, opened)) (hclosing : find? ']' opened = some closing)
    (hclosed : cut? opened (closing + 1) = some (closed, rest)) :
    ofBytes? item = (ofBytes? rest).map fun pieces => .words front :: .key closed :: pieces := by
  rw [ofBytes?, hopening]
  dsimp only
  split
  · next h => cases hfront.symm.trans h
  · next h =>
      cases hfront.symm.trans h
      rw [hclosing]
      dsimp only
      split
      · next h => cases hclosed.symm.trans h
      · next h =>
          cases hclosed.symm.trans h
          rfl

end

/-- How an item is to be cut: at the first opening bracket and behind the next closing one,
and then on in the same way, as long as there are both. -/
inductive Cut : List Char → List MenuPiece → Prop where
  | words {item : List Char} (hitem : '[' ∉ item) : Cut item [.words item]
  | unclosed {front inside : List Char} (hfront : '[' ∉ front) (hinside : ']' ∉ inside) :
      Cut (front ++ '[' :: inside) [.words (front ++ '[' :: inside)]
  | key {front inside rest : List Char} {pieces : List MenuPiece} (hfront : '[' ∉ front)
      (hinside : ']' ∉ inside) (hrest : Cut rest pieces) :
      Cut (front ++ ('[' :: inside ++ [']']) ++ rest)
        (.words front :: .key ('[' :: inside ++ [']']) :: pieces)

theorem cut_ofItem (item : List Char) : Cut item (ofItem item) := by
  fun_induction ofItem item with
  | case1 item hopen => exact .words (notMem_of_dropWhile hopen)
  | case2 item opening inside hopen hclose =>
      obtain ⟨rfl, hitem, hfront⟩ := eq_of_dropWhile hopen
      have hcut := Cut.unclosed hfront (notMem_of_dropWhile hclose)
      rwa [← hitem] at hcut
  | case3 item opening inside hopen closing rest hclose ih =>
      obtain ⟨rfl, hitem, hfront⟩ := eq_of_dropWhile hopen
      obtain ⟨rfl, hbody, hinside⟩ := eq_of_dropWhile hclose
      have hcut := Cut.key hfront hinside ih
      have hjoined : item.takeWhile (· ≠ '[') ++
          ('[' :: inside.takeWhile (· ≠ ']') ++ [']']) ++ rest = item := by
        rw [List.append_assoc, List.append_assoc, List.singleton_append, List.cons_append, ← hbody,
          ← hitem]
      rwa [hjoined] at hcut

namespace Cut

variable {item : List Char} {pieces : List MenuPiece}

/-- The pieces joined are the item. -/
theorem flatten_eq (h : Cut item pieces) : (pieces.map text).flatten = item := by
  induction h with
  | words _ => simp [text]
  | unclosed _ _ => simp [text]
  | key _ _ _ ih =>
      rw [List.map_cons, List.map_cons, List.flatten_cons, List.flatten_cons, ih,
        List.append_assoc]
      rfl

/-- The keys are keys, and there is none in the words. -/
theorem shaped (h : Cut item pieces) : ∀ piece ∈ pieces,
    match piece with
    | .key text => IsKey text
    | .words text => ¬ HoldsKey text := by
  induction h with
  | words hitem =>
      rintro piece hpiece
      rw [List.mem_singleton.1 hpiece]
      exact not_holdsKey_of_notMem hitem
  | unclosed hfront hinside =>
      rintro piece hpiece
      rw [List.mem_singleton.1 hpiece]
      exact not_holdsKey_of_unclosed hfront hinside
  | key hfront hinside _ ih =>
      intro piece hpiece
      rcases List.mem_cons.1 hpiece with rfl | hpiece
      · exact not_holdsKey_of_notMem hfront
      · rcases List.mem_cons.1 hpiece with rfl | hrest
        · exact ⟨_, rfl, hinside⟩
        · exact ih piece hrest

/-- A search for bytes finds the same pieces. -/
theorem ofBytes?_eq (h : Cut item pieces) : ofBytes? item = some pieces := by
  induction h with
  | words hitem => rw [ofBytes?, find?_of_notMem hitem]
  | @unclosed front inside hfront hinside =>
      have hcloser : ']' ∉ '[' :: inside := by simpa using hinside
      exact ofBytes?_of_unclosed (find?_append hfront inside) (cut?_byteSize ..)
        (find?_of_notMem hcloser)
  | @key front inside rest pieces hfront hinside _ ih =>
      have hcloser : ']' ∉ '[' :: inside := by simpa using hinside
      have hopening : find? '[' (front ++ ('[' :: inside ++ [']'] ++ rest)) =
          some (byteSize front) := find?_append hfront _
      have hclosing : find? ']' ('[' :: inside ++ [']'] ++ rest) =
          some (byteSize ('[' :: inside)) := by
        rw [List.append_assoc]
        exact find?_append hcloser rest
      -- The closing bracket takes one byte, so the cut behind it falls between characters.
      have hsize : byteSize ('[' :: inside ++ [']']) = byteSize ('[' :: inside) + 1 :=
        byteSize_append ('[' :: inside) [']']
      have hclosed := cut?_byteSize ('[' :: inside ++ [']']) rest
      rw [hsize] at hclosed
      rw [List.append_assoc,
        ofBytes?_of_closed hopening (cut?_byteSize ..) hclosing hclosed, ih]
      rfl

end Cut

/-! ### Drawing -/

/-- What a piece leaves on the screen. -/
def stroke (place : Pos) : MenuPiece → Stroke
  | .key text => ⟨place, String.ofList text, true, false⟩
  | .words text => ⟨place, String.ofList text, false, true⟩

/-- A plain pen is plain again behind a piece. -/
theorem run_draw (place : Pos) (piece : MenuPiece) :
    ∃ next, (Pen.plainAt place).run piece.draw = Pen.plainAt next := by
  cases piece with
  | key text => exact ⟨_, rfl⟩
  | words text => cases text <;> exact ⟨_, rfl⟩

theorem strokes_draw {place : Pos} {piece : MenuPiece} {drawn : Stroke}
    (h : drawn ∈ (Pen.plainAt place).strokes piece.draw) : drawn = piece.stroke place := by
  cases piece with
  | key text => exact List.mem_singleton.1 h
  | words text =>
      cases text with
      | nil => cases h
      | cons c text => exact List.mem_singleton.1 h

/-- Pieces are drawn one behind the other. -/
theorem mem_strokes_flatMap {place : Pos} {pieces : List MenuPiece} {drawn : Stroke}
    (h : drawn ∈ (Pen.plainAt place).strokes (pieces.flatMap draw)) :
    ∃ piece ∈ pieces, ∃ start, drawn = piece.stroke start := by
  induction pieces generalizing place with
  | nil => cases h
  | cons piece rest ih =>
      obtain ⟨next, hnext⟩ := run_draw place piece
      rw [List.flatMap_cons, Pen.strokes_append, hnext] at h
      rcases List.mem_append.1 h with hfirst | hlater
      · exact ⟨piece, List.mem_cons_self, place, strokes_draw hfirst⟩
      · obtain ⟨other, hother, hdrawn⟩ := ih hlater
        exact ⟨other, List.mem_cons_of_mem _ hother, hdrawn⟩

theorem typed_draw (piece : MenuPiece) : DrawOp.typed piece.draw = piece.text := by
  cases piece with
  | key text => simp [draw, DrawOp.text, MenuPiece.text]
  | words text => cases text <;> simp [draw, DrawOp.text, MenuPiece.text]

theorem stays_draw (piece : MenuPiece) : ∀ op ∈ piece.draw, op.stays = true := by
  cases piece with
  | key text => simp [draw, DrawOp.stays]
  | words text => cases text <;> simp [draw, DrawOp.stays]

theorem typed_flatMap_draw (pieces : List MenuPiece) :
    DrawOp.typed (pieces.flatMap draw) = (pieces.map text).flatten := by
  induction pieces with
  | nil => rfl
  | cons piece rest ih =>
      rw [List.flatMap_cons, DrawOp.typed_append, ih, typed_draw]
      rfl

end MenuPiece

/-- A menu item is drawn as it is written. -/
theorem typed_drawMenuItem (item : String) : DrawOp.typed (drawMenuItem item) = item.toList := by
  rw [drawMenuItem, MenuPiece.typed_flatMap_draw]
  exact (MenuPiece.cut_ofItem item.toList).flatten_eq

theorem stays_drawMenuItem (item : String) : ∀ op ∈ drawMenuItem item, op.stays = true := by
  intro op hop
  obtain ⟨piece, -, hop⟩ := List.mem_flatMap.1 hop
  exact piece.stays_draw op hop

/-- Behind an item the pen has gone on by its length. -/
theorem place_drawMenuItem (pen : Pen) (item : String) :
    (pen.run (drawMenuItem item)).place = ⟨pen.place.row, pen.place.col + item.length⟩ := by
  rw [pen.place_run (stays_drawMenuItem item), typed_drawMenuItem, String.length_toList]

theorem strokes_drawMenuItem {pen : Pen} {item : String} {stroke : Stroke}
    (h : stroke ∈ pen.strokes (drawMenuItem item)) :
    stroke.place.row = pen.place.row ∧ stroke.stop ≤ pen.place.col + item.length := by
  obtain ⟨hrow, -, hstop⟩ := pen.strokes_bounds (stays_drawMenuItem item) stroke h
  rw [typed_drawMenuItem, String.length_toList] at hstop
  exact ⟨hrow, hstop⟩

/-- Whatever brackets an item has, it is drawn as it is written, and the bold parts of it
are keys, each from an opening bracket to the next closing one, while the dim parts hold no
key.  A program that searches and cuts the bytes of the item draws the same, and never has
to cut inside a character. -/
theorem drawMenuItem_verbatim (item : String) (place : Pos) :
    let drawn := (Pen.plainAt place).strokes (drawMenuItem item)
    (MenuPiece.ofBytes? item.toList).map (·.flatMap MenuPiece.draw) = some (drawMenuItem item) ∧
    drawn.flatMap (fun stroke => stroke.text.toList) = item.toList ∧
    ∀ stroke ∈ drawn,
      if stroke.bold then Text.IsKey stroke.text.toList
      else stroke.dim = true ∧ ¬ Text.HoldsKey stroke.text.toList := by
  intro drawn
  have hcut := MenuPiece.cut_ofItem item.toList
  refine ⟨?_, ?_, fun stroke hstroke => ?_⟩
  · rw [hcut.ofBytes?_eq]
    rfl
  · rw [Pen.text_strokes, typed_drawMenuItem]
  · obtain ⟨piece, hpiece, start, rfl⟩ := MenuPiece.mem_strokes_flatMap hstroke
    have hshaped := hcut.shaped piece hpiece
    cases piece with
    | key text =>
        simp only [MenuPiece.stroke, if_true, String.toList_ofList]
        exact hshaped
    | words text =>
        simp only [MenuPiece.stroke, Bool.false_eq_true, if_false, String.toList_ofList]
        exact ⟨trivial, hshaped⟩

/-- Where the keys are brackets themselves, a key can end early. -/
example : drawMenuItem "[[][]] loop" =
    [.bold, .print "[[]", .plain, .bold, .print "[]", .plain, .dim, .print "] loop", .plain] := by
  cbv

end Beamwalk
