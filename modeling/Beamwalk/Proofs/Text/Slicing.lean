/-
Module: Beamwalk.Proofs.Text.Slicing
Purpose: Searching and cutting texts by the bytes of their encoding.
Main exports: Text.byteSize, Text.find?, Text.cut?, Text.cut?_eq_some_iff, Text.find?_append
-/
import Mathlib.Algebra.Ring.Nat

namespace Beamwalk.Text

/-!
A text that is stored as bytes is searched and cut by byte offsets.  A character takes one
to four bytes, so not every offset is a place to cut at; an offset that was found by a
search is one, and so is the offset behind a character that takes one byte.
-/

/-- The bytes that characters take. -/
def byteSize (cs : List Char) : Nat := (cs.map Char.utf8Size).sum

/-- The offset at which a character is found first. -/
def find? (c : Char) : List Char → Option Nat
  | [] => none
  | d :: rest => if d = c then some 0 else (find? c rest).map (d.utf8Size + ·)

/-- Cut a text at an offset, `none` if the offset is inside a character or behind the
text. -/
def cut? : List Char → Nat → Option (List Char × List Char)
  | cs, 0 => some ([], cs)
  | [], _ + 1 => none
  | c :: cs, n + 1 =>
      if c.utf8Size ≤ n + 1 then
        (cut? cs (n + 1 - c.utf8Size)).map fun parts => (c :: parts.1, parts.2)
      else none

@[simp] theorem byteSize_nil : byteSize [] = 0 := rfl

@[simp] theorem byteSize_cons (c : Char) (cs : List Char) :
    byteSize (c :: cs) = c.utf8Size + byteSize cs := by
  simp [byteSize]

@[simp] theorem byteSize_append (cs ds : List Char) :
    byteSize (cs ++ ds) = byteSize cs + byteSize ds := by
  simp [byteSize]

theorem cut?_cons {c : Char} {cs : List Char} {n : Nat} (h : c.utf8Size ≤ n) :
    cut? (c :: cs) n = (cut? cs (n - c.utf8Size)).map fun parts => (c :: parts.1, parts.2) := by
  have hpos := c.utf8Size_pos
  cases n with
  | zero => omega
  | succ n => rw [cut?, if_pos h]

theorem cut?_byteSize (front back : List Char) :
    cut? (front ++ back) (byteSize front) = some (front, back) := by
  induction front with
  | nil => simp [cut?]
  | cons c front ih =>
      rw [byteSize_cons, List.cons_append, cut?_cons (Nat.le_add_right _ _),
        Nat.add_sub_cancel_left, ih]
      rfl

/-- A cut leaves the bytes in front of the offset and those behind it. -/
theorem cut?_eq_some_iff {cs front back : List Char} {n : Nat} :
    cut? cs n = some (front, back) ↔ front ++ back = cs ∧ byteSize front = n := by
  constructor
  · intro h
    induction cs, n using cut?.induct generalizing front with
    | case1 cs =>
        simp only [cut?, Option.some.injEq, Prod.mk.injEq] at h
        obtain ⟨rfl, rfl⟩ := h
        exact ⟨rfl, rfl⟩
    | case2 n => simp [cut?] at h
    | case3 c cs n hle ih =>
        rw [cut?_cons hle] at h
        obtain ⟨⟨front', back'⟩, hrest, heq⟩ := Option.map_eq_some_iff.1 h
        obtain ⟨rfl, rfl⟩ := Prod.mk.inj heq
        obtain ⟨rfl, hsize⟩ := ih hrest
        exact ⟨rfl, by rw [byteSize_cons, hsize]; omega⟩
    | case4 c cs n hlt => simp [cut?, hlt] at h
  · rintro ⟨rfl, rfl⟩
    exact cut?_byteSize front back

/-- A search finds the place in front of which the character does not occur. -/
theorem find?_append {c : Char} {front : List Char} (h : c ∉ front) (back : List Char) :
    find? c (front ++ c :: back) = some (byteSize front) := by
  induction front with
  | nil => simp [find?]
  | cons d front ih =>
      rw [List.mem_cons, not_or] at h
      rw [List.cons_append, find?, if_neg (Ne.symm h.1), ih h.2, byteSize_cons]
      rfl

theorem find?_of_notMem {c : Char} {cs : List Char} (h : c ∉ cs) : find? c cs = none := by
  induction cs with
  | nil => rfl
  | cons d cs ih =>
      rw [List.mem_cons, not_or] at h
      rw [find?, if_neg (Ne.symm h.1), ih h.2]
      rfl

end Beamwalk.Text
