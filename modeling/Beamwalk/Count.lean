/-
Module: Beamwalk.Count
Purpose: Counts that a level or a program states.
Main exports: Count, Count.limit, Count.ofNat?, Count.clamp, Count.minus
-/

namespace Beamwalk

/-- One more than the largest count: counts have 32 bits. -/
def Count.limit : Nat := Nat.pow 2 32

/-- A number that an author writes down: how often a loop runs, or how many
commands of a class a level grants. -/
structure Count where
  val : Nat
  lt_limit : val < Count.limit
deriving Repr, DecidableEq

namespace Count

/-- Nothing at all. -/
def zero : Count := ⟨0, by decide⟩

instance : Inhabited Count := ⟨zero⟩

/-- The count of a natural number, `none` from the limit on. -/
def ofNat? (n : Nat) : Option Count := if h : n < limit then some ⟨n, h⟩ else none

/-- The count of a natural number, the largest count from the limit on. -/
def clamp (n : Nat) : Count :=
  ⟨min n (limit - 1), Nat.lt_of_le_of_lt (Nat.min_le_right _ _) (by decide)⟩

/-- What is left after `used`, never below zero. -/
def minus (count used : Count) : Count :=
  ⟨count.val - used.val, Nat.lt_of_le_of_lt (Nat.sub_le _ _) count.lt_limit⟩

@[simp] theorem val_zero : zero.val = 0 := rfl

@[simp] theorem val_clamp (n : Nat) : (clamp n).val = min n (limit - 1) := rfl

@[simp] theorem val_minus (count used : Count) :
    (count.minus used).val = count.val - used.val := rfl

theorem val_inj {a b : Count} : a.val = b.val ↔ a = b := by
  obtain ⟨a, ha⟩ := a
  obtain ⟨b, hb⟩ := b
  simp

theorem ofNat?_val (count : Count) : ofNat? count.val = some count := dif_pos count.lt_limit

end Count

end Beamwalk
