/-
Module: Beamwalk.Level.Group
Purpose: The three hazard groups, sets of them, and which of them are switched on.
Main exports: Group, GroupSet, GroupSet.ofGroups?, GroupSet.ofBits?, Switches, Switches.flip
-/

namespace Beamwalk

/-- A family of hazard sources that is switched on and off as one. -/
inductive Group where
  | red
  | blue
  | green
deriving Repr, Inhabited, DecidableEq

namespace Group

/-- The groups in their standing order. -/
def all : List Group := [.red, .blue, .green]

/-- The place of a group in the standing order. -/
def index : Group → Nat
  | .red => 0
  | .blue => 1
  | .green => 2

/-- The name shown to people. -/
def label : Group → String
  | .red => "Red"
  | .blue => "Blue"
  | .green => "Green"

theorem mem_all (g : Group) : g ∈ all := by cases g <;> decide

end Group

/-!
Membership of a group and the state of its switch are both one Boolean for each
group.  A set that a button refers to is never empty, which is a field of its
type: no button can be drawn or read that would toggle nothing.
-/

/-- One Boolean for each group: the groups that are switched on. -/
structure Switches where
  red : Bool
  blue : Bool
  green : Bool
deriving Repr, Inhabited, DecidableEq

namespace Switches

/-- Every group is off. -/
def allOff : Switches := ⟨false, false, false⟩

/-- The state of one group. -/
def get (s : Switches) : Group → Bool
  | .red => s.red
  | .blue => s.blue
  | .green => s.green

/-- The states in the standing order. -/
def toList (s : Switches) : List Bool := [s.red, s.blue, s.green]

end Switches

/-- A set of groups with at least one member. -/
structure GroupSet where
  red : Bool
  blue : Bool
  green : Bool
  nonempty : (red || blue || green) = true
deriving Repr, DecidableEq

namespace GroupSet

/-- All three groups. -/
def all : GroupSet := ⟨true, true, true, rfl⟩

instance : Inhabited GroupSet := ⟨all⟩

/-- Whether a group is a member. -/
def contains (s : GroupSet) : Group → Bool
  | .red => s.red
  | .blue => s.blue
  | .green => s.green

/-- The set with the given members, `none` when there is none. -/
def ofMembers? (red blue green : Bool) : Option GroupSet :=
  if h : (red || blue || green) = true then some ⟨red, blue, green, h⟩ else none

/-- The set of the groups in a list, `none` for the empty list.  Order and
repetition make no difference. -/
def ofGroups? (groups : List Group) : Option GroupSet :=
  ofMembers? (groups.contains .red) (groups.contains .blue) (groups.contains .green)

/-- The set of one group. -/
def single : Group → GroupSet
  | .red => ⟨true, false, false, rfl⟩
  | .blue => ⟨false, true, false, rfl⟩
  | .green => ⟨false, false, true, rfl⟩

/-- The set of the two other groups. -/
def allBut : Group → GroupSet
  | .red => ⟨false, true, true, rfl⟩
  | .blue => ⟨true, false, true, rfl⟩
  | .green => ⟨true, true, false, rfl⟩

/-- The members in the standing order. -/
def toList (s : GroupSet) : List Group := Group.all.filter s.contains

/-- A number with one binary digit for each group, the first group lowest. -/
def bits (s : GroupSet) : Nat := s.red.toNat + 2 * s.blue.toNat + 4 * s.green.toNat

/-- The set with the given `bits`; no set has zero bits or a fourth group. -/
def ofBits? : Nat → Option GroupSet
  | 1 => some ⟨true, false, false, rfl⟩
  | 2 => some ⟨false, true, false, rfl⟩
  | 3 => some ⟨true, true, false, rfl⟩
  | 4 => some ⟨false, false, true, rfl⟩
  | 5 => some ⟨true, false, true, rfl⟩
  | 6 => some ⟨false, true, true, rfl⟩
  | 7 => some ⟨true, true, true, rfl⟩
  | _ => none

theorem mem_toList {s : GroupSet} {g : Group} : g ∈ s.toList ↔ s.contains g = true := by
  simp [toList, Group.mem_all]

theorem ofGroups?_toList (s : GroupSet) : ofGroups? s.toList = some s := by
  obtain ⟨r, b, g, h⟩ := s
  cases r <;> cases b <;> cases g <;> first | rfl | exact absurd h (by decide)

theorem ofBits?_bits (s : GroupSet) : ofBits? s.bits = some s := by
  obtain ⟨r, b, g, h⟩ := s
  cases r <;> cases b <;> cases g <;> first | rfl | exact absurd h (by decide)

theorem ofGroups?_eq_none_iff {groups : List Group} : ofGroups? groups = none ↔ groups = [] := by
  cases groups with
  | nil => simp [ofGroups?, ofMembers?]
  | cons g rest => cases g <;> simp [ofGroups?, ofMembers?]

end GroupSet

namespace Switches

/-- Flip exactly the groups of the set. -/
def flip (s : Switches) (groups : GroupSet) : Switches :=
  ⟨s.red ^^ groups.red, s.blue ^^ groups.blue, s.green ^^ groups.green⟩

@[simp] theorem get_flip (s : Switches) (groups : GroupSet) (g : Group) :
    (s.flip groups).get g = (s.get g ^^ groups.contains g) := by
  cases g <;> rfl

@[simp] theorem flip_flip (s : Switches) (groups : GroupSet) :
    (s.flip groups).flip groups = s := by
  simp [flip]

end Switches

end Beamwalk
