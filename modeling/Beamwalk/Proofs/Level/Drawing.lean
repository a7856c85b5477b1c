/-
Module: Beamwalk.Proofs.Level.Drawing
Purpose: Which drawings are levels, what is wrong with the others, and that a level can be
  drawn and read back.
Main exports: CellKind.legend, Blueprint.Sound, Blueprint.Flaw, Grid.draw, Blueprint.build_ok,
  Blueprint.build_flaw, Blueprint.build_reads_drawing
-/
import Mathlib.Algebra.Ring.Nat
import Mathlib.Data.List.Basic
import Beamwalk.Level.Blueprint
import Beamwalk.Proofs.Grid.Rows

namespace Beamwalk

namespace CellKind

/-- The legend as authors know it.  Digits and the star are buttons: one group, two
groups, all of them. -/
def legend : List (Char × CellKind) := [
  ('.', .empty), (' ', .empty), ('o', .coin),
  ('^', .start .north), ('>', .start .east), ('v', .start .south), ('<', .start .west),
  ('a', .horizontalSource .red), ('b', .horizontalSource .blue), ('c', .horizontalSource .green),
  ('A', .verticalSource .red), ('B', .verticalSource .blue), ('C', .verticalSource .green),
  ('1', .button (.single .red)), ('2', .button (.single .blue)), ('3', .button (.single .green)),
  ('4', .button (.allBut .green)), ('5', .button (.allBut .blue)), ('6', .button (.allBut .red)),
  ('*', .button .all)]

/-- The symbols of buttons in the order of the numbers that spell their groups. -/
def buttonSymbols : List Char := ['1', '2', '4', '3', '5', '6', '*']

/-- What a symbol means by the legend. -/
def meaning? (symbol : Char) : Option CellKind := legend.lookup symbol

/-- A symbol is read as what the legend says. -/
theorem ofSymbol?_eq_meaning? (symbol : Char) : ofSymbol? symbol = meaning? symbol := by
  have hmeant : ∀ entry ∈ legend, ofSymbol? entry.1 ≠ none := by decide
  cases h : ofSymbol? symbol with
  | none =>
      symm
      rw [meaning?, List.lookup_eq_none_iff]
      intro entry hentry
      rw [bne_iff_ne]
      rintro rfl
      exact hmeant entry hentry h
  | some kind =>
      unfold ofSymbol? at h
      split at h <;> cases h <;> rfl

theorem getElem?_buttonSymbols (groups : GroupSet) :
    buttonSymbols[groups.bits - 1]? = some (button groups).symbol := by
  obtain ⟨r, b, g, h⟩ := groups
  cases r <;> cases b <;> cases g <;> first | rfl | exact absurd h (by decide)

/-- The symbol is in the legend. -/
def Known (symbol : Char) : Prop := (meaning? symbol).isSome = true

instance (symbol : Char) : Decidable (Known symbol) :=
  inferInstanceAs (Decidable (_ = true))

theorem not_known_iff {symbol : Char} : ¬ Known symbol ↔ meaning? symbol = none :=
  Option.not_isSome_iff_eq_none

end CellKind

namespace Blueprint

open CellKind (meaning? Known)

/-- The row has the given length, and all its symbols are in the legend. -/
structure Fitting (length : Nat) (line : String) : Prop where
  known : ∀ symbol ∈ line.toList, Known symbol
  length_eq : line.length = length

instance (length : Nat) (line : String) : Decidable (Fitting length line) :=
  -- Only the characters of the line are tried, not all there are.
  have : Decidable (∀ symbol ∈ line.toList, Known symbol) :=
    List.decidableBAll Known line.toList
  decidable_of_iff ((∀ symbol ∈ line.toList, Known symbol) ∧ line.length = length)
    ⟨fun h => ⟨h.1, h.2⟩, fun h => ⟨h.1, h.2⟩⟩

/-- What is wrong with the row of a number, if the rows have a length: its leftmost
unknown symbol or, without any, its own length. -/
inductive RowFlaw (length row : Nat) (line : String) : LevelError → Prop where
  | unknown (col : Nat) (symbol : Char) (here : line.toList[col]? = some symbol)
      (unknown : ¬ Known symbol) (known : ∀ left ∈ line.toList.take col, Known left) :
      RowFlaw length row line (.unknownSymbol symbol ⟨row, col⟩)
  | ragged (known : ∀ symbol ∈ line.toList, Known symbol) (ragged : line.length ≠ length) :
      RowFlaw length row line (.ragged row length line.length)

/-- The start markers of a drawing. -/
def starts (b : Blueprint) : Nat :=
  (b.rows.map fun line =>
    line.toList.countP fun symbol => (meaning? symbol).any CellKind.isStart).sum

/-- The meaning of the symbol at a position. -/
def kind? (b : Blueprint) (p : Pos) : Option CellKind :=
  (b.rows[p.row]?.bind fun line => line.toList[p.col]?).bind meaning?

/-- A drawing of a level: rows of one length with symbols of the legend, among them one
to four start markers. -/
structure Sound (b : Blueprint) : Prop where
  rows : ∃ first, b.rows.head? = some first ∧ first ≠ "" ∧
    ∀ line ∈ b.rows, Fitting first.length line
  starts : 1 ≤ b.starts ∧ b.starts ≤ 4

/-- What is wrong with a drawing: its first row that is not as long as the first one or
holds an unknown symbol; only then that it has no cells, and last its start markers. -/
inductive Flaw (b : Blueprint) : LevelError → Prop where
  | row {first line : String} {e : LevelError} (row : Nat) (head : b.rows.head? = some first)
      (above : ∀ other ∈ b.rows.take row, Fitting first.length other)
      (here : b.rows[row]? = some line) (flaw : RowFlaw first.length row line e) : Flaw b e
  | noRows (none : b.rows = []) : Flaw b .empty
  | noColumns (head : b.rows.head? = some "") (rows : ∀ line ∈ b.rows, Fitting 0 line) :
      Flaw b .empty
  | noStart {first : String} (head : b.rows.head? = some first) (columns : first ≠ "")
      (rows : ∀ line ∈ b.rows, Fitting first.length line) (none : b.starts = 0) : Flaw b .noStart
  | tooManyStarts {first : String} (head : b.rows.head? = some first) (columns : first ≠ "")
      (rows : ∀ line ∈ b.rows, Fitting first.length line) (many : 4 < b.starts) :
      Flaw b (.tooManyStarts b.starts 4)

variable {b : Blueprint} {length row col : Nat} {line : String} {e : LevelError}

/-! ### Rows -/

/-- The cells of a row. -/
def cellsOf (line : String) : List CellKind := line.toList.filterMap meaning?

/-- All members of a list have a property, or there is a first one that has not. -/
theorem forall_or_first {α : Type} (p : α → Prop) [DecidablePred p] (l : List α) :
    (∀ a ∈ l, p a) ∨ ∃ (i : Nat) (a : α), l[i]? = some a ∧ ¬ p a ∧ ∀ b ∈ l.take i, p b := by
  induction l with
  | nil => exact .inl (by simp)
  | cons a rest ih =>
      by_cases ha : p a
      · rcases ih with hall | ⟨i, b, hb, hnot, hbefore⟩
        · exact .inl (List.forall_mem_cons.2 ⟨ha, hall⟩)
        · refine .inr ⟨i + 1, b, hb, hnot, ?_⟩
          rw [List.take_succ_cons]
          exact List.forall_mem_cons.2 ⟨ha, hbefore⟩
      · exact .inr ⟨0, a, rfl, ha, by simp⟩

theorem eq_take_append_drop {α : Type} {l : List α} {i : Nat} {a : α} (h : l[i]? = some a) :
    l = l.take i ++ a :: l.drop (i + 1) ∧ (l.take i).length = i := by
  obtain ⟨hlt, rfl⟩ := List.getElem?_eq_some_iff.1 h
  rw [← List.drop_eq_getElem_cons hlt, List.take_append_drop, List.length_take]
  exact ⟨rfl, Nat.min_eq_left (Nat.le_of_lt hlt)⟩

theorem getElem?_filterMap {α β : Type} {f : α → Option β} {l : List α}
    (h : ∀ a ∈ l, (f a).isSome = true) (i : Nat) : (l.filterMap f)[i]? = l[i]?.bind f := by
  induction l generalizing i with
  | nil => rfl
  | cons a rest ih =>
      obtain ⟨ha, hrest⟩ := List.forall_mem_cons.1 h
      obtain ⟨v, hv⟩ := Option.isSome_iff_exists.1 ha
      rw [List.filterMap_cons_some hv]
      cases i with
      | zero => simp [hv]
      | succ i => simpa using ih hrest i

theorem length_filterMap {α β : Type} {f : α → Option β} {l : List α}
    (h : ∀ a ∈ l, (f a).isSome = true) : (l.filterMap f).length = l.length := by
  rw [List.length_filterMap_eq_countP, List.countP_eq_length]
  exact h

theorem length_cellsOf (h : Fitting length line) : (cellsOf line).length = length := by
  have hlength : (line.toList.filterMap meaning?).length = line.toList.length :=
    length_filterMap h.known
  rw [cellsOf, hlength, String.length_toList, h.length_eq]

theorem readSymbols_known {symbols : List Char} (h : ∀ symbol ∈ symbols, Known symbol) :
    readSymbols row col symbols = .ok (symbols.filterMap meaning?) := by
  induction symbols generalizing col with
  | nil => rfl
  | cons symbol rest ih =>
      obtain ⟨hsymbol, hrest⟩ := List.forall_mem_cons.1 h
      obtain ⟨kind, hkind⟩ := Option.isSome_iff_exists.1 hsymbol
      rw [readSymbols, CellKind.ofSymbol?_eq_meaning?, hkind, ih hrest, List.filterMap_cons_some hkind]
      rfl

theorem readSymbols_unknown {front rest : List Char} {symbol : Char}
    (hfront : ∀ left ∈ front, Known left) (hsymbol : ¬ Known symbol) :
    readSymbols row col (front ++ symbol :: rest) =
      .error (.unknownSymbol symbol ⟨row, col + front.length⟩) := by
  induction front generalizing col with
  | nil =>
      rw [List.nil_append, readSymbols, CellKind.ofSymbol?_eq_meaning?,
        CellKind.not_known_iff.1 hsymbol]
      rfl
  | cons left front ih =>
      obtain ⟨hleft, hfront⟩ := List.forall_mem_cons.1 hfront
      obtain ⟨kind, hkind⟩ := Option.isSome_iff_exists.1 hleft
      rw [List.cons_append, readSymbols, CellKind.ofSymbol?_eq_meaning?, hkind, ih hfront,
        List.length_cons, Nat.add_right_comm, Nat.add_assoc]
      rfl

theorem readRows_fitting (row : Nat) {lines : List String}
    (h : ∀ line ∈ lines, Fitting length line) :
    ∃ fits, readRows length row lines = .ok ⟨lines.map cellsOf, fits⟩ := by
  induction lines generalizing row with
  | nil => exact ⟨by simp, rfl⟩
  | cons line rest ih =>
      obtain ⟨hline, hrest⟩ := List.forall_mem_cons.1 h
      obtain ⟨fits, hread⟩ := ih (row + 1) hrest
      have hcells : readSymbols row 0 line.toList = .ok (cellsOf line) :=
        readSymbols_known hline.known
      refine ⟨List.forall_mem_cons.2 ⟨length_cellsOf hline, fits⟩, ?_⟩
      simp [readRows, hcells, length_cellsOf hline, hread]

theorem readRows_flaw {above below : List String} (habove : ∀ line ∈ above, Fitting length line)
    (flaw : RowFlaw length (row + above.length) line e) :
    readRows length row (above ++ line :: below) = .error e := by
  induction above generalizing row with
  | nil =>
      rw [List.nil_append, readRows]
      cases flaw with
      | unknown col symbol here unknown known =>
          obtain ⟨hsplit, hcol⟩ := eq_take_append_drop here
          rw [hsplit, readSymbols_unknown known unknown, hcol, Nat.zero_add]
          rfl
      | ragged known ragged =>
          have hlength : (line.toList.filterMap meaning?).length = line.length := by
            rw [length_filterMap known, String.length_toList]
          simp [readSymbols_known known, hlength, ragged]
  | cons first above ih =>
      obtain ⟨hfirst, habove⟩ := List.forall_mem_cons.1 habove
      have hcells : readSymbols row 0 first.toList = .ok (cellsOf first) :=
        readSymbols_known hfirst.known
      rw [List.length_cons, Nat.add_comm above.length, ← Nat.add_assoc] at flaw
      have hrest := ih habove flaw
      simp [readRows, hcells, length_cellsOf hfirst, hrest]

/-- A row fits, or something is wrong with it. -/
theorem fitting_or_flaw (length row : Nat) (line : String) :
    Fitting length line ∨ ∃ e, RowFlaw length row line e := by
  rcases forall_or_first Known line.toList with known | ⟨col, symbol, here, unknown, known⟩
  · by_cases hlength : line.length = length
    · exact .inl ⟨known, hlength⟩
    · exact .inr ⟨_, .ragged known hlength⟩
  · exact .inr ⟨_, .unknown col symbol here unknown known⟩

end Blueprint

/-! ### Grids of a level -/

namespace Level

variable {cells : Grid CellKind} {enabled : Switches} {budgets : Budgets}

theorem ofGrid_eq_error {e : LevelError}
    (h : flaw? cells.width cells.height cells.starts = some e) :
    ofGrid cells enabled budgets = .error e := by
  unfold ofGrid
  split
  · next flaw hflaw =>
      rw [h] at hflaw
      cases hflaw
      rfl
  · next hflaw =>
      rw [h] at hflaw
      cases hflaw

theorem ofGrid_empty (h : cells.height = 0 ∨ cells.width = 0) :
    ofGrid cells enabled budgets = .error .empty :=
  ofGrid_eq_error (if_pos h)

theorem ofGrid_noStart (h : ¬ (cells.height = 0 ∨ cells.width = 0)) (hstarts : cells.starts = 0) :
    ofGrid cells enabled budgets = .error .noStart := by
  apply ofGrid_eq_error
  rw [flaw?, if_neg h, if_pos hstarts]

theorem ofGrid_tooManyStarts (h : ¬ (cells.height = 0 ∨ cells.width = 0))
    (hstarts : 4 < cells.starts) :
    ofGrid cells enabled budgets = .error (.tooManyStarts cells.starts 4) := by
  have hmany : roster.length < cells.starts := hstarts
  apply ofGrid_eq_error
  rw [flaw?, if_neg h, if_neg (by omega), if_pos hmany]
  rfl

theorem ofGrid_ok (enabled : Switches) (budgets : Budgets)
    (h : ¬ (cells.height = 0 ∨ cells.width = 0)) (hpos : 1 ≤ cells.starts)
    (hfour : cells.starts ≤ 4) :
    ∃ level, ofGrid cells enabled budgets = .ok level ∧ level.cells = cells ∧
      level.enabled = enabled ∧ level.budgets = budgets := by
  have hsound : flaw? cells.width cells.height cells.starts = none :=
    flaw?_eq_none_iff.2 ⟨fun hw => h (.inr hw), fun hh => h (.inl hh), by omega, hfour⟩
  unfold ofGrid
  split
  · next flaw hflaw =>
      rw [hsound] at hflaw
      cases hflaw
  · exact ⟨_, rfl, rfl, rfl, rfl⟩

end Level

namespace Blueprint

open CellKind (meaning? Known)

variable {b : Blueprint} {first : String} {e : LevelError}

/-- The grid of a drawing whose rows fit is `cells`. -/
structure Drawn (b : Blueprint) (cells : Grid CellKind) : Prop where
  height : cells.height = b.rows.length
  width : cells.width = b.expectedWidth
  get? : ∀ p, cells.get? p = b.kind? p
  starts : cells.starts = b.starts
  build : b.build = (Level.ofGrid cells b.enabled b.budgets).map fun level =>
    { level with name := b.name }

theorem expectedWidth_eq (head : b.rows.head? = some first) : b.expectedWidth = first.length := by
  simp [expectedWidth, head]

/-- A drawing whose rows fit has a grid, which decides about it. -/
theorem exists_drawn (rows : ∀ line ∈ b.rows, Fitting b.expectedWidth line) :
    ∃ cells, b.Drawn cells := by
  obtain ⟨fits, hread⟩ := readRows_fitting 0 rows
  refine ⟨.ofRows (b.rows.map cellsOf) (rectangular_of_forall fits), ?_, ?_, ?_, ?_, ?_⟩
  · exact List.length_map _
  · change ((b.rows.map cellsOf).head?.map List.length).getD 0 = b.expectedWidth
    rw [List.head?_map, Option.map_map]
    cases head : b.rows.head? with
    | none => simp [expectedWidth, head]
    | some first =>
        have hfirst := rows first (List.mem_of_head? head)
        exact length_cellsOf hfirst
  · intro p
    rw [Grid.get?_ofRows, List.getElem?_map, kind?]
    cases hline : b.rows[p.row]? with
    | none => rfl
    | some line =>
        exact getElem?_filterMap (rows line (List.mem_of_getElem? hline)).known p.col
  · have hcount : ∀ line, (cellsOf line).countP CellKind.isStart =
        line.toList.countP fun symbol => (meaning? symbol).any CellKind.isStart := by
      intro line
      rw [cellsOf, List.countP_filterMap]
      congr
      funext symbol
      cases meaning? symbol <;> rfl
    simp [Grid.starts, Grid.count, Grid.ofRows, starts, List.countP_flatten, hcount,
      Function.comp_def]
  · rw [build, hread]
    dsimp only
    cases Level.ofGrid _ b.enabled b.budgets <;> rfl

theorem Drawn.nonempty {cells : Grid CellKind} (h : b.Drawn cells)
    (head : b.rows.head? = some first) (columns : first ≠ "") :
    ¬ (cells.height = 0 ∨ cells.width = 0) := by
  rw [h.height, h.width, expectedWidth_eq head, List.length_eq_zero_iff, String.length_eq_zero_iff]
  rintro (hrows | hcolumns)
  · rw [hrows] at head
    cases head
  · exact columns hcolumns

/-- What is read from a sound drawing. -/
theorem build_ok (sound : b.Sound) :
    ∃ level, b.build = .ok level ∧ b.Drawn level.cells ∧ level.name = b.name ∧
      level.enabled = b.enabled ∧ level.budgets = b.budgets := by
  obtain ⟨first, head, columns, rows⟩ := sound.rows
  obtain ⟨cells, hdrawn⟩ := exists_drawn (by rwa [expectedWidth_eq head])
  have hstarts := sound.starts
  rw [← hdrawn.starts] at hstarts
  obtain ⟨level, hlevel, rfl, henabled, hbudgets⟩ :=
    Level.ofGrid_ok b.enabled b.budgets (hdrawn.nonempty head columns) hstarts.1 hstarts.2
  refine ⟨{ level with name := b.name }, ?_, hdrawn, rfl, henabled, hbudgets⟩
  rw [hdrawn.build, hlevel]
  rfl

/-- What is wrong with a drawing is found. -/
theorem build_flaw (flaw : b.Flaw e) : b.build = .error e := by
  have hgrid : (∀ line ∈ b.rows, Fitting b.expectedWidth line) →
      (∀ cells, b.Drawn cells → Level.ofGrid cells b.enabled b.budgets = .error e) →
      b.build = .error e := by
    intro rows herror
    obtain ⟨cells, hdrawn⟩ := exists_drawn rows
    rw [hdrawn.build, herror cells hdrawn]
    rfl
  cases flaw with
  | row row head above here flaw =>
      obtain ⟨hsplit, hrow⟩ := eq_take_append_drop here
      rw [← expectedWidth_eq head] at above flaw
      have hread : readRows b.expectedWidth 0 b.rows = .error e := by
        rw [hsplit]
        apply readRows_flaw above
        rwa [hrow, Nat.zero_add]
      rw [build, hread]
  | noRows none =>
      refine hgrid (by simp [none]) fun cells hdrawn => Level.ofGrid_empty (.inl ?_)
      rw [hdrawn.height, none]
      rfl
  | noColumns head rows =>
      refine hgrid (by rwa [expectedWidth_eq head]) fun cells hdrawn => Level.ofGrid_empty (.inr ?_)
      rw [hdrawn.width, expectedWidth_eq head]
      rfl
  | noStart head columns rows none =>
      refine hgrid (by rwa [expectedWidth_eq head]) fun cells hdrawn => ?_
      exact Level.ofGrid_noStart (hdrawn.nonempty head columns) (hdrawn.starts.trans none)
  | tooManyStarts head columns rows many =>
      refine hgrid (by rwa [expectedWidth_eq head]) fun cells hdrawn => ?_
      rw [← hdrawn.starts] at many ⊢
      exact Level.ofGrid_tooManyStarts (hdrawn.nonempty head columns) many

/-- A drawing is sound, or something is wrong with it. -/
theorem sound_or_flaw (b : Blueprint) : b.Sound ∨ ∃ e, b.Flaw e := by
  cases head : b.rows.head? with
  | none => exact .inr ⟨_, .noRows (List.head?_eq_none_iff.1 head)⟩
  | some first =>
      rcases forall_or_first (Fitting first.length) b.rows with
        rows | ⟨row, line, here, hnot, above⟩
      · by_cases columns : first = ""
        · subst columns
          exact .inr ⟨_, .noColumns head rows⟩
        · rcases Nat.eq_zero_or_pos b.starts with hnone | hpos
          · exact .inr ⟨_, .noStart head columns rows hnone⟩
          · rcases Nat.lt_or_ge 4 b.starts with hmany | hfour
            · exact .inr ⟨_, .tooManyStarts head columns rows hmany⟩
            · exact .inl ⟨⟨first, head, columns, rows⟩, hpos, hfour⟩
      · rcases fitting_or_flaw first.length row line with hfitting | ⟨e, flaw⟩
        · exact absurd hfitting hnot
        · exact .inr ⟨e, .row row head above here flaw⟩

theorem build_eq_error_iff : b.build = .error e ↔ b.Flaw e := by
  refine ⟨fun herror => ?_, build_flaw⟩
  rcases b.sound_or_flaw with sound | ⟨other, flaw⟩
  · obtain ⟨level, hlevel, _⟩ := build_ok sound
    rw [hlevel] at herror
    cases herror
  · rw [build_flaw flaw] at herror
    cases herror
    exact flaw

theorem sound_of_build {level : Level} (h : b.build = .ok level) : b.Sound := by
  rcases b.sound_or_flaw with sound | ⟨e, flaw⟩
  · exact sound
  · rw [build_flaw flaw] at h
    cases h

end Blueprint

/-! ### Drawing a grid -/

/-- A grid as its author would draw it. -/
def Grid.draw (cells : Grid CellKind) : List String :=
  cells.rows.map fun row => .ofList (row.map CellKind.symbol)

theorem Grid.getElem?_draw {cells : Grid CellKind} (hwidth : cells.width ≠ 0) (p : Pos) :
    (cells.draw[p.row]?.bind fun line => line.toList[p.col]?) =
      (cells.get? p).map CellKind.symbol := by
  rw [← getElem?_rows hwidth, draw, List.getElem?_map]
  cases cells.rows[p.row]? with
  | none => rfl
  | some row => simp [List.getElem?_map]

namespace Blueprint

open CellKind (meaning?)

/-- The drawing of a grid, with settings. -/
def ofGrid (name : Option String) (cells : Grid CellKind) (enabled : Switches) (budgets : Budgets) :
    Blueprint :=
  ⟨name, cells.draw, enabled, budgets⟩

variable {name : Option String} {cells : Grid CellKind} {enabled : Switches} {budgets : Budgets}

/-- Drawn cells are read as what they are. -/
theorem kind?_ofGrid (hwidth : cells.width ≠ 0) (p : Pos) :
    (ofGrid name cells enabled budgets).kind? p = cells.get? p := by
  rw [kind?, ofGrid, Grid.getElem?_draw hwidth]
  cases cells.get? p with
  | none => rfl
  | some kind =>
      rw [Option.map_some, Option.bind_some, ← CellKind.ofSymbol?_eq_meaning?,
        CellKind.ofSymbol?_symbol]

/-- Every row of a drawn grid is as long as the grid is wide, in symbols of the
legend. -/
theorem fitting_draw : ∀ line ∈ cells.draw, Fitting cells.width line := by
  intro line hline
  obtain ⟨row, hrow, rfl⟩ := List.mem_map.1 hline
  constructor
  · intro symbol hsymbol
    rw [String.toList_ofList] at hsymbol
    obtain ⟨kind, _, rfl⟩ := List.mem_map.1 hsymbol
    rw [CellKind.Known, ← CellKind.ofSymbol?_eq_meaning?, CellKind.ofSymbol?_symbol]
    rfl
  · rw [String.length_ofList, List.length_map, Grid.length_of_mem_rows hrow]

theorem exists_first_row (hwidth : cells.width ≠ 0) (hheight : cells.height ≠ 0) :
    ∃ first, cells.draw.head? = some first ∧ first.length = cells.width := by
  cases head : cells.draw.head? with
  | none =>
      have hlength : cells.draw.length = cells.height := by
        rw [Grid.draw, List.length_map, Grid.length_rows hwidth]
      rw [List.head?_eq_none_iff.1 head] at hlength
      exact absurd hlength.symm hheight
  | some first =>
      have hfirst := fitting_draw first (List.mem_of_head? head)
      exact ⟨first, rfl, hfirst.length_eq⟩

/-- The drawing of a grid has that grid. -/
theorem drawn_ofGrid (hwidth : cells.width ≠ 0) (hheight : cells.height ≠ 0) :
    (ofGrid name cells enabled budgets).Drawn cells := by
  obtain ⟨first, head, hfirst⟩ := exists_first_row hwidth hheight
  have hexpected : (ofGrid name cells enabled budgets).expectedWidth = cells.width :=
    (expectedWidth_eq head).trans hfirst
  obtain ⟨drawn, hdrawn⟩ := exists_drawn (b := ofGrid name cells enabled budgets) (by
    rw [hexpected]
    exact fitting_draw)
  have hsame : drawn = cells := by
    apply Grid.ext_get?
    · rw [hdrawn.width, hexpected]
    · rw [hdrawn.height, ofGrid, Grid.draw, List.length_map, Grid.length_rows hwidth]
    · intro p
      rw [hdrawn.get?, kind?_ofGrid hwidth]
  rwa [hsame] at hdrawn

theorem sound_ofGrid (hwidth : cells.width ≠ 0) (hheight : cells.height ≠ 0)
    (hpos : 1 ≤ cells.starts) (hfour : cells.starts ≤ 4) :
    (ofGrid name cells enabled budgets).Sound := by
  obtain ⟨first, head, hfirst⟩ := exists_first_row hwidth hheight
  have hdrawn : (ofGrid name cells enabled budgets).Drawn cells := drawn_ofGrid hwidth hheight
  refine ⟨⟨first, head, ?_, ?_⟩, hdrawn.starts ▸ ⟨hpos, hfour⟩⟩
  · rintro rfl
    exact hwidth hfirst.symm
  · rw [hfirst]
    exact fitting_draw

/-- Drawings are read exactly.  A drawing is a level if it has a row, its first row is
not empty, all rows are as long as the first one, every symbol is in the legend, and one
to four of them are start markers; the level then shows the meaning of every symbol at
its place and has the name and the settings of the drawing.  Of any other drawing the
first flaw is reported.  And a grid that has cells and one to four start markers is read
back from its drawing, in which buttons have the symbols of the numbers that spell their
groups. -/
theorem build_reads_drawing :
    (∀ b : Blueprint,
      ((∃ level, b.build = .ok level) ↔ b.Sound) ∧
      (∀ level, b.build = .ok level →
        level.cells.height = b.rows.length ∧
        (∀ first, b.rows.head? = some first → level.cells.width = first.length) ∧
        (∀ p, level.cells.get? p = b.kind? p) ∧
        level.name = b.name ∧ level.enabled = b.enabled ∧ level.budgets = b.budgets) ∧
      ∀ e, b.build = .error e ↔ b.Flaw e) ∧
    (∀ (name : Option String) (cells : Grid CellKind) (enabled : Switches) (budgets : Budgets),
      cells.width ≠ 0 → cells.height ≠ 0 → 1 ≤ cells.starts → cells.starts ≤ 4 →
        ∃ level, (ofGrid name cells enabled budgets).build = .ok level ∧ level.cells = cells ∧
          level.name = name ∧ level.enabled = enabled ∧ level.budgets = budgets) ∧
    ∀ groups, CellKind.buttonSymbols[groups.bits - 1]? = some (CellKind.button groups).symbol := by
  refine ⟨fun b => ⟨⟨fun ⟨level, h⟩ => sound_of_build h, fun sound => ?_⟩, fun level h => ?_,
    fun e => build_eq_error_iff⟩, fun name cells enabled budgets hwidth hheight hpos hfour => ?_,
    CellKind.getElem?_buttonSymbols⟩
  · obtain ⟨level, h, _⟩ := build_ok sound
    exact ⟨level, h⟩
  · obtain ⟨read, hread, hdrawn, hsettings⟩ := build_ok (sound_of_build h)
    rw [h] at hread
    cases hread
    exact ⟨hdrawn.height, fun first head => hdrawn.width.trans (expectedWidth_eq head),
      hdrawn.get?, hsettings⟩
  · have hsound : (ofGrid name cells enabled budgets).Sound :=
      sound_ofGrid hwidth hheight hpos hfour
    have hdrawn : (ofGrid name cells enabled budgets).Drawn cells := drawn_ofGrid hwidth hheight
    obtain ⟨level, h, hread, hsettings⟩ := build_ok hsound
    refine ⟨level, h, Grid.ext_get? ?_ ?_ fun p => ?_, hsettings⟩
    · rw [hread.width, hdrawn.width]
    · rw [hread.height, hdrawn.height]
    · rw [hread.get?, hdrawn.get?]

/-- An actor, a button for two groups and a coin in two rows. -/
def doorstep : Grid CellKind :=
  .ofRows [[.start .east, .button (.allBut .blue)], [.coin, .empty]] (by decide)

/-- The same as an author draws it, with a longer row below. -/
def overhang : Blueprint := ⟨some "overhang", [">5", "o ", "..#."], .allOff, {}⟩

theorem build_reads_drawing_doorstep :
    (∃ level, (ofGrid none doorstep .allOff {}).build = .ok level ∧ level.cells = doorstep) ∧
    doorstep.draw = [">5", "o."] ∧
    overhang.build = .error (.unknownSymbol '#' ⟨2, 2⟩) := by
  obtain ⟨hread, hdrawn, _⟩ := build_reads_drawing
  obtain ⟨level, h, hcells, _⟩ :=
    hdrawn none doorstep .allOff {} (by decide) (by decide) (by decide) (by decide)
  refine ⟨⟨level, h, hcells⟩, by decide, ?_⟩
  apply ((hread overhang).2.2 _).2
  have hdots : ∀ left ∈ ['.', '.'], CellKind.Known left :=
    List.forall_mem_cons.2 ⟨by decide, List.forall_mem_cons.2 ⟨by decide, nofun⟩⟩
  exact .row 2 rfl (by decide) rfl (.unknown 2 '#' rfl (by decide) hdots)

end Blueprint

end Beamwalk
