import SheetStore.Proofs.Grid.Edits
import SheetStore.Reducer

/-! What a batch of edits makes of the grid's data, in closed form (`Matrix.described`),
one edit at a time folded in by induction.
-/

set_option autoImplicit false

namespace SheetStore

namespace CellEdit

def effect (e : CellEdit) : Nat × Nat × Cell := (e.row, e.column, e.new)

end CellEdit

namespace Matrix

/-! ### The closed form -/

def rowsNeeded (edits : List CellEdit) : Nat := (edits.map fun e => e.row + 1).foldr max 0

def columnsNeeded (edits : List CellEdit) (i : Nat) : Nat :=
  ((edits.filter fun e => e.row = i).map fun e => e.column + 1).foldr max 0

def lastWrite (edits : List CellEdit) (i j : Nat) : Option Cell :=
  ((edits.filter fun e => e.row = i ∧ e.column = j).getLast?).map CellEdit.new

def rowOr (m : Matrix) (i : Nat) : List Cell := (m.rows[i]?).getD []

def lengthOr (m : Matrix) (i : Nat) : Nat := (m.rowLength i).getD 0

def cellOr (m : Matrix) (i j : Nat) : Cell := (m.get i j).getD .empty

/-- The data that `edits`, every one applied, make of `m`, described position by position. -/
def described (m : Matrix) (edits : List CellEdit) : Matrix :=
  ⟨(List.range (max m.rowCount (rowsNeeded edits))).map fun i =>
    (List.range (max (m.lengthOr i) (columnsNeeded edits i))).map fun j =>
      (lastWrite edits i j).getD (m.cellOr i j)⟩

theorem rowsNeeded_cons (e : CellEdit) (edits : List CellEdit) :
    rowsNeeded (e :: edits) = max (e.row + 1) (rowsNeeded edits) := rfl

theorem columnsNeeded_cons (e : CellEdit) (edits : List CellEdit) (i : Nat) :
    columnsNeeded (e :: edits) i =
      if e.row = i then max (e.column + 1) (columnsNeeded edits i) else columnsNeeded edits i := by
  by_cases same : e.row = i <;> simp [columnsNeeded, same]

theorem getD_lastWrite_cons (e : CellEdit) (edits : List CellEdit) (i j : Nat) (c : Cell) :
    (lastWrite (e :: edits) i j).getD c =
      (lastWrite edits i j).getD (if e.row = i ∧ e.column = j then e.new else c) := by
  unfold lastWrite
  by_cases here : e.row = i ∧ e.column = j
  · simp only [List.filter_cons, here, and_self, decide_true, if_true, List.getLast?_cons]
    cases (edits.filter fun e => e.row = i ∧ e.column = j).getLast? <;> rfl
  · simp only [List.filter_cons, here, decide_false, Bool.false_eq_true, if_false]

/-! ### Reading a missing row as an empty one -/

theorem lengthOr_eq (m : Matrix) (i : Nat) : m.lengthOr i = (m.rowOr i).length := by
  simp only [lengthOr, rowOr, rowLength]
  cases m.rows[i]? <;> rfl

theorem cellOr_eq (m : Matrix) (i j : Nat) : m.cellOr i j = ((m.rowOr i)[j]?).getD .empty := by
  simp only [cellOr, rowOr, get]
  cases m.rows[i]? <;> rfl

theorem rowOr_padRows (rows : List (List Cell)) (n i : Nat) :
    (⟨padRows rows n⟩ : Matrix).rowOr i = (⟨rows⟩ : Matrix).rowOr i := by
  simp only [rowOr, getElem?_padRows]
  split
  · rfl
  · rename_i past
    have : rows[i]? = none := List.getElem?_eq_none (Nat.le_of_not_lt past)
    split <;> simp [this]

theorem rowOr_setCell (rows : List (List Cell)) (e : CellEdit) (i : Nat) :
    (⟨setCell rows e⟩ : Matrix).rowOr i =
      if i = e.row then editedRow e ((⟨rows⟩ : Matrix).rowOr i) else (⟨rows⟩ : Matrix).rowOr i := by
  have padded := rowOr_padRows rows (e.row + 1) i
  simp only [rowOr] at padded ⊢
  rw [getElem?_setCell]
  split
  · rename_i edited
    -- the padded rows reach the edited row, so it is there to be rewritten
    have reached : i < (padRows rows (e.row + 1)).length := by rw [length_padRows]; omega
    rw [List.getElem?_eq_getElem reached] at padded ⊢
    simp only [Option.getD_some, Option.map_some] at padded ⊢
    rw [padded]
  · exact padded

theorem getElem?_padRow (row : List Cell) (n j : Nat) :
    (padRow row n)[j]? = if j < row.length then row[j]? else if j < n then some .empty else none := by
  unfold padRow
  by_cases old : j < row.length
  · split <;> simp [old, List.getElem?_append_left]
  · split
    · simp [old]
      omega
    · have past : j - row.length < n - row.length ↔ j < n := by omega
      simp [List.getElem?_append_right (Nat.le_of_not_lt old), List.getElem?_replicate, past]

theorem getD_editedRow (e : CellEdit) (row : List Cell) (j : Nat) :
    ((editedRow e row)[j]?).getD .empty = if j = e.column then e.new else (row[j]?).getD .empty := by
  have reached : e.column < (padRow row (e.column + 1)).length := by rw [length_padRow]; omega
  simp only [editedRow, List.getElem?_set, reached, if_true]
  by_cases edited : j = e.column
  · simp [edited]
  · simp only [Ne.symm edited, edited, if_false, getElem?_padRow]
    split
    · rfl
    · rename_i past
      have : row[j]? = none := List.getElem?_eq_none (Nat.le_of_not_lt past)
      split <;> simp [this]

theorem lengthOr_setCell (rows : List (List Cell)) (e : CellEdit) (i : Nat) :
    (⟨setCell rows e⟩ : Matrix).lengthOr i =
      if i = e.row then max ((⟨rows⟩ : Matrix).lengthOr i) (e.column + 1)
      else (⟨rows⟩ : Matrix).lengthOr i := by
  rw [lengthOr_eq, lengthOr_eq, rowOr_setCell]
  split
  · exact length_editedRow e _
  · rfl

theorem cellOr_setCell (rows : List (List Cell)) (e : CellEdit) (i j : Nat) :
    (⟨setCell rows e⟩ : Matrix).cellOr i j =
      if e.row = i ∧ e.column = j then e.new else (⟨rows⟩ : Matrix).cellOr i j := by
  rw [cellOr_eq, cellOr_eq, rowOr_setCell]
  by_cases edited : i = e.row
  · subst edited
    simp only [if_true, true_and, getD_editedRow]
    by_cases column : j = e.column
    · simp [column]
    · simp [column, Ne.symm column]
  · simp [edited, Ne.symm edited]

/-! ### One edit at a time -/

theorem described_nil (m : Matrix) : described m [] = m := by
  obtain ⟨rows⟩ := m
  have noRows : rowsNeeded [] = 0 := rfl
  have noColumns : ∀ i, columnsNeeded [] i = 0 := fun _ => rfl
  have noWrites : ∀ i j, lastWrite [] i j = none := fun _ _ => rfl
  simp only [described, noRows, noColumns, noWrites, rowCount, Nat.max_zero, Option.getD_none]
  congr 1
  refine List.ext_getElem (by simp) fun i inside _ => ?_
  have found : rows[i]? = some rows[i] := List.getElem?_eq_getElem (by simpa using inside)
  simp only [List.getElem_map, List.getElem_range]
  refine List.ext_getElem (by simp [lengthOr, rowLength, found]) fun j _ cell => ?_
  simp [cellOr, get, found, List.getElem?_eq_getElem cell]

theorem described_cons (rows : List (List Cell)) (e : CellEdit) (edits : List CellEdit) :
    described ⟨setCell rows e⟩ edits = described ⟨rows⟩ (e :: edits) := by
  have count : max (setCell rows e).length (rowsNeeded edits) =
      max rows.length (rowsNeeded (e :: edits)) := by
    rw [length_setCell, rowsNeeded_cons]
    omega
  simp only [described, rowCount, count]
  congr 1
  refine List.map_congr_left fun i _ => ?_
  have width : max ((⟨setCell rows e⟩ : Matrix).lengthOr i) (columnsNeeded edits i) =
      max ((⟨rows⟩ : Matrix).lengthOr i) (columnsNeeded (e :: edits) i) := by
    rw [lengthOr_setCell, columnsNeeded_cons]
    by_cases edited : i = e.row
    · simp only [edited, if_true]
      omega
    · simp only [edited, Ne.symm edited, if_false]
  rw [width]
  refine List.map_congr_left fun j _ => ?_
  rw [cellOr_setCell, getD_lastWrite_cons]

theorem applyEdits_eq_described (bounds : Nat × Nat) :
    ∀ (edits : List CellEdit) (rows : List (List Cell)),
      (⟨applyEdits bounds rows edits⟩ : Matrix) =
        described ⟨rows⟩ (edits.filter (inBounds bounds))
  | [], rows => (described_nil _).symm
  | e :: edits, rows => by
    rw [applyEdits_cons, applyEdits_eq_described bounds edits]
    by_cases inside : inBounds bounds e = true
    · rw [if_pos inside, List.filter_cons_of_pos inside]
      exact described_cons rows e _
    · rw [if_neg inside, List.filter_cons_of_neg inside]

theorem withEdits_eq_described (m : Matrix) (edits : List CellEdit) (bounds : Nat × Nat) :
    m.withEdits edits bounds = described m (edits.filter (inBounds bounds)) :=
  applyEdits_eq_described bounds edits m.rows

/-! ### Reading the closed form -/

theorem rowCount_described (m : Matrix) (edits : List CellEdit) :
    (described m edits).rowCount = max m.rowCount (rowsNeeded edits) := by
  simp [described, rowCount]

theorem rowLength_described (m : Matrix) (edits : List CellEdit) (i : Nat) :
    (described m edits).rowLength i =
      if i < max m.rowCount (rowsNeeded edits) then
        some (max (m.lengthOr i) (columnsNeeded edits i))
      else none := by
  simp only [described, rowLength, List.getElem?_map]
  by_cases row : i < max m.rowCount (rowsNeeded edits)
  · simp [row]
  · simp [row]

theorem get_described (m : Matrix) (edits : List CellEdit) (i j : Nat) :
    (described m edits).get i j =
      if i < max m.rowCount (rowsNeeded edits) ∧ j < max (m.lengthOr i) (columnsNeeded edits i)
      then some ((lastWrite edits i j).getD (m.cellOr i j))
      else none := by
  simp only [described, get, List.getElem?_map]
  -- a position outside the described rows, or outside its row, holds no cell
  by_cases row : i < max m.rowCount (rowsNeeded edits)
  · by_cases column : j < max (m.lengthOr i) (columnsNeeded edits i)
    · simp [row, column]
    · simp [row, column]
  · simp [row]

/-! ### What an edit's old value and the bounds' width do -/

theorem setCell_congr_effect (rows : List (List Cell)) {e e' : CellEdit}
    (same : e'.effect = e.effect) : setCell rows e' = setCell rows e := by
  simp only [CellEdit.effect, Prod.mk.injEq] at same
  simp only [setCell, same]

theorem inBounds_congr_effect (bounds : Nat × Nat) {e e' : CellEdit}
    (same : e'.effect = e.effect) : inBounds bounds e' = inBounds bounds e := by
  simp only [CellEdit.effect, Prod.mk.injEq] at same
  simp only [inBounds, same]

theorem applyEdits_congr_effect (bounds : Nat × Nat) :
    ∀ (edits others : List CellEdit) (rows : List (List Cell)),
      others.map CellEdit.effect = edits.map CellEdit.effect →
        applyEdits bounds rows others = applyEdits bounds rows edits
  | [], [], _, _ => rfl
  | e :: edits, e' :: others, rows, same => by
    simp only [List.map_cons, List.cons.injEq] at same
    rw [applyEdits_cons, applyEdits_cons, inBounds_congr_effect bounds same.1,
      setCell_congr_effect rows same.1]
    exact applyEdits_congr_effect bounds edits others _ same.2
  | [], _ :: _, _, same => by simp at same
  | _ :: _, [], _, same => by simp at same

theorem succ_le_sizeLimit_of_inBounds {bounds : Nat × Nat} (rows : bounds.1 ≤ sizeLimit)
    (columns : bounds.2 ≤ sizeLimit) {e : CellEdit} (inside : inBounds bounds e = true) :
    e.row + 1 ≤ sizeLimit ∧ e.column + 1 ≤ sizeLimit := by
  simp only [inBounds, Bool.and_eq_true, decide_eq_true_eq] at inside
  omega

/-- Applying a batch of edits, in closed form: the rows are the old ones or the ones the applied
edits need, each row as long as it was or as its edits need, and every cell holds the last value
written there, else the old cell, else an empty one. Old values play no part, and inside 64-bit
bounds no position overflows. The workbook reducer applies a batch inside the bounds its
settings declared before it. -/
theorem withEdits_closed_form (m : Matrix) (edits : List CellEdit) (bounds : Nat × Nat) :
    let applied := edits.filter (inBounds bounds)
    let rows := max m.rowCount (rowsNeeded applied)
    let width := fun i => max (m.lengthOr i) (columnsNeeded applied i)
    (m.withEdits edits bounds).rowCount = rows ∧
    (∀ i, (m.withEdits edits bounds).rowLength i = if i < rows then some (width i) else none) ∧
    (∀ i j, (m.withEdits edits bounds).get i j =
      if i < rows ∧ j < width i then some ((lastWrite applied i j).getD (m.cellOr i j))
      else none) ∧
    (∀ others : List CellEdit, others.map CellEdit.effect = edits.map CellEdit.effect →
      m.withEdits others bounds = m.withEdits edits bounds) ∧
    (bounds.1 ≤ sizeLimit → bounds.2 ≤ sizeLimit →
      ∀ e ∈ applied, e.row + 1 ≤ sizeLimit ∧ e.column + 1 ≤ sizeLimit) ∧
    ∀ w : Workbook, (reduceWorkbook w (.editCells edits)).settings.data =
      described w.settings.data (edits.filter fun e => w.settings.accepts e.row e.column) := by
  intro applied rows width
  have closed : m.withEdits edits bounds = described m applied := withEdits_eq_described m edits bounds
  refine ⟨closed ▸ rowCount_described m applied, closed ▸ rowLength_described m applied,
    closed ▸ get_described m applied, ?_, ?_, ?_⟩
  · intro others same
    exact congrArg Matrix.mk (applyEdits_congr_effect bounds edits others m.rows same)
  · intro rowsFit columnsFit e mem
    exact succ_le_sizeLimit_of_inBounds rowsFit columnsFit (List.mem_filter.1 mem).2
  · intro w
    exact withEdits_eq_described _ _ _

end Matrix

end SheetStore
