import SheetStore.Grid.Settings
import Mathlib.Data.List.Basic

/-! Applying edits to the grid's data: every row and cell stays, an unaddressed row is left
as it was, and the data grows no further than the bounds.
-/

set_option autoImplicit false

namespace SheetStore

namespace Matrix

/-! ### Padding and setting one cell -/

theorem length_padRow (row : List Cell) (n : Nat) : (padRow row n).length = max row.length n := by
  unfold padRow
  split
  · omega
  · simp only [List.length_append, List.length_replicate]
    omega

theorem getElem?_padRows (rows : List (List Cell)) (n i : Nat) :
    (padRows rows n)[i]? =
      if i < rows.length then rows[i]? else if i < n then some [] else none := by
  unfold padRows
  by_cases old : i < rows.length
  · split <;> simp [old, List.getElem?_append_left]
  · split
    · simp [old]
      omega
    · have past : i - rows.length < n - rows.length ↔ i < n := by omega
      simp [List.getElem?_append_right (Nat.le_of_not_lt old), List.getElem?_replicate, past]

theorem length_padRows (rows : List (List Cell)) (n : Nat) :
    (padRows rows n).length = max rows.length n := by
  unfold padRows
  split
  · omega
  · simp only [List.length_append, List.length_replicate]
    omega

/-- The row an edit writes: its old row, or an empty one, padded to the cell and with the cell
set. -/
def editedRow (e : CellEdit) (row : List Cell) : List Cell :=
  (padRow row (e.column + 1)).set e.column e.new

theorem length_editedRow (e : CellEdit) (row : List Cell) :
    (editedRow e row).length = max row.length (e.column + 1) := by
  simp [editedRow, length_padRow]

theorem length_setCell (rows : List (List Cell)) (e : CellEdit) :
    (setCell rows e).length = max rows.length (e.row + 1) := by
  simp [setCell, length_padRows]

theorem getElem?_setCell (rows : List (List Cell)) (e : CellEdit) (i : Nat) :
    (setCell rows e)[i]? =
      if i = e.row then ((padRows rows (e.row + 1))[i]?).map (editedRow e)
      else (padRows rows (e.row + 1))[i]? := by
  simp only [setCell, List.getElem?_modify]
  by_cases edited : i = e.row
  · subst edited
    simp only [↓reduceIte]
    rfl
  · simp [edited, Ne.symm edited]

theorem getElem?_setCell_of_ne {rows : List (List Cell)} {e : CellEdit} {i : Nat}
    (inside : i < rows.length) (other : i ≠ e.row) : (setCell rows e)[i]? = rows[i]? := by
  simp [getElem?_setCell, other, getElem?_padRows, inside]

theorem mem_padRows {rows : List (List Cell)} {n : Nat} {r : List Cell}
    (mem : r ∈ padRows rows n) : r ∈ rows ∨ r = [] := by
  unfold padRows at mem
  split at mem
  · exact .inl mem
  · rcases List.mem_append.1 mem with old | padded
    · exact .inl old
    · exact .inr (List.eq_of_mem_replicate padded)

theorem mem_setCell {rows : List (List Cell)} {e : CellEdit} {r : List Cell}
    (mem : r ∈ setCell rows e) :
    r ∈ rows ∨ r = [] ∨ ∃ old, (old ∈ rows ∨ old = []) ∧ r = editedRow e old := by
  obtain ⟨i, found⟩ := List.mem_iff_getElem?.1 mem
  rw [getElem?_setCell] at found
  split at found
  · obtain ⟨old, oldFound, rfl⟩ := Option.map_eq_some_iff.1 found
    exact .inr (.inr ⟨old, mem_padRows (List.mem_of_getElem? oldFound), rfl⟩)
  · exact (mem_padRows (List.mem_of_getElem? found)).imp_right .inl

/-! ### Runs of edits -/

theorem applyEdits_cons (bounds : Nat × Nat) (rows : List (List Cell)) (e : CellEdit)
    (edits : List CellEdit) :
    applyEdits bounds rows (e :: edits) =
      applyEdits bounds (if inBounds bounds e then setCell rows e else rows) edits := rfl

theorem getElem?_applyEdits_of_unaddressed (bounds : Nat × Nat) :
    ∀ (edits : List CellEdit) (rows : List (List Cell)) {i : Nat}, i < rows.length →
      (∀ e ∈ edits, inBounds bounds e = true → e.row ≠ i) →
      (applyEdits bounds rows edits)[i]? = rows[i]?
  | [], _, _, _, _ => rfl
  | e :: edits, rows, i, inside, unaddressed => by
    have later : ∀ e ∈ edits, inBounds bounds e = true → e.row ≠ i :=
      fun e' mem => unaddressed e' (List.mem_cons_of_mem e mem)
    rw [applyEdits_cons]
    by_cases applied : inBounds bounds e = true
    · -- the first edit pads and sets another row: row `i` is still there, unchanged
      have other : i ≠ e.row := Ne.symm (unaddressed e List.mem_cons_self applied)
      have still : i < (setCell rows e).length := by rw [length_setCell]; omega
      rw [if_pos applied, getElem?_applyEdits_of_unaddressed bounds edits _ still later,
        getElem?_setCell_of_ne inside other]
    · rw [if_neg applied]
      exact getElem?_applyEdits_of_unaddressed bounds edits rows inside later

theorem length_applyEdits_le (bounds : Nat × Nat) :
    ∀ (edits : List CellEdit) (rows : List (List Cell)),
      (applyEdits bounds rows edits).length ≤ max rows.length bounds.1
  | [], rows => Nat.le_max_left _ _
  | e :: edits, rows => by
    have first : (if inBounds bounds e then setCell rows e else rows).length ≤
        max rows.length bounds.1 := by
      split
      · rename_i applied
        simp only [inBounds, Bool.and_eq_true, decide_eq_true_eq] at applied
        rw [length_setCell]
        omega
      · exact Nat.le_max_left _ _
    have rest := length_applyEdits_le bounds edits (if inBounds bounds e then setCell rows e else rows)
    rw [applyEdits_cons]
    omega

theorem rows_applyEdits_le {bounds : Nat × Nat} {k : Nat} (columns : bounds.2 ≤ k) :
    ∀ (edits : List CellEdit) (rows : List (List Cell)), (∀ r ∈ rows, r.length ≤ k) →
      ∀ r ∈ applyEdits bounds rows edits, r.length ≤ k
  | [], _, short => short
  | e :: edits, rows, short => by
    rw [applyEdits_cons]
    refine rows_applyEdits_le columns edits _ ?_
    split
    · rename_i applied
      simp only [inBounds, Bool.and_eq_true, decide_eq_true_eq] at applied
      intro r mem
      rcases mem_setCell mem with old | rfl | ⟨old, source, rfl⟩
      · exact short r old
      · simp
      · -- the edited row is an old row or an empty one, padded to a column inside the bounds
        have : old.length ≤ k := source.elim (short old) fun empty => by simp [empty]
        rw [length_editedRow]
        omega
    · exact short

/-! ### Growth -/

theorem contains_iff (m : Matrix) (row column : Nat) :
    m.contains row column = true ↔ ∃ r, m.rows[row]? = some r ∧ column < r.length := by
  simp only [contains, get]
  cases m.rows[row]? with
  | none => simp
  | some r => simp

def Grows (m m' : Matrix) : Prop :=
  ∀ i n, m.rowLength i = some n → ∃ n', m'.rowLength i = some n' ∧ n ≤ n'

namespace Grows

theorem refl (m : Matrix) : Grows m m := fun _ n found => ⟨n, found, Nat.le_refl n⟩

theorem trans {m₁ m₂ m₃ : Matrix} (first : Grows m₁ m₂) (second : Grows m₂ m₃) :
    Grows m₁ m₃ := by
  intro i n found
  obtain ⟨n₂, found₂, longer₂⟩ := first i n found
  obtain ⟨n₃, found₃, longer₃⟩ := second i n₂ found₂
  exact ⟨n₃, found₃, Nat.le_trans longer₂ longer₃⟩

theorem rowCount_le {m m' : Matrix} (h : Grows m m') : m.rowCount ≤ m'.rowCount := by
  cases count : m.rowCount with
  | zero => exact Nat.zero_le _
  | succ last =>
    -- the last row of `m` is still a row of `m'`
    have inside : last < m.rows.length := by simp only [rowCount] at count; omega
    obtain ⟨n', found', -⟩ :=
      h last m.rows[last].length (by simp [rowLength, List.getElem?_eq_getElem inside])
    obtain ⟨row', found'', -⟩ := Option.map_eq_some_iff.1 found'
    have := (List.getElem?_eq_some_iff.1 found'').1
    simp only [rowCount]
    omega

theorem contains {m m' : Matrix} (h : Grows m m') {row column : Nat}
    (present : m.contains row column = true) : m'.contains row column = true := by
  obtain ⟨r, found, inside⟩ := (m.contains_iff row column).1 present
  obtain ⟨n', found', longer⟩ := h row r.length (by simp [rowLength, found])
  obtain ⟨r', rowFound', rfl⟩ := Option.map_eq_some_iff.1 found'
  exact (m'.contains_iff row column).2 ⟨r', rowFound', by omega⟩

end Grows

theorem grows_setCell (rows : List (List Cell)) (e : CellEdit) :
    Grows ⟨rows⟩ ⟨setCell rows e⟩ := by
  intro i n found
  obtain ⟨r, rowFound, rfl⟩ := Option.map_eq_some_iff.1 found
  have inside : i < rows.length := (List.getElem?_eq_some_iff.1 rowFound).1
  by_cases edited : i = e.row
  · subst edited
    refine ⟨(editedRow e r).length, ?_, by rw [length_editedRow]; omega⟩
    rw [rowLength, getElem?_setCell, if_pos rfl, getElem?_padRows, if_pos inside]
    simp only at rowFound
    simp [rowFound]
  · exact ⟨r.length, by simp [rowLength, getElem?_setCell_of_ne inside edited, rowFound],
      Nat.le_refl _⟩

theorem grows_withEdits (m : Matrix) (edits : List CellEdit) (bounds : Nat × Nat) :
    Grows m (m.withEdits edits bounds) := by
  obtain ⟨rows⟩ := m
  induction edits generalizing rows with
  | nil => exact Grows.refl _
  | cons e edits ih =>
    -- the first edit grows the rows, and the rest grows what it left
    have first : Grows ⟨rows⟩ ⟨if inBounds bounds e then setCell rows e else rows⟩ := by
      split
      · exact grows_setCell rows e
      · exact Grows.refl _
    exact first.trans (ih _)

/-! ### The longest row -/

theorem foldl_max_le_iff (rows : List (List Cell)) (start k : Nat) :
    rows.foldl (fun acc r => max acc r.length) start ≤ k ↔
      start ≤ k ∧ ∀ r ∈ rows, r.length ≤ k := by
  induction rows generalizing start with
  | nil => simp
  | cons r rows ih =>
    simp only [List.foldl_cons, ih, List.mem_cons, forall_eq_or_imp, Nat.max_le, and_assoc]

theorem maxRowLength_le_iff (m : Matrix) (k : Nat) :
    m.maxRowLength ≤ k ↔ ∀ r ∈ m.rows, r.length ≤ k := by
  simp [maxRowLength, foldl_max_le_iff]

theorem length_le_maxRowLength {m : Matrix} {r : List Cell} (mem : r ∈ m.rows) :
    r.length ≤ m.maxRowLength :=
  (m.maxRowLength_le_iff m.maxRowLength).1 (Nat.le_refl _) r mem

theorem Grows.maxRowLength_le {m m' : Matrix} (h : Grows m m') :
    m.maxRowLength ≤ m'.maxRowLength := by
  refine (m.maxRowLength_le_iff _).2 fun r mem => ?_
  obtain ⟨i, found⟩ := List.mem_iff_getElem?.1 mem
  obtain ⟨n', found', longer⟩ := h i r.length (by simp [rowLength, found])
  obtain ⟨r', rowFound', rfl⟩ := Option.map_eq_some_iff.1 found'
  exact Nat.le_trans longer (length_le_maxRowLength (List.mem_of_getElem? rowFound'))

/-! ### How far edits grow the data -/

theorem rowCount_withEdits_le (m : Matrix) (edits : List CellEdit) (bounds : Nat × Nat) :
    (m.withEdits edits bounds).rowCount ≤ max m.rowCount bounds.1 :=
  length_applyEdits_le bounds edits m.rows

theorem maxRowLength_withEdits_le (m : Matrix) (edits : List CellEdit) (bounds : Nat × Nat) :
    (m.withEdits edits bounds).maxRowLength ≤ max m.maxRowLength bounds.2 := by
  refine ((m.withEdits edits bounds).maxRowLength_le_iff _).2 ?_
  exact rows_applyEdits_le (Nat.le_max_right _ _) edits m.rows
    fun r mem => Nat.le_trans (length_le_maxRowLength mem) (Nat.le_max_left _ _)

theorem row_withEdits_of_unaddressed (m : Matrix) (edits : List CellEdit) (bounds : Nat × Nat)
    {i : Nat} (inside : i < m.rowCount)
    (unaddressed : ∀ e ∈ edits, inBounds bounds e = true → e.row ≠ i) :
    (m.withEdits edits bounds).rows[i]? = m.rows[i]? :=
  getElem?_applyEdits_of_unaddressed bounds edits m.rows inside unaddressed

end Matrix

end SheetStore
